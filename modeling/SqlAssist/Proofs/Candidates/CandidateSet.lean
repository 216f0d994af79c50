/-
# What a candidate set holds

A candidate set is determined by its keywords and its schema names, and any two sets of names
without the empty name make one.
-/

import SqlAssist.Candidates.CandidateSet

namespace SqlAssist.CandidateSet

variable {keywords schemaNames : NameSet} {set : CandidateSet}

/-- Building gives the one set with these keywords and schema names. -/
theorem build_eq_ok_iff :
    build keywords schemaNames = .ok set ↔
      set.keywords = keywords ∧ set.schemaNames = schemaNames := by
  obtain ⟨k, n, all, schemaOnly, all_eq, schemaOnly_eq, k_nonEmpty, n_nonEmpty⟩ := set
  subst all_eq schemaOnly_eq
  unfold build
  constructor
  · intro made
    split at made
    · simp at made
    · split at made
      · simp at made
      · cases made
        exact ⟨rfl, rfl⟩
  · rintro ⟨rfl, rfl⟩
    rw [dif_neg k_nonEmpty, dif_neg n_nonEmpty]

theorem exists_build_eq_ok_iff :
    (∃ set, build keywords schemaNames = .ok set) ↔ "" ∉ keywords ∧ "" ∉ schemaNames := by
  constructor
  · rintro ⟨set, made⟩
    obtain ⟨rfl, rfl⟩ := build_eq_ok_iff.mp made
    exact ⟨set.keywords_nonEmpty, set.schemaNames_nonEmpty⟩
  · rintro ⟨k_nonEmpty, n_nonEmpty⟩
    unfold build
    rw [dif_neg k_nonEmpty, dif_neg n_nonEmpty]
    exact ⟨_, rfl⟩

theorem exists_build_ofList {keywords names : List String} (k_nonEmpty : "" ∉ keywords)
    (n_nonEmpty : "" ∉ names) :
    ∃ set, build (NameSet.ofList keywords) (NameSet.ofList names) = .ok set :=
  exists_build_eq_ok_iff.mpr ⟨by simpa using k_nonEmpty, by simpa using n_nonEmpty⟩

end SqlAssist.CandidateSet
