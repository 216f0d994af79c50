/-
# Ranking as a function of a set

A list that rises strictly in completion order is determined by its members: it has no other order
and repeats nothing. Ranking gives such a list. Dropping what equals its neighbour is enough for
that, because sorting brings equal texts together even where other texts fold alike. So the order
and the repeats of what is ranked have no say, and ranking the merged views of a candidate set is
looking the word up in one of them.
-/

import Mathlib.Data.List.Sort
import SqlAssist.Proofs.Candidates.Completion

namespace SqlAssist

variable {candidates other names : List String} {typed name : String}

/-! ## Order and members -/

/-- Equal members of a sorted list are neighbours, so only one of them is left. -/
theorem pairwise_lt_dropRepeats
    (sorted : names.Pairwise fun a b => (candidateOrder a b).isLE = true) :
    (dropRepeats names).Pairwise fun a b => candidateOrder a b = .lt := by
  fun_induction dropRepeats names with
  | case1 => exact .nil
  | case2 name => exact List.pairwise_singleton _ name
  | case3 first rest ih => exact ih (List.pairwise_cons.mp sorted).2
  | case4 first second rest different ih =>
      obtain ⟨least, later⟩ := List.pairwise_cons.mp sorted
      have next : candidateOrder first second = .lt :=
        candidateOrder_eq_lt_of_ne (least second List.mem_cons_self) different
      apply List.pairwise_cons.mpr
      constructor
      -- What is left of the later members is not below `second`, which is above `first`.
      · intro name member
        rw [mem_dropRepeats, List.mem_cons] at member
        cases member with
        | inl same =>
            rw [same]
            exact next
        | inr member =>
            have ordered := (List.pairwise_cons.mp later).1 name member
            exact Std.TransCmp.lt_of_lt_of_isLE next ordered
      · exact ih later

theorem pairwise_lt_rank (candidates : List String) (typed : String) :
    (rank candidates typed).Pairwise fun a b => candidateOrder a b = .lt :=
  pairwise_lt_dropRepeats (pairwise_isLE_mergeSort _)

@[simp]
theorem mem_rank_iff :
    name ∈ rank candidates typed ↔ name ∈ candidates ∧ startsFolded typed name = true := by
  rw [rank, mem_dropRepeats, List.mem_mergeSort, List.mem_filter]

/-- Candidates that differ in order and repeats only are ranked alike. -/
theorem rank_congr (same : ∀ name, name ∈ other ↔ name ∈ candidates) (typed : String) :
    rank other typed = rank candidates typed := by
  apply (pairwise_lt_rank other typed).eq_of_mem_iff (pairwise_lt_rank candidates typed)
  intro name
  rw [mem_rank_iff, mem_rank_iff, same]

/-! ## Views of fewer names -/

/-- The view of some of the names is the view of all of them without the others. -/
theorem View.texts_ofNames_of_subset {fewer all : NameSet}
    (within : ∀ name, name ∈ fewer → name ∈ all) :
    (ofNames fewer).texts = (ofNames all).texts.filter (· ∈ fewer) := by
  apply (pairwise_lt_texts_ofNames fewer).eq_of_mem_iff
  · exact (pairwise_lt_texts_ofNames all).filter _
  · intro name
    rw [List.mem_filter, mem_texts_ofNames, mem_texts_ofNames, decide_eq_true_iff]
    constructor
    · intro member
      exact ⟨within name member, member⟩
    · exact And.right

namespace CandidateSet

/-- The schema names stand among all candidates, in the same order. -/
theorem texts_schemaOnly (set : CandidateSet) :
    set.schemaOnly.texts = set.all.texts.filter (· ∈ set.schemaNames) := by
  rw [set.schemaOnly_eq, set.all_eq]
  apply View.texts_ofNames_of_subset
  intro name member
  exact Std.ExtTreeSet.mem_union_iff.mpr (.inr member)

theorem mem_schemaOnly_iff (set : CandidateSet) :
    name ∈ set.schemaOnly.texts ↔ name ∈ set.schemaNames := by
  rw [set.schemaOnly_eq, View.mem_texts_ofNames]

theorem sublist_schemaOnly_all (set : CandidateSet) :
    set.schemaOnly.texts.Sublist set.all.texts := by
  rw [texts_schemaOnly]
  exact List.filter_sublist

/-- Merging the two views adds repeats only. -/
theorem mem_all_append_schemaOnly (set : CandidateSet) :
    name ∈ set.all.texts ++ set.schemaOnly.texts ↔ name ∈ set.all.texts := by
  rw [List.mem_append]
  constructor
  · intro member
    exact member.elim id (set.sublist_schemaOnly_all.subset ·)
  · exact .inl

end CandidateSet

/-! ## The one ranking of a set -/

/-- **Ranking depends on the set of candidates only.** It gives the one list that rises strictly in
completion order and whose members are the candidates that begin with the typed word, case set
aside. So it repeats nothing, it is the same for every list with the same members, however these are
ordered and repeated, and ranking once more changes nothing. Ranking the two views of a candidate
set one after the other is looking the word up among all candidates. -/
theorem rank_exact (candidates : List String) (typed : String) :
    (∀ ranked : List String, ranked = rank candidates typed ↔
      ranked.Pairwise (fun a b => candidateOrder a b = .lt) ∧
        ∀ name, name ∈ ranked ↔ name ∈ candidates ∧
          (Text.foldCase typed).toList <+: (Text.foldCase name).toList) ∧
    (rank candidates typed).Nodup ∧
    (∀ other : List String, (∀ name, name ∈ other ↔ name ∈ candidates) →
      rank other typed = rank candidates typed) ∧
    rank (rank candidates typed) typed = rank candidates typed ∧
    ∀ set : CandidateSet,
      rank (set.all.texts ++ set.schemaOnly.texts) typed = set.all.matching typed := by
  have rising := pairwise_lt_rank candidates typed
  refine ⟨?_, rising.nodup, fun other same => rank_congr same typed, ?_, ?_⟩
  · intro ranked
    simp only [← startsFolded_iff]
    constructor
    · rintro rfl
      exact ⟨rising, fun _ => mem_rank_iff⟩
    · rintro ⟨increasing, members⟩
      apply increasing.eq_of_mem_iff rising
      intro name
      rw [members, mem_rank_iff]
  · rw [rank_eq_filter rising, List.filter_eq_self]
    intro name member
    exact (mem_rank_iff.mp member).2
  · intro set
    rw [rank_congr (fun _ => set.mem_all_append_schemaOnly) typed, set.all_eq,
      View.matching_ofNames, rank_eq_filter (View.pairwise_lt_texts_ofNames _)]

end SqlAssist
