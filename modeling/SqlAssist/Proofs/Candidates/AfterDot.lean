/-
# Completion after a dot

After a dot the options may leave the keywords out. The answer then comes from a view of its own,
with a binary search of its own, but it is the other answer without what is no schema name: the two
views hold the schema names in the same order. A keyword that is a schema name as well stays.
-/

import SqlAssist.Proofs.Candidates.CandidateSet
import SqlAssist.Proofs.Candidates.Ranking

namespace SqlAssist.CandidateSet

/-- Choosing among the schema names is choosing among all candidates, then among these the schema
names. -/
theorem filter_schemaOnly (set : CandidateSet) (holds : String → Bool) :
    set.schemaOnly.texts.filter holds =
      (set.all.texts.filter holds).filter (· ∈ set.schemaNames) := by
  rw [texts_schemaOnly]
  exact List.filter_comm _ _ _

theorem matching_schemaOnly (set : CandidateSet) (typed : String) :
    set.schemaOnly.matching typed = (set.all.matching typed).filter (· ∈ set.schemaNames) := by
  calc
    _ = set.schemaOnly.texts.filter (startsFolded typed) := by
      rw [set.schemaOnly_eq, View.matching_ofNames]
    _ = (set.all.texts.filter (startsFolded typed)).filter (· ∈ set.schemaNames) :=
      set.filter_schemaOnly _
    _ = _ := by
      rw [set.all_eq, View.matching_ofNames]

/-- The option restricts the answer after a dot and leaves every other answer alone. -/
theorem completeToken_schemaOnlyAfterDot (set : CandidateSet) (token : Sql.PartialToken) :
    set.completeToken ⟨true⟩ token =
      if token.lead.toList.getLast? = some '.'
      then (set.completeToken ⟨false⟩ token).filter (· ∈ set.schemaNames)
      else set.completeToken ⟨false⟩ token := by
  have unrestricted : (set.viewFor ⟨false⟩ token).texts = set.all.texts := by
    rw [texts_viewFor]
    exact if_neg (by simp)
  rw [completeToken_eq_filter, completeToken_eq_filter, unrestricted, texts_viewFor]
  by_cases dot : token.lead.toList.getLast? = some '.'
  · rw [if_pos ⟨rfl, dot⟩, if_pos dot]
    exact set.filter_schemaOnly _
  · rw [if_neg (dot ·.2), if_neg dot]

/-- **The dot option only leaves out.** At every cursor that is a boundary of characters both
settings give an answer. If the text before the partial token ends in a dot, the answer with the
option is the answer without it, restricted to the schema names in their order; elsewhere the two
are equal. A look-up among the schema names is, in the same way, a restricted look-up among all
candidates. -/
theorem complete_schemaOnlyAfterDot (set : CandidateSet) :
    (∀ (buffer : String) (cursor : Nat), String.Pos.Raw.IsValid buffer ⟨cursor⟩ →
      ∃ token rest offered,
        Sql.PartialToken.atCursor buffer cursor = .ok token ∧
        buffer = token.lead ++ token.text ++ rest ∧
        (token.lead ++ token.text).utf8ByteSize = cursor ∧
        set.complete ⟨false⟩ buffer cursor = .ok offered ∧
        set.complete ⟨true⟩ buffer cursor = .ok
          (if token.lead.toList.getLast? = some '.'
            then offered.filter (· ∈ set.schemaOnly.texts) else offered)) ∧
    ∀ typed : String,
      set.schemaOnly.matching typed =
        (set.all.matching typed).filter (· ∈ set.schemaOnly.texts) := by
  simp only [mem_schemaOnly_iff]
  refine ⟨?_, set.matching_schemaOnly⟩
  intro buffer cursor boundary
  obtain ⟨token, found⟩ := Sql.PartialToken.exists_atCursor_eq_ok_iff.mpr boundary
  obtain ⟨rest, whole, ends⟩ := Sql.PartialToken.lead_append_text_of_atCursor found
  refine ⟨token, rest, set.completeToken ⟨false⟩ token, found, whole, ends,
    complete_of_atCursor found, ?_⟩
  rw [complete_of_atCursor found, completeToken_schemaOnlyAfterDot]

/-- After a dot a keyword that is a schema name too stays, and a keyword that is none goes. -/
theorem complete_schemaOnlyAfterDot_user :
    ∃ set, build (NameSet.ofList ["USER", "USING"]) (NameSet.ofList ["user", "USER"]) = .ok set ∧
      ∃ offered, set.complete ⟨false⟩ "x.us" 4 = .ok offered ∧
        set.complete ⟨true⟩ "x.us" 4 = .ok (offered.filter (· ∈ set.schemaOnly.texts)) ∧
        "USING" ∈ offered ∧ "USER" ∈ offered.filter (· ∈ set.schemaOnly.texts) ∧
        "USING" ∉ offered.filter (· ∈ set.schemaOnly.texts) := by
  obtain ⟨set, made⟩ := @exists_build_ofList ["USER", "USING"] ["user", "USER"] (by simp) (by simp)
  obtain ⟨words, names⟩ := build_eq_ok_iff.mp made
  have found : Sql.PartialToken.atCursor "x.us" 4 = .ok ⟨"x.", "us"⟩ := by decide +kernel
  have boundary := Sql.PartialToken.exists_atCursor_eq_ok_iff.mp ⟨_, found⟩
  obtain ⟨token, _, offered, same, _, _, off, on⟩ :=
    (complete_schemaOnlyAfterDot set).1 "x.us" 4 boundary
  obtain rfl : token = ⟨"x.", "us"⟩ := by simpa [found, eq_comm] using same
  rw [if_pos (by decide)] at on
  have begins : ∀ name ∈ ["USER", "USING"], startsFolded "us" name = true := by decide +kernel
  have given : offered = set.completeToken ⟨false⟩ ⟨"x.", "us"⟩ := by
    simpa [complete_of_atCursor found, eq_comm] using off
  refine ⟨set, made, offered, off, on, ?_⟩
  simp [given, mem_completeToken_iff, mem_schemaOnly_iff, CandidateSet.offered, words, names,
    begins]

end SqlAssist.CandidateSet
