/-
# What completion offers

A candidate is offered for a partial token if it begins with the token, case set aside, and is
not left out after a dot. The candidates of a view are in completion order and differ from each
other, so ranking them only chooses among them: the look-up in a view, and the whole view for an
empty word, give the list that ranking gives.

A candidate set is what `CandidateSet.build` makes of its keywords and schema names, so what is said
of every set is said of every set that is built or refreshed.
-/

import SqlAssist.Candidates.Completion
import SqlAssist.Proofs.Candidates.View
import SqlAssist.Proofs.Sql.PartialToken

namespace SqlAssist

/-! ## Ranking -/

@[simp]
theorem mem_dropRepeats {names : List String} {name : String} :
    name ∈ dropRepeats names ↔ name ∈ names := by
  fun_induction dropRepeats names with
  | case1 | case2 => rfl
  | case3 first rest ih => simp [ih]
  | case4 first second rest other ih =>
      rw [List.mem_cons, ih]
      exact List.mem_cons.symm

theorem dropRepeats_eq_self {names : List String} (distinct : names.Nodup) :
    dropRepeats names = names := by
  fun_induction dropRepeats names with
  | case1 | case2 => rfl
  | case3 first rest ih => simp at distinct
  | case4 first second rest other ih => rw [ih (List.nodup_cons.mp distinct).2]

/-- Every text begins with the empty word. -/
theorem startsFolded_empty (name : String) : startsFolded "" name = true := rfl

/-- Ranking candidates that stand in completion order is choosing among them. -/
theorem rank_eq_filter {candidates : List String}
    (ordered : candidates.Pairwise fun a b => candidateOrder a b = .lt) (typed : String) :
    rank candidates typed = candidates.filter (startsFolded typed) := by
  have chosen := ordered.filter (startsFolded typed)
  have sorted : (candidates.filter (startsFolded typed)).mergeSort
      (fun a b => (candidateOrder a b).isLE) = candidates.filter (startsFolded typed) := by
    apply List.mergeSort_of_pairwise
    apply chosen.imp
    intro a b lt
    simp [lt]
  have distinct : (candidates.filter (startsFolded typed)).Nodup := by
    apply chosen.imp
    rintro a _ lt rfl
    simp [Std.ReflCmp.compare_self] at lt
  rw [rank, sorted, dropRepeats_eq_self distinct]

namespace CandidateSet

variable {set : CandidateSet} {options : MatchOptions} {token : Sql.PartialToken} {name : String}

/-! ## The view that serves a token -/

/-- The names that can follow a partial token. -/
def offered (set : CandidateSet) (options : MatchOptions) (token : Sql.PartialToken) : NameSet :=
  if options.schemaOnlyAfterDot && token.isQualified then set.schemaNames
  else set.keywords ∪ set.schemaNames

theorem viewFor_eq (set : CandidateSet) (options : MatchOptions) (token : Sql.PartialToken) :
    set.viewFor options token = View.ofNames (set.offered options token) := by
  unfold viewFor offered
  split
  · exact set.schemaOnly_eq
  · exact set.all_eq

/-- The schema names serve a token after a dot if the options say so. -/
theorem texts_viewFor (set : CandidateSet) (options : MatchOptions) (token : Sql.PartialToken) :
    (set.viewFor options token).texts =
      if options.schemaOnlyAfterDot ∧ token.lead.toList.getLast? = some '.'
      then set.schemaOnly.texts else set.all.texts := by
  unfold viewFor
  simp only [Sql.PartialToken.isQualified, Bool.and_eq_true, beq_iff_eq]
  exact apply_ite View.texts _ _ _

/-- Schema names can follow everything. -/
theorem mem_offered_of_mem_schemaNames (member : name ∈ set.schemaNames)
    (options : MatchOptions) (token : Sql.PartialToken) : name ∈ set.offered options token := by
  unfold offered
  split
  · exact member
  · exact Std.ExtTreeSet.mem_union_iff.mpr (.inr member)

/-! ## Completions of a token -/

/-- Completion chooses among the candidates of the view. -/
theorem completeToken_eq_filter (set : CandidateSet) (options : MatchOptions)
    (token : Sql.PartialToken) :
    set.completeToken options token =
      (set.viewFor options token).texts.filter (startsFolded token.text) := by
  have found : (if token.isEmpty then (set.viewFor options token).texts
      else (set.viewFor options token).matching token.text) =
        (set.viewFor options token).texts.filter (startsFolded token.text) := by
    by_cases empty : token.isEmpty = true
    · have nothing : token.text = "" := by simpa [Sql.PartialToken.isEmpty] using empty
      rw [if_pos empty, nothing, eq_comm, List.filter_eq_self]
      intro name _
      exact startsFolded_empty name
    · rw [if_neg empty, viewFor_eq, View.matching_ofNames]
  have distinct : ((set.viewFor options token).texts.filter (startsFolded token.text)).Nodup := by
    rw [viewFor_eq]
    exact (View.nodup_texts_ofNames _).filter _
  simp only [completeToken]
  rw [found, dropRepeats_eq_self distinct]

theorem pairwise_lt_completeToken (set : CandidateSet) (options : MatchOptions)
    (token : Sql.PartialToken) :
    (set.completeToken options token).Pairwise fun a b => candidateOrder a b = .lt := by
  rw [completeToken_eq_filter, viewFor_eq]
  exact (View.pairwise_lt_texts_ofNames _).filter _

/-- Completion offers the names that begin with the partial token. -/
theorem mem_completeToken_iff :
    name ∈ set.completeToken options token ↔
      name ∈ set.offered options token ∧ startsFolded token.text name = true := by
  rw [completeToken_eq_filter, List.mem_filter, viewFor_eq, View.mem_texts_ofNames]

theorem completeToken_eq_rank (set : CandidateSet) (options : MatchOptions)
    (token : Sql.PartialToken) :
    set.completeToken options token = rank (set.viewFor options token).texts token.text := by
  rw [completeToken_eq_filter, viewFor_eq, rank_eq_filter (View.pairwise_lt_texts_ofNames _)]

/-! ## Completions at a cursor -/

theorem complete_of_atCursor {buffer : String} {cursor : Nat}
    (found : Sql.PartialToken.atCursor buffer cursor = .ok token) :
    set.complete options buffer cursor = .ok (set.completeToken options token) := by
  rw [complete, found]
  rfl

/-- Completion fails where there is no boundary of a character. -/
theorem exists_complete_eq_error_iff {buffer : String} {cursor : Nat} :
    (∃ cause, set.complete options buffer cursor = .error cause) ↔
      ¬ String.Pos.Raw.IsValid buffer ⟨cursor⟩ := by
  rw [← Sql.PartialToken.exists_atCursor_eq_ok_iff, complete]
  cases Sql.PartialToken.atCursor buffer cursor <;> simp [Except.map]

/-- **The look-up agrees with ranking.** Completion fails exactly if the cursor lies past the end
of the buffer or inside a character. Elsewhere there is a partial token, and the binary search, or
the whole view for an empty token, gives the list that filtering by the token, sorting and dropping
repeats gives: of the schema names if the options say so and the text before the token ends in a
dot, of all candidates otherwise. -/
theorem complete_eq_rank (set : CandidateSet) (options : MatchOptions) (buffer : String)
    (cursor : Nat) :
    ((∃ cause, set.complete options buffer cursor = .error cause) ↔
      buffer.utf8ByteSize < cursor ∨ ¬ String.Pos.Raw.IsValid buffer ⟨cursor⟩) ∧
    (String.Pos.Raw.IsValid buffer ⟨cursor⟩ →
      ∃ token rest, Sql.PartialToken.atCursor buffer cursor = .ok token ∧
        buffer = token.lead ++ token.text ++ rest ∧
        (token.lead ++ token.text).utf8ByteSize = cursor ∧
        set.complete options buffer cursor = .ok (rank
          (if options.schemaOnlyAfterDot ∧ token.lead.toList.getLast? = some '.'
            then set.schemaOnly.texts else set.all.texts) token.text)) := by
  constructor
  · rw [exists_complete_eq_error_iff]
    constructor
    · exact .inr
    · rintro (past | inside)
      · intro boundary
        exact absurd boundary.le_rawEndPos (Nat.not_le.mpr past)
      · exact inside
  · intro boundary
    obtain ⟨token, found⟩ := Sql.PartialToken.exists_atCursor_eq_ok_iff.mpr boundary
    obtain ⟨rest, whole, ends⟩ := Sql.PartialToken.lead_append_text_of_atCursor found
    refine ⟨token, rest, found, whole, ends, ?_⟩
    rw [complete_of_atCursor found, completeToken_eq_rank, texts_viewFor]

end CandidateSet

end SqlAssist
