/-
# Candidates with a common beginning

Candidates are looked up by the word they begin with, whatever characters it has: none at all, some
that no identifier has, or some whose lower-case form is several characters. In a sorted view the
candidates that begin with the word stand together. What the binary search asks, whether a folded
text is below the folded word, holds up to the first of them and nowhere after it, so the search
finds the place where they start, and the scan from there on stops only when no other is left.
-/

import SqlAssist.Proofs.Candidates.CandidateSet
import SqlAssist.Proofs.Candidates.View

namespace SqlAssist

namespace View

theorem lowerBound_le (view : View) (key : String) : view.lowerBound key ≤ view.texts.length := by
  rw [texts, List.length_map]
  exact partitionPoint_le_size _ view.entries

/-- What a look-up finds stands together in the view and starts at the lower bound. -/
theorem exists_block_ofNames (names : NameSet) (typed : String) :
    ∃ before after, (ofNames names).texts = before ++ (ofNames names).matching typed ++ after ∧
      before.length = (ofNames names).lowerBound (Text.foldCase typed) ∧
      ∀ name ∈ before ++ after, ¬ startsFolded typed name = true := by
  let texts := (ofNames names).texts
  let start := (ofNames names).lowerBound (Text.foldCase typed)
  refine ⟨texts.take start, (texts.drop start).dropWhile (startsFolded typed), ?_, ?_, ?_⟩
  · rw [matching_eq_takeWhile, List.append_assoc, List.takeWhile_append_dropWhile,
      List.take_append_drop]
  · rw [List.length_take, Nat.min_eq_left (lowerBound_le _ _)]
  · intro name member
    cases List.mem_append.mp member with
    | inl before => exact not_startsFolded_of_mem_take names typed before
    | inr after => exact not_of_mem_dropWhile (pairwise_startsFolded_drop names typed) after

end View

namespace CandidateSet

/-- **A look-up by binary search is a filter.** In each of the two views of a candidate set, what is
looked up by any word is what going through the view and comparing every candidate would keep, in
the same order. The question put by the search, whether a folded text is below the folded word, has
the answer yes before the lower bound and no from there on. What is found is one part of the view,
which starts at the lower bound, and neither before nor after it does a candidate begin with the
word. -/
theorem matching_exact (set : CandidateSet) (typed : String) :
    ∀ view ∈ [set.all, set.schemaOnly],
      view.matching typed =
        view.texts.filter (fun name =>
          (Text.foldCase typed).toList <+: (Text.foldCase name).toList) ∧
      (∀ i (inside : i < view.entries.size),
        (compare view.entries[i].folded (Text.foldCase typed) == .lt) =
          decide (i < view.lowerBound (Text.foldCase typed))) ∧
      ∃ before after, view.texts = before ++ view.matching typed ++ after ∧
        before.length = view.lowerBound (Text.foldCase typed) ∧
        ∀ name ∈ before ++ after,
          ¬ (Text.foldCase typed).toList <+: (Text.foldCase name).toList := by
  intro view served
  obtain ⟨names, rfl⟩ : ∃ names, view = View.ofNames names := by
    simp only [List.mem_cons, List.not_mem_nil, or_false] at served
    cases served with
    | inl all => exact ⟨_, all.trans set.all_eq⟩
    | inr schemaOnly => exact ⟨_, schemaOnly.trans set.schemaOnly_eq⟩
  refine ⟨?_, ?_, ?_⟩
  · rw [View.matching_ofNames]
    apply List.filter_congr
    intro name _
    rw [Bool.eq_iff_iff, startsFolded_iff, decide_eq_true_iff]
  · intro i inside
    rw [Bool.eq_iff_iff, View.compare_folded_beq_lt, decide_eq_true_iff]
    exact View.folded_lt_iff_lt_lowerBound names _ i inside
  · simpa only [startsFolded_iff] using View.exists_block_ofNames names typed

/-- A word whose folded form has more characters than the word itself, and an empty one. -/
theorem matching_exact_dottedI :
    ∃ set, build (NameSet.ofList ["IS"]) (NameSet.ofList ["İstanbul", "istanbul"]) = .ok set ∧
      "İstanbul" ∈ set.all.matching "İS" ∧ "istanbul" ∉ set.all.matching "İS" ∧
      "IS" ∈ set.all.matching "" ∧ "IS" ∉ set.schemaOnly.matching "" := by
  obtain ⟨set, made⟩ := @exists_build_ofList ["IS"] ["İstanbul", "istanbul"] (by simp) (by simp)
  obtain ⟨words, names⟩ := build_eq_ok_iff.mp made
  have dotted : (Text.foldCase "İS").toList <+: (Text.foldCase "İstanbul").toList := by
    decide +kernel
  have plain : ¬ (Text.foldCase "İS").toList <+: (Text.foldCase "istanbul").toList := by
    decide +kernel
  have empty : (Text.foldCase "").toList = [] := by decide +kernel
  refine ⟨set, made, ?_⟩
  rw [(matching_exact set "İS" set.all (by simp)).1, (matching_exact set "" set.all (by simp)).1,
    (matching_exact set "" set.schemaOnly (by simp)).1]
  simp only [set.all_eq, set.schemaOnly_eq, words, names, List.mem_filter, View.mem_texts_ofNames,
    Std.ExtTreeSet.mem_union_iff, NameSet.mem_ofList, dotted, plain, empty, List.nil_prefix]
  decide

end CandidateSet

end SqlAssist
