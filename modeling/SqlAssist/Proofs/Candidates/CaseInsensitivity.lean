/-
# Completion and the case of the typed word

The word at the cursor is cut out before it is folded, so typing its folded form gives the same
completions only if folding stays among the characters of words. It does for every character but
one: the dotted capital I becomes a small i with a combining dot, and the dot is no character of a
word, so what is cut out of the folded text begins after it.
-/

import SqlAssist.Proofs.Candidates.Typing

namespace SqlAssist

/-! ## Folding the characters of words -/

/-- The last dotted capital I of a text. -/
theorem Text.exists_split_of_dotted {text : String} (dotted : 'İ' ∈ text.toList) :
    ∃ front back : String, text = front ++ "İ" ++ back ∧ 'İ' ∉ back.toList := by
  obtain ⟨back, front, reversed, plain⟩ :=
    List.eq_append_cons_of_mem (List.mem_reverse.mpr dotted)
  refine ⟨String.ofList front.reverse, String.ofList back.reverse, ?_, by simpa using plain⟩
  rw [List.reverse_eq_iff] at reversed
  simp [← String.toList_inj, reversed]

namespace Sql

/-- Folding leads from characters of words to characters of words, but for the dotted capital I. -/
theorem isIdentChar_foldCase {word : String} (isWord : ∀ c ∈ word.toList, isIdentChar c = true)
    (notDotted : 'İ' ∉ word.toList) : ∀ c ∈ (Text.foldCase word).toList, isIdentChar c = true := by
  intro d member
  obtain ⟨c, inWord, form⟩ := List.mem_flatMap.mp (Text.toList_foldCase word ▸ member)
  have plain : c ≠ 'İ' := by
    rintro rfl
    exact notDotted inWord
  rcases Text.isAlphanumeric_of_mem_lower form plain with letter | rfl
  · simp [isIdentChar, letter]
  · exact isWord d inWord

end Sql

namespace CandidateSet

/-! ## Typing the folded word -/

theorem completeToken_foldCase (set : CandidateSet) (options : MatchOptions) (lead word : String) :
    set.completeToken options ⟨lead, Text.foldCase word⟩ =
      set.completeToken options ⟨lead, word⟩ := by
  have sameView : set.viewFor options ⟨lead, Text.foldCase word⟩ =
      set.viewFor options ⟨lead, word⟩ := rfl
  rw [completeToken_eq_filter, completeToken_eq_filter, sameView,
    startsFolded_congr (Text.foldCase_foldCase word)]

/-- After a dotted capital I, only what follows its dot is completed once the word is folded. -/
theorem complete_foldCase_of_dotted (set : CandidateSet) (options : MatchOptions)
    {front back : String} (isWord : ∀ c ∈ back.toList, Sql.isIdentChar c = true)
    (plain : 'İ' ∉ back.toList) :
    set.complete options (Text.foldCase (front ++ "İ" ++ back))
        (Text.foldCase (front ++ "İ" ++ back)).utf8ByteSize =
      .ok (set.completeToken options ⟨Text.foldCase (front ++ "İ"), back⟩) := by
  have cut : ∀ c, (Text.foldCase (front ++ "İ")).toList.getLast? = some c →
      Sql.isIdentChar c = false := by
    intro c last
    have dot : Text.foldCase "İ" = "i\u0307" := by decide +kernel
    obtain rfl : c = '\u0307' := by
      simpa [Text.foldCase_append, dot, eq_comm] using last
    decide +kernel
  have found := Sql.PartialToken.atCursor_append (Sql.isIdentChar_foldCase isWord plain) cut ""
  rw [String.append_empty, ← Text.foldCase_append] at found
  rw [complete_of_atCursor found, completeToken_foldCase]

/-- A text is too short to begin with a word that holds it after a dotted capital I. -/
theorem not_startsFolded_of_dotted (front back : String) :
    startsFolded (front ++ "İ" ++ back) (back ++ "a") = false := by
  have two : (Text.foldCase "İ").toList.length = 2 := by decide +kernel
  have one : (Text.foldCase "a").toList.length = 1 := by decide +kernel
  rw [← Bool.not_eq_true, startsFolded_iff]
  intro starts
  have fits := starts.length_le
  simp only [Text.foldCase_append, String.toList_append, List.length_append] at fits
  omega

/-- **Case does not matter, but for the dotted capital I.** Typing a word and typing its folded form
give the same completions, from every set, under all options and after every lead that does not end
in a character of a word, exactly if the word does not hold the dotted capital I. -/
theorem complete_foldCase_iff {word : String}
    (isWord : ∀ c ∈ word.toList, Sql.isIdentChar c = true) :
    (∀ (set : CandidateSet) (options : MatchOptions) (lead : String),
      (∀ c, lead.toList.getLast? = some c → Sql.isIdentChar c = false) →
        set.complete options (lead ++ word) (lead ++ word).utf8ByteSize =
          set.complete options (lead ++ Text.foldCase word)
            (lead ++ Text.foldCase word).utf8ByteSize) ↔
      'İ' ∉ word.toList := by
  constructor
  · intro same dotted
    obtain ⟨front, back, rfl, plain⟩ := Text.exists_split_of_dotted dotted
    have backIsWord : ∀ c ∈ back.toList, Sql.isIdentChar c = true := by
      intro c member
      exact isWord c (by simp [member])
    -- A name that goes on from the end of the word is offered for the folded word alone.
    obtain ⟨set, made⟩ := @exists_build_ofList [] [back ++ "a"] (by simp) (by simp)
    obtain ⟨_, names⟩ := build_eq_ok_iff.mp made
    have named : back ++ "a" ∈ set.schemaNames := by simp [names]
    have typed := @Sql.PartialToken.atCursor_append "" _ isWord (by simp) ""
    have agree := same set {} "" (by simp)
    rw [String.append_empty] at typed
    rw [complete_of_atCursor typed, String.empty_append,
      complete_foldCase_of_dotted set {} backIsWord plain] at agree
    have offered : back ++ "a" ∈ set.completeToken {} ⟨Text.foldCase (front ++ "İ"), back⟩ := by
      apply mem_completeToken_iff.mpr
      exact ⟨mem_offered_of_mem_schemaNames named _ _, startsFolded_append back "a"⟩
    rw [← Except.ok.inj agree, mem_completeToken_iff, not_startsFolded_of_dotted] at offered
    exact Bool.false_ne_true offered.2
  · intro notDotted set options lead cut
    have typed := Sql.PartialToken.atCursor_append isWord cut ""
    have folded := Sql.PartialToken.atCursor_append
      (Sql.isIdentChar_foldCase isWord notDotted) cut ""
    rw [String.append_empty] at typed folded
    rw [complete_of_atCursor typed, complete_of_atCursor folded, completeToken_foldCase]

/-- A word with a capital sigma and an underscore may be typed in any case. -/
theorem complete_foldCase_iff_sigma :
    (∀ c ∈ "ΟΔΟΣ_1".toList, Sql.isIdentChar c = true) ∧
      ∀ (set : CandidateSet) (options : MatchOptions),
        set.complete options ("x." ++ "ΟΔΟΣ_1") ("x." ++ "ΟΔΟΣ_1").utf8ByteSize =
          set.complete options ("x." ++ Text.foldCase "ΟΔΟΣ_1")
            ("x." ++ Text.foldCase "ΟΔΟΣ_1").utf8ByteSize := by
  have isWord : ∀ c ∈ "ΟΔΟΣ_1".toList, Sql.isIdentChar c = true :=
    List.all_eq_true.mp (by decide +kernel)
  have cut := @Sql.PartialToken.cut_of_dot "x." (by decide)
  refine ⟨isWord, fun set options => ?_⟩
  exact (complete_foldCase_iff isWord).mpr (by decide) set options "x." cut

/-- A name that begins with a dotted capital I is found by its beginning and not by the folded form
of it. -/
theorem complete_foldCase_dottedI :
    ∃ set, build (NameSet.ofList []) (NameSet.ofList ["İstanbul"]) = .ok set ∧
      (∀ c ∈ "İst".toList, Sql.isIdentChar c = true) ∧
      set.complete {} "İst" "İst".utf8ByteSize = .ok ["İstanbul"] ∧
      Text.foldCase "İst" = "i\u0307st" ∧
      set.complete {} "i\u0307st" "i\u0307st".utf8ByteSize = .ok [] := by
  obtain ⟨set, made⟩ := @exists_build_ofList [] ["İstanbul"] (by simp) (by simp)
  obtain ⟨none, names⟩ := build_eq_ok_iff.mp made
  have isWord : ∀ c ∈ "İst".toList, Sql.isIdentChar c = true :=
    List.all_eq_true.mp (by decide +kernel)
  have folded : Text.foldCase "İst" = "i\u0307st" := by decide +kernel
  have offered : ∀ token, set.completeToken {} token =
      ["İstanbul"].filter (startsFolded token.text) := by
    have listed : (set.keywords ∪ set.schemaNames).toList = ["İstanbul"] := by
      rw [none, names]
      decide +kernel
    intro token
    rw [completeToken_eq_filter, texts_viewFor, if_neg (by simp), set.all_eq, View.texts_ofNames,
      listed, List.mergeSort_singleton]
  refine ⟨set, made, isWord, ?_, folded, ?_⟩
  · have typed := @Sql.PartialToken.atCursor_append "" "İst" isWord (by simp) ""
    rw [String.append_empty, String.empty_append] at typed
    rw [complete_of_atCursor typed, offered]
    have begins : ["İstanbul"].filter (startsFolded "İst") = ["İstanbul"] := by decide +kernel
    rw [begins]
  · have split : "İst" = "" ++ "İ" ++ "st" := by decide
    have begins : ["İstanbul"].filter (startsFolded "st") = [] := by decide +kernel
    have isWord : ∀ c ∈ "st".toList, Sql.isIdentChar c = true :=
      List.all_eq_true.mp (by decide +kernel)
    rw [← folded, split, complete_foldCase_of_dotted set {} isWord (by decide), offered, begins]

end CandidateSet

end SqlAssist
