/-
# Completion while a word is typed

Typing a character of a word extends the partial token and keeps the view that serves it, so the
answer after a few more characters is the previous answer, ranked once more. Every candidate is
found by each of its own beginnings, in whatever case they are typed.
-/

import SqlAssist.Proofs.Candidates.CandidateSet
import SqlAssist.Proofs.Candidates.Completion
import SqlAssist.Proofs.Text.LowerCase

namespace SqlAssist

variable {typed more name : String}

/-! ## Beginnings of a candidate -/

/-- A candidate that begins with a longer word begins with the shorter one. -/
theorem startsFolded_of_append (starts : startsFolded (typed ++ more) name = true) :
    startsFolded typed name = true := by
  rw [startsFolded_iff, Text.foldCase_append, String.toList_append] at starts
  exact startsFolded_iff.mpr ((List.prefix_append _ _).trans starts)

theorem startsFolded_append (typed more : String) : startsFolded typed (typed ++ more) = true := by
  rw [startsFolded_iff, Text.foldCase_append, String.toList_append]
  exact List.prefix_append _ _

/-- Only the folded form of a word matters. -/
theorem startsFolded_congr {typed' : String} (same : Text.foldCase typed = Text.foldCase typed') :
    startsFolded typed = startsFolded typed' := by
  unfold startsFolded
  rw [same]

namespace CandidateSet

/-! ## Typing on -/

/-- The completions of a longer token are found among those of the shorter one. -/
theorem completeToken_append (set : CandidateSet) (options : MatchOptions)
    (token : Sql.PartialToken) (more : String) :
    set.completeToken options ⟨token.lead, token.text ++ more⟩ =
      rank (set.completeToken options token) (token.text ++ more) := by
  have sameView : set.viewFor options ⟨token.lead, token.text ++ more⟩ =
      set.viewFor options token := rfl
  rw [rank_eq_filter (set.pairwise_lt_completeToken options token), completeToken_eq_filter,
    completeToken_eq_filter, sameView, List.filter_filter]
  apply List.filter_congr
  intro name _
  cases starts : startsFolded (token.text ++ more) name with
  | false => rfl
  | true => rw [startsFolded_of_append starts, Bool.and_self]

/-- **Typing narrows.** Type characters of a word at the end of `before`. The completions are then
those of `before`, ranked by the longer partial token; they are a sublist of them, and what follows
the cursor has no say, before the typing and after it. -/
theorem complete_append_word (set : CandidateSet) (options : MatchOptions) {before word : String}
    (isWord : ∀ c ∈ word.toList, Sql.isIdentChar c = true) (after after' : String) :
    ∃ token previous,
      Sql.PartialToken.atCursor before before.utf8ByteSize = .ok token ∧
      set.complete options (before ++ after) before.utf8ByteSize = .ok previous ∧
      set.complete options (before ++ word ++ after') (before ++ word).utf8ByteSize =
        .ok (rank previous (token.text ++ word)) ∧
      (rank previous (token.text ++ word)).Sublist previous ∧
      set.complete options (before ++ after') before.utf8ByteSize = .ok previous := by
  let token := Sql.PartialToken.ofText before.toList
  have atEnd := Sql.PartialToken.atCursor_append_rest before ""
  rw [String.append_empty] at atEnd
  have unchanged : ∀ rest, set.complete options (before ++ rest) before.utf8ByteSize =
      .ok (set.completeToken options token) := by
    intro rest
    exact complete_of_atCursor (Sql.PartialToken.atCursor_append_rest before rest)
  have extended := Sql.PartialToken.atCursor_append_rest (before ++ word) after'
  rw [String.toList_append, Sql.PartialToken.ofText_append_word isWord,
    String.ofList_toList] at extended
  refine ⟨token, set.completeToken options token, atEnd, unchanged after, ?_, ?_, unchanged after'⟩
  · rw [complete_of_atCursor extended, completeToken_append]
  · rw [rank_eq_filter (set.pairwise_lt_completeToken options token)]
    exact List.filter_sublist

/-- Typing on from `or` in capitals, with other text after the cursor than before. -/
theorem complete_append_word_order :
    ∃ set, build (NameSet.ofList ["OR"]) (NameSet.ofList ["order_items", "orders"]) = .ok set ∧
      ∃ token previous,
        Sql.PartialToken.atCursor "SELECT or" "SELECT or".utf8ByteSize = .ok token ∧
        set.complete {} ("SELECT or" ++ " FROM x") "SELECT or".utf8ByteSize = .ok previous ∧
        set.complete {} ("SELECT or" ++ "DER_" ++ ".id") ("SELECT or" ++ "DER_").utf8ByteSize =
          .ok (rank previous (token.text ++ "DER_")) ∧
        (rank previous (token.text ++ "DER_")).Sublist previous ∧
        set.complete {} ("SELECT or" ++ ".id") "SELECT or".utf8ByteSize = .ok previous := by
  obtain ⟨set, made⟩ := @exists_build_ofList ["OR"] ["order_items", "orders"] (by simp) (by simp)
  have isWord : ∀ c ∈ "DER_".toList, Sql.isIdentChar c = true :=
    List.all_eq_true.mp (by decide +kernel)
  exact ⟨set, made, complete_append_word set {} isWord " FROM x" ".id"⟩

/-! ## Beginnings are found -/

/-- **Every beginning finds its candidate.** Let a candidate begin with a word, type the word in any
case after something that is not a character of a word, and let anything follow. The answer then
holds the candidate. If only schema names follow a dot, and the word is typed after one, the answer
holds the candidate if it is a schema name, and nothing but schema names. -/
theorem mem_complete_of_beginning {set : CandidateSet} {candidate beginning typed lead : String}
    (member : candidate ∈ set.all.texts) (begins : beginning.toList <+: candidate.toList)
    (sameFold : Text.foldCase typed = Text.foldCase beginning)
    (isWord : ∀ c ∈ typed.toList, Sql.isIdentChar c = true)
    (cut : ∀ c, lead.toList.getLast? = some c → Sql.isIdentChar c = false)
    (options : MatchOptions) (rest : String) :
    ∃ found, set.complete options (lead ++ typed ++ rest) (lead ++ typed).utf8ByteSize =
        .ok found ∧
      if options.schemaOnlyAfterDot ∧ lead.toList.getLast? = some '.' then
        (candidate ∈ set.schemaOnly.texts → candidate ∈ found) ∧
          ∀ name ∈ found, name ∈ set.schemaOnly.texts
      else candidate ∈ found := by
  have starts : startsFolded typed candidate = true := by
    obtain ⟨tail, whole⟩ := begins
    have split : candidate = beginning ++ String.ofList tail := by
      rw [← String.toList_inj, String.toList_append, String.toList_ofList, whole]
    rw [startsFolded_congr sameFold, split]
    exact startsFolded_append beginning _
  refine ⟨_, complete_of_atCursor (Sql.PartialToken.atCursor_append isWord cut rest), ?_⟩
  rw [completeToken_eq_filter, texts_viewFor]
  split
  · constructor
    · intro named
      exact List.mem_filter.mpr ⟨named, starts⟩
    · intro name found
      exact (List.mem_filter.mp found).1
  · exact List.mem_filter.mpr ⟨member, starts⟩

/-- A name that goes on after a capital sigma is found by the small one, and a keyword with the same
beginning stays out after a dot. -/
theorem mem_complete_of_beginning_sigma :
    ∃ set, build (NameSet.ofList ["ΟΔΟΣ"]) (NameSet.ofList ["ΟΔΟΣΑ"]) = .ok set ∧
      ∃ found, set.complete ⟨true⟩ ("SELECT x." ++ "οδοσ" ++ " FROM y")
          ("SELECT x." ++ "οδοσ").utf8ByteSize = .ok found ∧
        "ΟΔΟΣΑ" ∈ found ∧ ∀ name ∈ found, name ∈ set.schemaOnly.texts := by
  obtain ⟨set, made⟩ := @exists_build_ofList ["ΟΔΟΣ"] ["ΟΔΟΣΑ"] (by simp) (by simp)
  obtain ⟨_, names⟩ := build_eq_ok_iff.mp made
  have member : "ΟΔΟΣΑ" ∈ set.all.texts := by simp [set.all_eq, names]
  have named : "ΟΔΟΣΑ" ∈ set.schemaOnly.texts := by simp [set.schemaOnly_eq, names]
  have begins : "ΟΔΟΣ".toList <+: "ΟΔΟΣΑ".toList := by decide
  have sameFold : Text.foldCase "οδοσ" = Text.foldCase "ΟΔΟΣ" := by decide +kernel
  have isWord : ∀ c ∈ "οδοσ".toList, Sql.isIdentChar c = true :=
    List.all_eq_true.mp (by decide +kernel)
  have dot : "SELECT x.".toList.getLast? = some '.' := by decide
  have cut := Sql.PartialToken.cut_of_dot dot
  obtain ⟨found, answer, offered⟩ :=
    mem_complete_of_beginning member begins sameFold isWord cut ⟨true⟩ " FROM y"
  rw [if_pos ⟨rfl, dot⟩] at offered
  exact ⟨set, made, found, answer, offered.1 named, offered.2⟩

end CandidateSet

end SqlAssist
