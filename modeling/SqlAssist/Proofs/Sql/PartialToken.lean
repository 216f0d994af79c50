/-
# Words typed up to the cursor

A cursor may stand wherever a beginning of the buffer ends, and the partial token there is that of
the beginning, whatever follows. Characters of words typed at the cursor extend the token and leave
its lead alone.
-/

import SqlAssist.Sql.PartialToken

namespace SqlAssist.Sql.PartialToken

/-! ## Where a cursor may stand -/

section
variable {buffer : String} {cursor : Nat} {token : PartialToken}

/-- A partial token is that of the text up to the cursor. -/
theorem atCursor_eq_ok_iff :
    atCursor buffer cursor = .ok token ↔
      ∃ before after, buffer = before ++ after ∧ before.utf8ByteSize = cursor ∧
        token = ofText before.toList := by
  constructor
  · intro found
    by_cases past : Text.byteLength buffer.toList < cursor
    · simp [atCursor, past] at found
    · cases cut : Text.takeBytes? cursor buffer.toList with
      | none => simp [atCursor, past, cut] at found
      | some before =>
          have same : ofText before = token := by simpa [atCursor, past, cut] using found
          obtain ⟨measured, after, split⟩ := Text.takeBytes?_eq_some_iff.mp cut
          refine ⟨String.ofList before, String.ofList after, ?_, ?_, ?_⟩
          · rw [← String.ofList_append, ← split, String.ofList_toList]
          · rw [← Text.byteLength_toList, String.toList_ofList, measured]
          · rw [String.toList_ofList, same]
  · rintro ⟨before, after, rfl, rfl, rfl⟩
    have inside : ¬ Text.byteLength (before.toList ++ after.toList) <
        Text.byteLength before.toList := by
      rw [Text.byteLength_append]
      omega
    simp only [atCursor, ← Text.byteLength_toList, String.toList_append, if_neg inside,
      Text.takeBytes?_append]

/-- There is a partial token at every boundary of a character and nowhere else. -/
theorem exists_atCursor_eq_ok_iff :
    (∃ token, atCursor buffer cursor = .ok token) ↔ String.Pos.Raw.IsValid buffer ⟨cursor⟩ := by
  simp only [atCursor_eq_ok_iff, String.Pos.Raw.isValid_iff_exists_append]
  constructor
  · rintro ⟨token, before, after, split, rfl, _⟩
    exact ⟨before, after, split, rfl⟩
  · rintro ⟨before, after, split, ends⟩
    exact ⟨_, before, after, split, congrArg String.Pos.Raw.byteIdx ends.symm, rfl⟩

/-- The lead and the word are what the buffer holds up to the cursor. -/
theorem lead_append_text_of_atCursor (found : atCursor buffer cursor = .ok token) :
    ∃ rest, buffer = token.lead ++ token.text ++ rest ∧
      (token.lead ++ token.text).utf8ByteSize = cursor := by
  obtain ⟨before, after, rfl, rfl, rfl⟩ := atCursor_eq_ok_iff.mp found
  have same : (ofText before.toList).lead ++ (ofText before.toList).text = before := by
    rw [← String.toList_inj, String.toList_append, lead_append_text]
  exact ⟨after, by rw [same], by rw [same]⟩

theorem atCursor_append_rest (before after : String) :
    atCursor (before ++ after) before.utf8ByteSize = .ok (ofText before.toList) :=
  atCursor_eq_ok_iff.mpr ⟨before, after, rfl, rfl, rfl⟩

end

/-! ## Typing at the cursor -/

variable {lead word : List Char}

/-- Characters of words extend the partial token. -/
theorem ofText_append_word (isWord : ∀ c ∈ word, isIdentChar c = true) (text : List Char) :
    ofText (text ++ word) = ⟨(ofText text).lead, (ofText text).text ++ String.ofList word⟩ := by
  have all : ∀ c ∈ word.reverse, isIdentChar c = true := by
    intro c member
    exact isWord c (List.mem_reverse.mp member)
  unfold ofText
  rw [List.reverse_append, List.takeWhile_append_of_pos all, List.dropWhile_append_of_pos all,
    List.reverse_append, List.reverse_reverse, String.ofList_append]

/-- After anything but a character of a word there is no word to extend. -/
theorem ofText_of_cut (cut : ∀ c, lead.getLast? = some c → isIdentChar c = false) :
    ofText lead = ⟨String.ofList lead, ""⟩ := by
  rw [← List.head?_reverse] at cut
  have stops : lead.reverse.takeWhile isIdentChar = [] ∧
      lead.reverse.dropWhile isIdentChar = lead.reverse := by
    cases reversed : lead.reverse with
    | nil => exact ⟨rfl, rfl⟩
    | cons last before =>
        have outside : isIdentChar last = false := cut last (by rw [reversed]; rfl)
        simp [outside]
  unfold ofText
  rw [stops.1, stops.2, List.reverse_reverse]
  rfl

/-- A word that cannot be extended to the left is the partial token at its end. -/
theorem atCursor_append {lead word : String} (isWord : ∀ c ∈ word.toList, isIdentChar c = true)
    (cut : ∀ c, lead.toList.getLast? = some c → isIdentChar c = false) (rest : String) :
    atCursor (lead ++ word ++ rest) (lead ++ word).utf8ByteSize = .ok ⟨lead, word⟩ := by
  rw [atCursor_append_rest, String.toList_append, ofText_append_word isWord, ofText_of_cut cut]
  simp

/-- No word goes on over a dot. -/
theorem cut_of_dot {lead : String} (dot : lead.toList.getLast? = some '.') :
    ∀ c, lead.toList.getLast? = some c → isIdentChar c = false := by
  intro c last
  obtain rfl : '.' = c := by simpa [dot] using last
  decide +kernel

end SqlAssist.Sql.PartialToken
