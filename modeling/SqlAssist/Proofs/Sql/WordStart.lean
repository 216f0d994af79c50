/-
# Where the word at the cursor begins

The partial token is found by walking back from the cursor. Here its beginning is told without the
walk: it is the one place from which only characters of words stand up to the cursor and before
which none stands. There is such a place for every cursor between two characters, and it stands
between two characters itself, so the buffer can be cut there.
-/

import SqlAssist.Candidates.Completion
import SqlAssist.Proofs.Sql.PartialToken
import SqlAssist.Proofs.Text.Slice

namespace SqlAssist.Sql

variable {buffer : String} {cursor start : Nat} {token : PartialToken}

/-- The word that ends at the cursor begins here: all characters from here on belong to words, and
the one before does not. -/
structure IsWordStart (buffer : String) (cursor start : Nat) : Prop where
  word : ∃ word, Text.slice? buffer start cursor = some word ∧
    ∀ c ∈ word.toList, isIdentChar c = true
  cut : ∀ front c, Text.slice? buffer 0 start = some front → front.toList.getLast? = some c →
    isIdentChar c = false

namespace PartialToken

/-- A partial token is found unless the cursor is past the end or inside a character. -/
theorem exists_atCursor_eq_error_iff :
    (∃ cause, atCursor buffer cursor = .error cause) ↔
      buffer.utf8ByteSize < cursor ∨ ¬ String.Pos.Raw.IsValid buffer ⟨cursor⟩ := by
  have within : String.Pos.Raw.IsValid buffer ⟨cursor⟩ → ¬ buffer.utf8ByteSize < cursor := by
    intro boundary
    exact Nat.not_lt.mpr (String.Pos.Raw.IsValid.le_utf8ByteSize boundary)
  have found : (∃ token, atCursor buffer cursor = .ok token) ↔
      String.Pos.Raw.IsValid buffer ⟨cursor⟩ := exists_atCursor_eq_ok_iff
  cases answer : atCursor buffer cursor with
  | error cause =>
      have notBoundary : ¬ String.Pos.Raw.IsValid buffer ⟨cursor⟩ := by
        rw [← found]
        simp [answer]
      simp [notBoundary]
  | ok token =>
      have boundary := found.mp ⟨token, answer⟩
      simp [boundary, within boundary]

/-- The text before the word and the word are parts of the buffer. -/
theorem slices_of_atCursor (located : atCursor buffer cursor = .ok token) :
    Text.slice? buffer 0 token.start = some token.lead ∧
      Text.slice? buffer token.start cursor = some token.text := by
  obtain ⟨rest, rfl, rfl⟩ := lead_append_text_of_atCursor located
  have starts : token.lead.utf8ByteSize = token.start := (Text.byteLength_toList _).symm
  constructor
  · rw [Text.slice?_zero_eq_some_iff]
    exact ⟨token.text ++ rest, String.append_assoc .., starts⟩
  · rw [Text.slice?_eq_some_iff]
    exact ⟨token.lead, rest, rfl, starts, rfl⟩

theorem isWordStart_of_atCursor (located : atCursor buffer cursor = .ok token) :
    IsWordStart buffer cursor token.start := by
  obtain ⟨before, after, _, _, rfl⟩ := atCursor_eq_ok_iff.mp located
  obtain ⟨lead, text⟩ := slices_of_atCursor located
  refine ⟨⟨_, text, fun c member => isIdentChar_of_mem_text member⟩, ?_⟩
  intro front c found last
  obtain rfl : _ = front := Option.some_inj.mp (lead.symm.trans found)
  exact not_isIdentChar_of_lead last

/-- No other place has the properties of the beginning of the word. -/
theorem eq_start_of_isWordStart (located : atCursor buffer cursor = .ok token)
    (begins : IsWordStart buffer cursor start) : start = token.start := by
  obtain ⟨word, found, isWord⟩ := begins.word
  obtain ⟨lead, rest, rfl, rfl, rfl⟩ := Text.slice?_eq_some_iff.mp found
  have front : Text.slice? (lead ++ word ++ rest) 0 lead.utf8ByteSize = some lead := by
    rw [Text.slice?_zero_eq_some_iff]
    exact ⟨word ++ rest, String.append_assoc .., rfl⟩
  have same := atCursor_append isWord (fun c last => begins.cut lead c front last) rest
  obtain rfl : (⟨lead, word⟩ : PartialToken) = token :=
    Except.ok.inj (same.symm.trans located)
  exact (Text.byteLength_toList lead).symm

/-- Only the text up to the cursor has a say. -/
theorem atCursor_replace {before after : String}
    (located : atCursor (before ++ after) before.utf8ByteSize = .ok token) (other : String) :
    atCursor (before ++ other) before.utf8ByteSize = .ok token := by
  rw [atCursor_append_rest] at located ⊢
  exact located

theorem start_eq_cursor_iff (located : atCursor buffer cursor = .ok token) :
    token.start = cursor ↔ token.text = "" := by
  obtain ⟨rest, rfl, rfl⟩ := lead_append_text_of_atCursor located
  rw [start, Text.byteLength_toList, String.utf8ByteSize_append,
    ← String.utf8ByteSize_eq_zero_iff]
  omega

/-- **The partial token is exact.** There is none exactly for a cursor past the end or inside a
character. Otherwise it begins at the one place, not after the cursor, where the word that ends at
the cursor begins; it holds what the buffer holds from there up to the cursor, so it is empty only
where it begins at the cursor; and it does not depend on what follows the cursor. The two parts that
the buffer is cut into for it exist, and completion learns from the first of them whether the word
stands after a dot. -/
theorem atCursor_exact (buffer : String) (cursor : Nat) :
    ((∃ cause, atCursor buffer cursor = .error cause) ↔
      buffer.utf8ByteSize < cursor ∨ ¬ String.Pos.Raw.IsValid buffer ⟨cursor⟩) ∧
    ∀ token, atCursor buffer cursor = .ok token →
      (token.start ≤ cursor ∧ String.Pos.Raw.IsValid buffer ⟨token.start⟩) ∧
      (∀ start, IsWordStart buffer cursor start ↔ start = token.start) ∧
      Text.slice? buffer 0 token.start = some token.lead ∧
      Text.slice? buffer token.start cursor = some token.text ∧
      (token.start = cursor ↔ token.text = "") ∧
      (∀ before after other, buffer = before ++ after → before.utf8ByteSize = cursor →
        atCursor (before ++ other) cursor = .ok token) ∧
      ∀ (set : CandidateSet) (options : MatchOptions),
        set.complete options buffer cursor = .ok (set.completeToken options token) ∧
        (token.isQualified = true ↔ ∃ front, Text.slice? buffer 0 token.start = some front ∧
          front.toList.getLast? = some '.') := by
  refine ⟨exists_atCursor_eq_error_iff, fun token located => ?_⟩
  obtain ⟨front, text⟩ := slices_of_atCursor located
  obtain ⟨inOrder, boundary, _⟩ := Text.exists_slice?_iff.mp ⟨_, text⟩
  refine ⟨⟨inOrder, boundary⟩, fun start => ⟨eq_start_of_isWordStart located, ?_⟩, front, text,
    start_eq_cursor_iff located, ?_, fun set options => ⟨?_, ?_⟩⟩
  · rintro rfl
    exact isWordStart_of_atCursor located
  · rintro before after other rfl rfl
    exact atCursor_replace located other
  · rw [CandidateSet.complete, located]
    rfl
  · simp [front, isQualified]

/-- The cursor stands inside a word, after a character of two bytes, and one byte earlier it would
stand inside that character. -/
theorem atCursor_exact_umlaut :
    atCursor "x.größe*2" 6 = .ok ⟨"x.", "grö"⟩ ∧
      (∀ start, IsWordStart "x.größe*2" 6 start ↔ start = 2) ∧
      atCursor ("x.grö" ++ " FROM t") 6 = .ok ⟨"x.", "grö"⟩ ∧
      ∃ cause, atCursor "x.größe*2" 5 = .error cause := by
  have located : atCursor "x.größe*2" 6 = .ok ⟨"x.", "grö"⟩ :=
    atCursor_eq_ok_iff.mpr ⟨"x.grö", "ße*2", rfl, by decide, by decide +kernel⟩
  obtain ⟨_, starts, _, _, _, unchanged, _⟩ := (atCursor_exact "x.größe*2" 6).2 _ located
  refine ⟨located, starts, ?_, (atCursor_exact "x.größe*2" 5).1.mpr (.inr (by decide))⟩
  exact unchanged "x.grö" "ße*2" " FROM t" rfl (by decide)

end PartialToken

end SqlAssist.Sql
