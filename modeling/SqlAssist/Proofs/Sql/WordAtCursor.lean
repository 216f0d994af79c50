/-
# The word at the cursor, read from both sides

The partial token is found by walking back from the cursor, and tokens are found by reading on from
the start of the buffer. Both find the same word: if a word ends at the cursor or goes on over it,
the partial token is that word up to the cursor, and otherwise it is empty.
-/

import SqlAssist.Proofs.Sql.PartialToken
import SqlAssist.Proofs.Sql.Token

namespace SqlAssist.Sql

namespace Token

variable {lead word rest : List Char} {token : Token} {cursor : Nat}

/-- Whether the token is a word that ends at the cursor or goes on over it. -/
def isWordAt (cursor : Nat) (token : Token) : Bool :=
  token.kind.isWord && token.start < cursor && cursor ≤ token.stop

@[simp]
theorem isWordAt_iff :
    token.isWordAt cursor = true ↔
      token.kind.isWord = true ∧ token.start < cursor ∧ cursor ≤ token.stop := by
  simp [isWordAt, and_assoc]

theorem filter_isWordAt_of_lt {position : Nat} {text : List Char}
    (before : position + Text.byteLength text < cursor) :
    (scan position text).filter (isWordAt cursor) = [] := by
  rw [List.filter_eq_nil_iff]
  intro token member found
  have inside := bounds_of_mem_scan member
  have reaches := (isWordAt_iff.mp found).2.2
  omega

theorem filter_isWordAt_of_le {position : Nat} (after : cursor ≤ position) (text : List Char) :
    (scan position text).filter (isWordAt cursor) = [] := by
  rw [List.filter_eq_nil_iff]
  intro token member found
  have inside := bounds_of_mem_scan member
  have starts := (isWordAt_iff.mp found).2.1
  omega

/-- There is no word at a cursor that follows none of its characters. -/
theorem filter_isWordAt_of_cut (cut : ∀ c, lead.getLast? = some c → isIdentChar c = false)
    (rest : List Char) :
    (scan 0 (lead ++ rest)).filter (isWordAt (Text.byteLength lead)) = [] := by
  have ended : (scan 0 lead).filter (isWordAt (Text.byteLength lead)) = [] := by
    rw [List.filter_eq_nil_iff]
    intro token member found
    obtain ⟨isWord, _, reaches⟩ := isWordAt_iff.mp found
    have early := stop_lt_of_isWord cut member isWord
    omega
  rw [scan_append (.of_last cut), List.filter_append, ended,
    filter_isWordAt_of_le (Nat.le_add_left _ 0), List.append_nil]

/-- The word at a cursor begins where the characters before the cursor do, and goes on as far as
the characters after it do. -/
theorem filter_isWordAt_of_word (nonEmpty : word ≠ [])
    (isWord : ∀ c ∈ word, isIdentChar c = true)
    (cut : ∀ c, lead.getLast? = some c → isIdentChar c = false) (rest : List Char) :
    (scan 0 (lead ++ word ++ rest)).filter (isWordAt (Text.byteLength (lead ++ word))) =
      [⟨wordKind (String.ofList (word ++ rest.takeWhile isIdentChar)), Text.byteLength lead,
        Text.byteLength lead + Text.byteLength (word ++ rest.takeWhile isIdentChar)⟩] := by
  have split : lead ++ word ++ rest =
      lead ++ (word ++ rest.takeWhile isIdentChar ++ rest.dropWhile isIdentChar) := by
    simp [List.takeWhile_append_dropWhile]
  have whole : ∀ c ∈ word ++ rest.takeWhile isIdentChar, isIdentChar c = true := by
    intro c member
    rcases List.mem_append.mp member with before | after
    · exact isWord c before
    · exact List.all_eq_true.mp List.all_takeWhile c after
  have ends : ∀ d, (rest.dropWhile isIdentChar).head? = some d → isIdentChar d = false :=
    fun d next => isIdentChar_of_head?_dropWhile next
  have positive : 0 < Text.byteLength word := by
    obtain ⟨c, tail, rfl⟩ := List.exists_cons_of_ne_nil nonEmpty
    have := c.utf8Size_pos
    rw [Text.byteLength_cons]
    omega
  rw [split, scan_append (.of_last cut), scan_word (by simp [nonEmpty]) whole ends,
    List.filter_append, Nat.zero_add]
  simp only [Text.byteLength_append]
  rw [filter_isWordAt_of_lt (by omega), List.filter_cons_of_pos,
    filter_isWordAt_of_le (by omega), List.nil_append]
  rw [isWordAt_iff]
  refine ⟨isWord_wordKind _, ?_, ?_⟩
  · show Text.byteLength lead < Text.byteLength lead + Text.byteLength word
    omega
  · show _ ≤ Text.byteLength lead + (_ + _)
    omega

end Token

/-- **Walking back and reading on find the same word.** At every boundary of a character there is a
partial token. It is not empty exactly if the buffer has a word that ends at the cursor or goes on
over it. There is only one such word then, and the partial token begins where the word begins and
holds what the buffer holds from there up to the cursor. -/
theorem atCursor_eq_wordAt {buffer : String} {cursor : Nat}
    (boundary : String.Pos.Raw.IsValid buffer ⟨cursor⟩) :
    ∃ found, PartialToken.atCursor buffer cursor = .ok found ∧
      (found.isEmpty = false ↔ ∃ token ∈ tokenize buffer, token.isWordAt cursor = true) ∧
      ∀ token ∈ tokenize buffer, token.isWordAt cursor = true →
        (tokenize buffer).filter (·.isWordAt cursor) = [token] ∧
          found.start = token.start ∧
          ∃ before rest, buffer = before ++ found.text ++ rest ∧
            before.utf8ByteSize = token.start ∧ (before ++ found.text).utf8ByteSize = cursor := by
  obtain ⟨found, located⟩ := PartialToken.exists_atCursor_eq_ok_iff.mpr boundary
  obtain ⟨before, _, _, _, cutOff⟩ := PartialToken.atCursor_eq_ok_iff.mp located
  obtain ⟨rest, rfl, rfl⟩ := PartialToken.lead_append_text_of_atCursor located
  have isWord : ∀ c ∈ found.text.toList, isIdentChar c = true := by
    subst cutOff
    exact fun c member => PartialToken.isIdentChar_of_mem_text member
  have cut : ∀ c, found.lead.toList.getLast? = some c → isIdentChar c = false := by
    subst cutOff
    exact fun c last => PartialToken.not_isIdentChar_of_lead last
  have words : ∀ token, (token ∈ tokenize (found.lead ++ found.text ++ rest) ∧
      token.isWordAt (found.lead ++ found.text).utf8ByteSize = true) ↔
      token ∈ (tokenize (found.lead ++ found.text ++ rest)).filter
        (·.isWordAt (found.lead ++ found.text).utf8ByteSize) := fun token => List.mem_filter.symm
  refine ⟨found, located, ?_⟩
  simp only [← and_imp, words]
  by_cases empty : found.text = ""
  · have none := Token.filter_isWordAt_of_cut cut rest.toList
    simp [tokenize, PartialToken.isEmpty, empty, ← Text.byteLength_toList, none]
  · have nonEmpty : found.text.toList ≠ [] := by simpa using empty
    have one := Token.filter_isWordAt_of_word nonEmpty isWord cut rest.toList
    simp only [← String.toList_append, Text.byteLength_toList] at one
    simp only [tokenize, one, List.mem_singleton]
    refine ⟨by simp [PartialToken.isEmpty, empty], ?_⟩
    rintro token rfl
    exact ⟨rfl, Text.byteLength_toList _, found.lead, rest, rfl, rfl, rfl⟩

/-- The cursor stands inside a word, after a character of two bytes. -/
theorem atCursor_eq_wordAt_umlaut :
    String.Pos.Raw.IsValid "x.größe*2" ⟨6⟩ ∧
      PartialToken.atCursor "x.größe*2" 6 = .ok ⟨"x.", "grö"⟩ ∧
      ∃ token, (tokenize "x.größe*2").filter (·.isWordAt 6) = [token] ∧ token.start = 2 := by
  have boundary : String.Pos.Raw.IsValid "x.größe*2" ⟨6⟩ := by decide
  have walked : PartialToken.atCursor "x.größe*2" 6 = .ok ⟨"x.", "grö"⟩ := by decide +kernel
  obtain ⟨found, located, same, one⟩ := atCursor_eq_wordAt boundary
  cases walked.symm.trans located
  obtain ⟨token, member, atWord⟩ := same.mp (by decide)
  obtain ⟨only, starts, _⟩ := one token member atWord
  exact ⟨boundary, walked, token, only, starts.symm⟩

end SqlAssist.Sql
