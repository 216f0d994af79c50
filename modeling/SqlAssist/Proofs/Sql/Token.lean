/-
# How a text is read

Reading goes from left to right over white space, over whole words and over single characters that
belong to neither, and carries nothing but its position from one of these pieces to the next. This
module turns that into an induction over texts and derives from it where tokens lie. A text can be
cut wherever no word goes on over the cut: the tokens of the whole are then those of the two parts.
-/

import SqlAssist.Proofs.Text.LowerCase
import SqlAssist.Sql.Token

namespace SqlAssist

/-! ## White space and words -/

namespace Text

theorem increasing_whiteSpaceTable : whiteSpaceTable.toList.Pairwise CodeRange.Below := by
  decide +kernel

/-- No range of white space meets a range of letters and digits. -/
theorem disjoint_of_mem_whiteSpaceTable {blank range : CodeRange}
    (member : blank ∈ whiteSpaceTable.toList) (another : range ∈ alphanumericTable.toList) :
    blank.last < range.first ∨ range.last < blank.first := by
  have checked : (whiteSpaceTable.toList.all fun blank => alphanumericTable.toList.all fun range =>
      Nat.blt blank.last range.first || Nat.blt range.last blank.first) = true := by
    decide +kernel
  have apart := List.all_eq_true.mp (List.all_eq_true.mp checked blank member) range another
  simpa only [Bool.or_eq_true, Nat.blt_eq] using apart

theorem isAlphanumeric_eq_false_of_isWhiteSpace {c : Char} (blank : isWhiteSpace c = true) :
    isAlphanumeric c = false := by
  obtain ⟨gap, member, above, below⟩ :=
    (CodeTable.contains_iff increasing_whiteSpaceTable).mp blank
  rw [← Bool.not_eq_true]
  intro letter
  obtain ⟨range, another, above', below'⟩ :=
    (CodeTable.contains_iff increasing_alphanumericTable).mp letter
  rcases disjoint_of_mem_whiteSpaceTable member another with before | after
  · omega
  · omega

end Text

namespace Sql

/-- White space ends a word. -/
theorem isIdentChar_eq_false_of_isWhiteSpace {c : Char} (blank : Text.isWhiteSpace c = true) :
    isIdentChar c = false := by
  have notLine : c ≠ '_' := by
    rintro rfl
    exact absurd blank (by decide +kernel)
  simp [isIdentChar, notLine, Text.isAlphanumeric_eq_false_of_isWhiteSpace blank]

/-- What is left after the characters of a word does not go on with it. -/
theorem isIdentChar_of_head?_dropWhile {text : List Char} {d : Char}
    (next : (text.dropWhile isIdentChar).head? = some d) : isIdentChar d = false := by
  have stopped := List.head?_dropWhile_not isIdentChar text
  simpa [next] using stopped

/-- A text that does not go on with a word has no characters of it in front. -/
theorem takeWhile_and_dropWhile_of_ends {rest : List Char}
    (ends : ∀ d, rest.head? = some d → isIdentChar d = false) :
    rest.takeWhile isIdentChar = [] ∧ rest.dropWhile isIdentChar = rest := by
  cases rest with
  | nil => exact ⟨rfl, rfl⟩
  | cons d rest => simp [ends d rfl]

/-- No word goes on from the end of one text into another. -/
def Apart (first second : List Char) : Prop :=
  ∀ c d, first.getLast? = some c → second.head? = some d →
    isIdentChar c = false ∨ isIdentChar d = false

namespace Apart

variable {first front second : List Char}

theorem of_append (apart : Apart (front ++ first) second) : Apart first second := by
  intro c d last next
  exact apart c d (by simp [List.getLast?_append, last]) next

theorem of_cons {c : Char} (apart : Apart (c :: first) second) : Apart first second :=
  @of_append first [c] second apart

theorem of_last (cut : ∀ c, first.getLast? = some c → isIdentChar c = false) :
    Apart first second :=
  fun c _ last _ => .inl (cut c last)

theorem of_head (cut : ∀ d, second.head? = some d → isIdentChar d = false) :
    Apart first second :=
  fun _ d _ next => .inr (cut d next)

end Apart

/-- Whether a token is a word, a leading keyword or not. -/
def TokenKind.isWord : TokenKind → Bool
  | ident _ | keyword _ => true
  | semicolon | dot | parenOpen | parenClose | other _ => false

namespace Token

variable {position offset : Nat} {c : Char} {text word rest first second : List Char}
  {token : Token}

/-- The same token in a text that begins further on. -/
def shift (offset : Nat) (token : Token) : Token :=
  { token with start := token.start + offset, stop := token.stop + offset }

@[simp]
theorem isWord_wordKind (word : String) : (wordKind word).isWord = true := by
  unfold wordKind
  split <;> rfl

@[simp]
theorem isWord_symbolKind (c : Char) : (symbolKind c).isWord = false := by
  unfold symbolKind
  split <;> rfl

/-! ## One piece after the other -/

@[simp]
theorem scan_nil : scan position [] = [] := by
  rw [scan]

theorem scan_blank (blank : Text.isWhiteSpace c = true) :
    scan position (c :: rest) = scan (position + c.utf8Size) rest := by
  rw [scan, if_pos blank]

theorem scan_symbol (notBlank : Text.isWhiteSpace c = false) (notIdent : isIdentChar c = false) :
    scan position (c :: rest) =
      ⟨symbolKind c, position, position + c.utf8Size⟩ :: scan (position + c.utf8Size) rest := by
  rw [scan]
  simp only [notBlank, notIdent, Bool.false_eq_true, if_false]

/-- A word is read as a whole if nothing goes on with it. -/
theorem scan_word (nonEmpty : word ≠ []) (isWord : ∀ c ∈ word, isIdentChar c = true)
    (ends : ∀ d, rest.head? = some d → isIdentChar d = false) :
    scan position (word ++ rest) =
      ⟨wordKind (String.ofList word), position, position + Text.byteLength word⟩ ::
        scan (position + Text.byteLength word) rest := by
  obtain ⟨c, tail, rfl⟩ := List.exists_cons_of_ne_nil nonEmpty
  have ident := isWord c List.mem_cons_self
  have notBlank : ¬ Text.isWhiteSpace c = true := by
    intro blank
    exact absurd (ident.symm.trans (isIdentChar_eq_false_of_isWhiteSpace blank)) (by simp)
  have inside : ∀ d ∈ tail, isIdentChar d = true := by
    intro d member
    exact isWord d (List.mem_cons_of_mem _ member)
  obtain ⟨nothing, all⟩ := takeWhile_and_dropWhile_of_ends ends
  rw [List.cons_append, scan, if_neg notBlank, if_pos ident,
    List.takeWhile_append_of_pos inside, List.dropWhile_append_of_pos inside, nothing, all,
    List.append_nil]

/-- Every text is made of white space, whole words and other characters. -/
@[elab_as_elim]
theorem reading {motive : List Char → Prop} (text : List Char) (nil : motive [])
    (blank : ∀ c rest, Text.isWhiteSpace c = true → motive rest → motive (c :: rest))
    (word : ∀ word rest, word ≠ [] → (∀ c ∈ word, isIdentChar c = true) →
      (∀ d, rest.head? = some d → isIdentChar d = false) → motive rest → motive (word ++ rest))
    (symbol : ∀ c rest, Text.isWhiteSpace c = false → isIdentChar c = false → motive rest →
      motive (c :: rest)) : motive text := by
  fun_induction scan 0 text with
  | case1 => exact nil
  | case2 position c rest isBlank ih => exact blank c rest isBlank ih
  | case3 position c rest notBlank ident whole stop ih =>
      have isWord : ∀ d ∈ whole, isIdentChar d = true := by
        intro d member
        rcases List.mem_cons.mp member with rfl | inside
        · exact ident
        · exact List.all_eq_true.mp List.all_takeWhile d inside
      have split : c :: rest = whole ++ rest.dropWhile isIdentChar := by
        simp [whole, List.takeWhile_append_dropWhile]
      rw [split]
      exact word whole _ (List.cons_ne_nil _ _) isWord
        (fun d next => isIdentChar_of_head?_dropWhile next) ih
  | case4 position c rest notBlank notIdent stop ih =>
      exact symbol c rest (by simpa using notBlank) (by simpa using notIdent) ih

/-! ## Where tokens lie -/

/-- Only the places of the tokens depend on where the text begins. -/
theorem scan_add (text : List Char) (position offset : Nat) :
    scan (position + offset) text = (scan position text).map (shift offset) := by
  induction text using reading generalizing position with
  | nil => simp
  | blank c rest isBlank ih =>
      rw [scan_blank isBlank, scan_blank isBlank, Nat.add_right_comm, ih]
  | word word rest nonEmpty isWord ends ih =>
      rw [scan_word nonEmpty isWord ends, scan_word nonEmpty isWord ends, Nat.add_right_comm, ih]
      rfl
  | symbol c rest notBlank notIdent ih =>
      rw [scan_symbol notBlank notIdent, scan_symbol notBlank notIdent, Nat.add_right_comm, ih]
      rfl

/-- A text is read in two parts wherever no word goes on over the cut. -/
theorem scan_append (apart : Apart first second) (position : Nat) :
    scan position (first ++ second) =
      scan position first ++ scan (position + Text.byteLength first) second := by
  induction first using reading generalizing position with
  | nil => simp
  | blank c rest isBlank ih =>
      rw [List.cons_append, scan_blank isBlank, scan_blank isBlank,
        ih apart.of_cons, Text.byteLength_cons, Nat.add_assoc]
  | word word rest nonEmpty isWord ends ih =>
      have ends' : ∀ d, (rest ++ second).head? = some d → isIdentChar d = false := by
        intro d next
        cases rest with
        | cons e rest => exact ends d next
        | nil =>
            rw [List.append_nil] at apart
            have last := List.getLast?_eq_some_getLast nonEmpty
            refine (apart _ d last next).resolve_left ?_
            simp [isWord _ (List.getLast_mem nonEmpty)]
      rw [List.append_assoc, scan_word nonEmpty isWord ends', scan_word nonEmpty isWord ends,
        ih apart.of_append, Text.byteLength_append, Nat.add_assoc, List.cons_append]
  | symbol c rest notBlank notIdent ih =>
      rw [List.cons_append, scan_symbol notBlank notIdent, scan_symbol notBlank notIdent,
        ih apart.of_cons, Text.byteLength_cons, Nat.add_assoc,
        List.cons_append]

/-- A token covers some of the text that is read, and never nothing. -/
theorem bounds_of_mem_scan (member : token ∈ scan position text) :
    position ≤ token.start ∧ token.start < token.stop ∧
      token.stop ≤ position + Text.byteLength text := by
  induction text using reading generalizing position with
  | nil => simp at member
  | blank c rest isBlank ih =>
      rw [scan_blank isBlank] at member
      have inside := ih member
      rw [Text.byteLength_cons]
      omega
  | word word rest nonEmpty isWord ends ih =>
      obtain ⟨c, tail, rfl⟩ := List.exists_cons_of_ne_nil nonEmpty
      have positive := c.utf8Size_pos
      rw [scan_word nonEmpty isWord ends] at member
      simp only [Text.byteLength_append, Text.byteLength_cons] at member ⊢
      rcases List.mem_cons.mp member with rfl | later
      · simp only
        omega
      · have inside := ih later
        omega
  | symbol c rest notBlank notIdent ih =>
      have positive := c.utf8Size_pos
      rw [scan_symbol notBlank notIdent] at member
      rw [Text.byteLength_cons]
      rcases List.mem_cons.mp member with rfl | later
      · simp only
        omega
      · have inside := ih later
        omega

/-- If a text does not end in a word, its words end before it does. -/
theorem stop_lt_of_isWord (cut : ∀ c, text.getLast? = some c → isIdentChar c = false)
    (member : token ∈ scan position text) (isWord : token.kind.isWord = true) :
    token.stop < position + Text.byteLength text := by
  rcases text.eq_nil_or_concat' with rfl | ⟨front, c, rfl⟩
  · simp at member
  · have outside : isIdentChar c = false := cut c (by simp)
    have positive := c.utf8Size_pos
    have apart : Apart front [c] := .of_head (by simpa using outside)
    rw [scan_append apart] at member
    rw [Text.byteLength_append, Text.byteLength_cons]
    rcases List.mem_append.mp member with earlier | own
    · have inside := bounds_of_mem_scan earlier
      omega
    · by_cases blank : Text.isWhiteSpace c = true
      · simp [scan_blank blank] at own
      · rw [scan_symbol (by simpa using blank) outside, scan_nil, List.mem_singleton] at own
        subst own
        simp at isWord

end Token

end Sql

end SqlAssist
