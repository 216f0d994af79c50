/-
# Byte offsets into a text

Editors report a cursor as an offset into the UTF-8 form of the buffer. `byteLength` measures a
text that way, and `takeBytes?` cuts a text at an offset; the cut fails exactly when the offset
lies inside a character or past the end.
-/

namespace SqlAssist.Text

/-- The length of a text in UTF-8 bytes. -/
def byteLength : List Char → Nat
  | [] => 0
  | c :: rest => c.utf8Size + byteLength rest

/-- The beginning of a text that is exactly `offset` bytes long. -/
def takeBytes? : (offset : Nat) → List Char → Option (List Char)
  | 0, _ => some []
  | _ + 1, [] => none
  | offset + 1, c :: rest =>
    if c.utf8Size ≤ offset + 1 then
      (takeBytes? (offset + 1 - c.utf8Size) rest).map (c :: ·)
    else none

@[simp]
theorem byteLength_nil : byteLength [] = 0 := rfl

@[simp]
theorem byteLength_cons (c : Char) (rest : List Char) :
    byteLength (c :: rest) = c.utf8Size + byteLength rest := rfl

@[simp]
theorem byteLength_append (first second : List Char) :
    byteLength (first ++ second) = byteLength first + byteLength second := by
  induction first with
  | nil => simp
  | cons c rest ih => simp [ih, Nat.add_assoc]

/-- The measure agrees with the size of the encoded text. -/
theorem byteLength_toList (text : String) : byteLength text.toList = text.utf8ByteSize := by
  suffices h : ∀ chars : List Char, byteLength chars = (String.ofList chars).utf8ByteSize by
    rw [h, String.ofList_toList]
  intro chars
  induction chars with
  | nil => simp
  | cons c rest ih =>
    have split : String.ofList (c :: rest) = String.singleton c ++ String.ofList rest := by
      rw [String.singleton_eq_ofList, ← String.ofList_append]
      rfl
    rw [byteLength_cons, ih, split, String.utf8ByteSize_append, String.utf8ByteSize_singleton]

/-- Cutting a text after one of its beginnings gives that beginning back. -/
theorem takeBytes?_append (before after : List Char) :
    takeBytes? (byteLength before) (before ++ after) = some before := by
  induction before with
  | nil => cases after <;> rfl
  | cons c rest ih =>
    have positive := c.utf8Size_pos
    obtain ⟨n, hn⟩ : ∃ n, byteLength (c :: rest) = n + 1 :=
      ⟨byteLength (c :: rest) - 1, by simp only [byteLength_cons]; omega⟩
    have enough : c.utf8Size ≤ n + 1 := by rw [← hn, byteLength_cons]; omega
    have left : n + 1 - c.utf8Size = byteLength rest := by
      rw [← hn, byteLength_cons]; omega
    rw [hn, List.cons_append, takeBytes?, if_pos enough, left, ih]
    rfl

/-- A cut succeeds exactly at the end of a beginning of the text. -/
theorem takeBytes?_eq_some_iff {offset : Nat} {text before : List Char} :
    takeBytes? offset text = some before ↔
      byteLength before = offset ∧ ∃ after, text = before ++ after := by
  constructor
  · intro cut
    fun_induction takeBytes? offset text generalizing before with
    | case1 text => simp_all
    | case2 => simp at cut
    | case3 offset c rest enough ih =>
      obtain ⟨tail, found, rfl⟩ := Option.map_eq_some_iff.mp cut
      obtain ⟨measured, after, rfl⟩ := ih found
      exact ⟨by simp only [byteLength_cons]; omega, after, rfl⟩
    | case4 => simp at cut
  · rintro ⟨rfl, after, rfl⟩
    exact takeBytes?_append before after

end SqlAssist.Text
