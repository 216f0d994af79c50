/-
# Bytes and code points order texts alike

A text can be compared as the sequence of its code points or as the sequence of its UTF-8 bytes, and
the two ways agree. Of two characters the one with the longer code has the higher first byte, and
codes of one length are the digits of the code points, the highest digit first. So wherever two
texts first differ in a character, the codes of these characters already differ in a byte, on the
same side, and what follows has no say.
-/

namespace SqlAssist.Text

universe u
variable {β : Type u} [Ord β]

/-! ## Codes of characters -/

/-- Two codes differ somewhere, and at the first such place the first one is below. -/
inductive DiffersBelow : List β → List β → Prop where
  | head {x y : β} {xs ys : List β} (below : compare x y = .lt) : DiffersBelow (x :: xs) (y :: ys)
  | tail {x : β} {xs ys : List β} (later : DiffersBelow xs ys) : DiffersBelow (x :: xs) (x :: ys)

/-- A code that keeps the order of characters, whatever is written after them. -/
structure KeepsOrder (code : Char → List β) : Prop where
  ne_nil : ∀ c, code c ≠ []
  differsBelow : ∀ c d, c < d → DiffersBelow (code c) (code d)

/-- Where two codes differ, what is written after them does not count. -/
theorem DiffersBelow.compare_append [Std.ReflOrd β] {first second : List β}
    (differs : DiffersBelow first second) (xs ys : List β) :
    compare (first ++ xs) (second ++ ys) = .lt := by
  induction differs with
  | head below =>
      rw [List.cons_append, List.cons_append, List.compare_cons_cons, below, Ordering.lt_then]
  | tail later ih =>
      rw [List.cons_append, List.cons_append, List.compare_cons_cons, Std.ReflOrd.compare_self,
        Ordering.eq_then, ih]

/-- What two texts have in common does not count either. -/
theorem compare_append_left [Std.ReflOrd β] (common xs ys : List β) :
    compare (common ++ xs) (common ++ ys) = compare xs ys := by
  induction common with
  | nil => rfl
  | cons x common ih =>
      rw [List.cons_append, List.cons_append, List.compare_cons_cons, Std.ReflOrd.compare_self,
        Ordering.eq_then, ih]

namespace KeepsOrder

variable [Std.ReflOrd β] {code : Char → List β}

/-- The lower one of two texts has the lower code: it ends first, it has the lower first character,
or the same holds after a common character. -/
theorem compare_flatMap_eq_lt (keeps : KeepsOrder code) {as bs : List Char}
    (below : List.Lex (· < ·) as bs) : compare (as.flatMap code) (bs.flatMap code) = .lt := by
  induction below with
  | @nil b bs =>
      obtain ⟨x, xs, coded⟩ := List.exists_cons_of_ne_nil (keeps.ne_nil b)
      rw [List.flatMap_cons, coded]
      rfl
  | @rel a as b bs lower =>
      rw [List.flatMap_cons, List.flatMap_cons]
      exact (keeps.differsBelow a b lower).compare_append _ _
  | @cons a as bs _ ih =>
      rw [List.flatMap_cons, List.flatMap_cons, compare_append_left, ih]

/-- Texts compare as their codes do. -/
theorem compare_flatMap [Std.OrientedOrd β] (keeps : KeepsOrder code) (a b : String) :
    compare (a.toList.flatMap code) (b.toList.flatMap code) = compare a b := by
  cases order : compare a b with
  | lt => exact keeps.compare_flatMap_eq_lt (compareOfLessAndEq_eq_lt.mp order)
  | eq =>
      rw [Std.LawfulEqOrd.eq_of_compare order]
      exact Std.ReflOrd.compare_self
  | gt =>
      have below := Std.OrientedCmp.lt_of_gt order
      apply Std.OrientedCmp.gt_of_lt
      exact keeps.compare_flatMap_eq_lt (compareOfLessAndEq_eq_lt.mp below)

end KeepsOrder

/-! ## Bytes -/

theorem differsBelow_cons_iff {x y : β} {xs ys : List β} :
    DiffersBelow (x :: xs) (y :: ys) ↔ compare x y = .lt ∨ x = y ∧ DiffersBelow xs ys := by
  constructor
  · intro differs
    cases differs with
    | head below => exact .inl below
    | tail later => exact .inr ⟨rfl, later⟩
  · rintro (below | ⟨rfl, later⟩)
    · exact .head below
    · exact .tail later

theorem differsBelow_ofNat_cons_iff {m n : Nat} {xs ys : List UInt8} (mFits : m < 256)
    (nFits : n < 256) :
    DiffersBelow (UInt8.ofNat m :: xs) (UInt8.ofNat n :: ys) ↔
      m < n ∨ m = n ∧ DiffersBelow xs ys := by
  have below : compare (UInt8.ofNat m) (UInt8.ofNat n) = .lt ↔ m < n :=
    compareOfLessAndEq_eq_lt.trans (UInt8.ofNat_lt_iff_lt mFits nFits)
  rw [differsBelow_cons_iff, below, ← UInt8.toNat_inj, UInt8.toNat_ofNat_of_lt' mFits,
    UInt8.toNat_ofNat_of_lt' nFits]

/-- The UTF-8 code of a character keeps the order of characters. -/
theorem keepsOrder_utf8 : KeepsOrder String.utf8EncodeChar where
  ne_nil _ := String.utf8EncodeChar_ne_nil
  differsBelow c d below := by
    have order : c.val.toNat < d.val.toNat := below
    have bound : d.val.toNat < 0x110000 := by
      rcases d.valid with low | high
      · exact Nat.lt_trans low (by decide)
      · exact high.2
    -- Every byte after the first holds one digit to the base 64.
    have twoDigits (n : Nat) : n / 4096 = n / 64 / 64 := by omega
    have threeDigits (n : Nat) : n / 262144 = n / 64 / 64 / 64 := by omega
    -- Codes of different lengths differ in the first byte, the others at the first digit that does.
    fun_cases String.utf8EncodeChar c <;> fun_cases String.utf8EncodeChar d
    all_goals
      simp (disch := omega) only [differsBelow_ofNat_cons_iff, twoDigits, threeDigits]
      omega

/-- The bytes of a text in UTF-8. -/
def bytes (text : String) : List UInt8 :=
  text.toUTF8.data.toList

theorem bytes_eq_flatMap (text : String) :
    bytes text = text.toList.flatMap String.utf8EncodeChar := by
  rw [bytes, String.toUTF8_eq_toByteArray, ← String.utf8Encode_toList]
  exact List.toList_data_toByteArray

/-- Comparing bytes is comparing texts. -/
theorem compare_bytes (a b : String) : compare (bytes a) (bytes b) = compare a b := by
  rw [bytes_eq_flatMap, bytes_eq_flatMap]
  exact keepsOrder_utf8.compare_flatMap a b

-- Sequences of 16-bit units would order these two the other way round.
example : compare (bytes "\uffff") (bytes "😀") = .lt := by decide +kernel

/-! ## Code points -/

/-- The code points of a text. -/
def codePoints (text : String) : List Nat :=
  text.toList.map Char.toNat

theorem keepsOrder_codePoint : KeepsOrder fun c => [c.toNat] where
  ne_nil _ := List.cons_ne_nil _ _
  differsBelow _ _ below := .head (Nat.compare_eq_lt.mpr below)

/-- Comparing code points is comparing texts. -/
theorem compare_codePoints (a b : String) :
    compare (codePoints a) (codePoints b) = compare a b := by
  rw [codePoints, codePoints, List.map_eq_flatMap, List.map_eq_flatMap]
  exact keepsOrder_codePoint.compare_flatMap a b

end SqlAssist.Text
