/-
# Completion order as a linear order

Completion order compares folded texts first and the texts themselves after that, so it is a
linear order on texts. Texts whose folded form begins with a given key follow each other in it:
the key itself is the least of them, and whatever lies between the key and a text that begins
with it begins with it too. The order is the same whether texts are compared by their bytes or by
their code points.
-/

import SqlAssist.Candidates.Order
import SqlAssist.Proofs.Text.ByteOrder

namespace SqlAssist

variable {a b key : String}

/-! ## A linear order -/

instance : Std.TransCmp candidateOrder :=
  inferInstanceAs (Std.TransCmp (compareLex (compareOn Text.foldCase) compare))

instance : Std.LawfulEqCmp candidateOrder where
  compare_self {a} := by simp [candidateOrder]
  eq_of_compare {a b} same := by
    obtain ⟨_, equal⟩ := Ordering.then_eq_eq.mp same
    exact Std.LawfulEqOrd.eq_of_compare equal

theorem candidateOrder_eq_lt_of_ne (ordered : (candidateOrder a b).isLE = true)
    (different : a ≠ b) : candidateOrder a b = .lt := by
  cases order : candidateOrder a b with
  | lt => rfl
  | eq => exact absurd (Std.LawfulEqCmp.eq_of_compare order) different
  | gt => simp [order] at ordered

instance : Std.Irrefl fun a b => candidateOrder a b = .lt where
  irrefl a below := by simp [Std.ReflCmp.compare_self] at below

instance : Std.Antisymm fun a b => candidateOrder a b = .lt where
  antisymm _ _ below above := absurd above (Std.OrientedCmp.not_lt_of_lt below)

/-- Sorting a list of texts puts it into completion order. -/
theorem pairwise_isLE_mergeSort (names : List String) :
    (names.mergeSort fun a b => (candidateOrder a b).isLE).Pairwise
      fun a b => (candidateOrder a b).isLE = true := by
  apply List.pairwise_mergeSort
  · intro a b c first second
    exact Std.TransCmp.isLE_trans first second
  · intro a b
    cases order : candidateOrder a b with
    | lt | eq => rfl
    | gt => simp [Std.OrientedCmp.lt_of_gt order]

theorem compare_eq_lt_iff : compare a b = .lt ↔ a < b :=
  compareOfLessAndEq_eq_lt

/-- Of two texts in completion order, the later one has the later folded text, or the same. -/
theorem foldCase_le_of_isLE (ordered : (candidateOrder a b).isLE = true) :
    Text.foldCase a ≤ Text.foldCase b := by
  apply String.not_lt.mp
  intro above
  have order := compare_eq_lt_iff.mpr above
  exact Std.OrientedCmp.not_isLE_of_lt order (Ordering.isLE_left_of_isLE_then ordered)

/-! ## Beginnings -/

theorem startsFolded_iff :
    startsFolded a b = true ↔ (Text.foldCase a).toList <+: (Text.foldCase b).toList :=
  List.isPrefixOf_iff_prefix

/-- What lies between a key and a text that begins with it begins with it. -/
theorem prefix_of_not_lex {key first second : List Char}
    (above : ¬ List.Lex (· < ·) first key) (ordered : ¬ List.Lex (· < ·) second first)
    (starts : key <+: second) : key <+: first := by
  induction key generalizing first second with
  | nil => exact List.nil_prefix
  | cons k key ih =>
      obtain ⟨rest, rfl⟩ := starts
      cases first with
      | nil => exact absurd List.Lex.nil above
      | cons c first =>
          rw [List.cons_lex_cons_iff] at above
          rw [List.cons_append, List.cons_lex_cons_iff] at ordered
          have same : c = k := by
            apply Char.le_antisymm
            · exact Char.not_lt.mp fun higher => ordered (.inl higher)
            · exact Char.not_lt.mp fun lower => above (.inl lower)
          subst same
          apply List.cons_prefix_cons.mpr
          refine ⟨rfl, ih ?_ ?_ (List.prefix_append key rest)⟩
          · exact fun lower => above (.inr ⟨rfl, lower⟩)
          · exact fun higher => ordered (.inr ⟨rfl, higher⟩)

/-- A text that begins with a key is not below it. -/
theorem not_lex_of_prefix {key text : List Char} (starts : key <+: text) :
    ¬ List.Lex (· < ·) text key := by
  induction key generalizing text with
  | nil => exact List.not_lex_nil
  | cons k key ih =>
      obtain ⟨rest, rfl⟩ := starts
      rw [List.cons_append, List.cons_lex_cons_iff]
      rintro (lower | ⟨_, lower⟩)
      · exact Char.lt_irrefl k lower
      · exact ih (List.prefix_append key rest) lower

/-- A candidate whose folded text is a proper beginning of another's comes before it. -/
theorem candidateOrder_eq_lt_of_append {rest : String} (proper : rest ≠ "")
    (longer : Text.foldCase b = Text.foldCase a ++ rest) : candidateOrder a b = .lt := by
  have starts : (Text.foldCase a).toList <+: (Text.foldCase b).toList := by
    rw [longer, String.toList_append]
    exact List.prefix_append _ _
  have different : Text.foldCase a ≠ Text.foldCase b := by
    intro same
    apply proper
    rwa [same, eq_comm, String.append_eq_left_iff] at longer
  have below : Text.foldCase a < Text.foldCase b := by
    have atMost : Text.foldCase a ≤ Text.foldCase b := not_lex_of_prefix starts
    apply String.not_le.mp
    intro above
    exact different (String.le_antisymm atMost above)
  rw [candidateOrder, compare_eq_lt_iff.mpr below, Ordering.lt_then]

/-! ## One order, however it is computed -/

/-- **Completion order is a linear order, by bytes as by code points.** Only a text itself is equal
to it in this order, the order turns round with its arguments and it is transitive. Entries, which
keep their folded text, are in the same order. It makes no difference whether folded and original
texts are compared by their UTF-8 bytes or by their code points. A text whose folded form is a
proper beginning of another's comes first. -/
theorem candidateOrder_linear (a b c : String) :
    (candidateOrder a b = .eq ↔ a = b) ∧
    candidateOrder b a = (candidateOrder a b).swap ∧
    ((candidateOrder a b).isLE = true → (candidateOrder b c).isLE = true →
      (candidateOrder a c).isLE = true) ∧
    (candidateOrder a b = .lt → candidateOrder b c = .lt → candidateOrder a c = .lt) ∧
    (Entry.ofText a).order (Entry.ofText b) = candidateOrder a b ∧
    candidateOrder a b =
      (compare (Text.bytes (Text.foldCase a)) (Text.bytes (Text.foldCase b))).then
        (compare (Text.bytes a) (Text.bytes b)) ∧
    candidateOrder a b =
      (compare (Text.codePoints (Text.foldCase a)) (Text.codePoints (Text.foldCase b))).then
        (compare (Text.codePoints a) (Text.codePoints b)) ∧
    ∀ rest, rest ≠ "" → Text.foldCase b = Text.foldCase a ++ rest → candidateOrder a b = .lt := by
  refine ⟨Std.LawfulEqCmp.compare_eq_iff_eq, Std.OrientedCmp.eq_swap, Std.TransCmp.isLE_trans,
    Std.TransCmp.lt_trans, Entry.order_ofText a b, ?_, ?_, fun _ => candidateOrder_eq_lt_of_append⟩
  · rw [Text.compare_bytes, Text.compare_bytes, candidateOrder]
  · rw [Text.compare_codePoints, Text.compare_codePoints, candidateOrder]

/-- Texts that fold alike are in the order of their bytes, and before what continues them. -/
theorem candidateOrder_linear_order :
    candidateOrder "ORDER" "order" = .lt ∧ candidateOrder "order" "ORDERS" = .lt ∧
      candidateOrder "ORDER" "ORDERS" = .lt ∧ candidateOrder "ORDERS" "ORDER" = .gt := by
  have variants : candidateOrder "ORDER" "order" = .lt := by decide +kernel
  have folded : Text.foldCase "ORDERS" = Text.foldCase "order" ++ "s" := by decide +kernel
  have continued : candidateOrder "order" "ORDERS" = .lt :=
    (candidateOrder_linear "order" "ORDERS" "").2.2.2.2.2.2.2 "s" (by decide) folded
  have across : candidateOrder "ORDER" "ORDERS" = .lt :=
    (candidateOrder_linear "ORDER" "order" "ORDERS").2.2.2.1 variants continued
  have turned : candidateOrder "ORDERS" "ORDER" = (candidateOrder "ORDER" "ORDERS").swap :=
    (candidateOrder_linear "ORDER" "ORDERS" "").2.1
  rw [across] at turned
  exact ⟨variants, continued, across, turned⟩

end SqlAssist
