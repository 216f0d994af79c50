/-
# What a sorted view holds and finds

The view of a set of names lists these names and no others, in completion order. Looking a word
up in it by binary search gives the same as going through the whole view: candidates that begin
with the word stand together, and the search stops where the first of them would stand.
-/

import SqlAssist.Candidates.View
import SqlAssist.Proofs.Candidates.Order

namespace SqlAssist

section Initial

variable {α : Type} {holds : α → Bool} {xs : List α}
  (initial : xs.Pairwise fun a b => holds b = true → holds a = true)
include initial

/-- A property that never holds later than it fails holds of an initial part only. -/
theorem takeWhile_eq_filter : xs.takeWhile holds = xs.filter holds := by
  induction xs with
  | nil => rfl
  | cons x xs ih =>
      obtain ⟨first, rest⟩ := List.pairwise_cons.mp initial
      by_cases held : holds x = true
      · rw [List.takeWhile_cons_of_pos held, List.filter_cons_of_pos held, ih rest]
      · rw [List.takeWhile_cons_of_neg held, List.filter_cons_of_neg held, eq_comm,
          List.filter_eq_nil_iff]
        intro y member later
        exact held (first y member later)

theorem not_of_mem_dropWhile {x : α} (member : x ∈ xs.dropWhile holds) : ¬ holds x = true := by
  induction xs with
  | nil => cases member
  | cons y xs ih =>
      obtain ⟨first, rest⟩ := List.pairwise_cons.mp initial
      by_cases held : holds y = true
      · rw [List.dropWhile_cons_of_pos held] at member
        exact ih rest member
      · rw [List.dropWhile_cons_of_neg held, List.mem_cons] at member
        intro later
        cases member with
        | inl same => exact held (same ▸ later)
        | inr member => exact held (first x member later)

end Initial

namespace View

variable {names : NameSet} {name : String}

/-! ## Members and order -/

theorem entries_ofNames (names : NameSet) :
    (ofNames names).entries.toList = (ofNames names).texts.map Entry.ofText := by
  have sorted : (ofNames names).entries.toList =
      (names.toList.mergeSort fun a b => (candidateOrder a b).isLE).map Entry.ofText := by
    rw [ofNames, List.map_mergeSort]
    intro a _ b _
    rw [Entry.order_ofText]
  rw [texts, sorted, List.map_map, List.map_map]
  rfl

theorem texts_ofNames (names : NameSet) :
    (ofNames names).texts = names.toList.mergeSort fun a b => (candidateOrder a b).isLE := by
  rw [texts, ofNames, ← List.map_mergeSort, List.map_map]
  · exact List.map_id _
  · intro a _ b _
    rw [Entry.order_ofText]

@[simp]
theorem mem_texts_ofNames : name ∈ (ofNames names).texts ↔ name ∈ names := by
  rw [texts_ofNames, List.mem_mergeSort, Std.ExtTreeSet.mem_toList]

theorem pairwise_texts_ofNames (names : NameSet) :
    (ofNames names).texts.Pairwise fun a b => (candidateOrder a b).isLE = true := by
  rw [texts_ofNames]
  exact pairwise_isLE_mergeSort names.toList

theorem nodup_texts_ofNames (names : NameSet) : (ofNames names).texts.Nodup := by
  rw [texts_ofNames, (List.mergeSort_perm _ _).nodup_iff]
  apply names.distinct_toList.imp
  rintro a b different rfl
  exact different Std.ReflOrd.compare_self

/-- No two candidates of a view are equal in completion order. -/
theorem pairwise_lt_texts_ofNames (names : NameSet) :
    (ofNames names).texts.Pairwise fun a b => candidateOrder a b = .lt := by
  apply ((pairwise_texts_ofNames names).and (nodup_texts_ofNames names)).imp
  rintro a b ⟨ordered, different⟩
  exact candidateOrder_eq_lt_of_ne ordered different

theorem pairwise_entries_ofNames (names : NameSet) :
    (ofNames names).entries.toList.Pairwise fun a b => a.folded ≤ b.folded := by
  rw [entries_ofNames, List.pairwise_map]
  exact (pairwise_texts_ofNames names).imp foldCase_le_of_isLE

/-! ## Look-up -/

/-- Whether an entry stands before all that begin with a key. -/
theorem compare_folded_beq_lt {entry : Entry} {key : String} :
    (compare entry.folded key == .lt) = true ↔ entry.folded < key := by
  rw [beq_iff_eq, compare_eq_lt_iff]

theorem splits_ofNames (names : NameSet) (key : String) :
    Splits (fun entry => compare entry.folded key == .lt) (ofNames names).entries := by
  intro i j hi hj ordered before
  rw [compare_folded_beq_lt] at before ⊢
  rcases Nat.lt_or_eq_of_le ordered with earlier | rfl
  · have le := List.pairwise_iff_getElem.mp (pairwise_entries_ofNames names) i j hi hj earlier
    apply String.not_le.mp
    intro above
    exact String.not_le.mpr before (String.le_trans above le)
  · exact before

/-- What is searched for holds of the entries before the lower bound and of no others. -/
theorem folded_lt_iff_lt_lowerBound (names : NameSet) (key : String) (i : Nat)
    (inside : i < (ofNames names).entries.size) :
    (ofNames names).entries[i].folded < key ↔ i < (ofNames names).lowerBound key := by
  rw [← compare_folded_beq_lt]
  exact holds_iff_lt_partitionPoint (splits_ofNames names key) i inside

/-- Entries before the lower bound of a key are below the key. -/
theorem folded_lt_of_mem_take {key : String} {entry : Entry}
    (member : entry ∈ (ofNames names).entries.toList.take ((ofNames names).lowerBound key)) :
    entry.folded < key := by
  obtain ⟨i, bound, rfl⟩ := List.mem_take_iff_getElem.mp member
  obtain ⟨early, inside⟩ := Nat.lt_min.mp bound
  exact (folded_lt_iff_lt_lowerBound names key i inside).mpr early

/-- Entries from the lower bound of a key on are not below it. -/
theorem le_folded_of_mem_drop {key : String} {entry : Entry}
    (member : entry ∈ (ofNames names).entries.toList.drop ((ofNames names).lowerBound key)) :
    key ≤ entry.folded := by
  obtain ⟨i, inside, rfl⟩ := List.mem_drop_iff_getElem.mp member
  rw [Nat.add_comm] at inside
  intro below
  have early := (folded_lt_iff_lt_lowerBound names key _ inside).mp below
  exact Nat.not_lt.mpr (Nat.le_add_right _ i) early

section Beginnings

variable (names) (typed : String)

/-- No candidate before the lower bound of a word begins with it. -/
theorem not_startsFolded_of_mem_take
    (member : name ∈
      (ofNames names).texts.take ((ofNames names).lowerBound (Text.foldCase typed))) :
    ¬ startsFolded typed name = true := by
  have listed : Entry.ofText name ∈
      (ofNames names).entries.toList.take ((ofNames names).lowerBound (Text.foldCase typed)) := by
    rw [entries_ofNames, ← List.map_take]
    exact List.mem_map_of_mem member
  have below := folded_lt_of_mem_take listed
  intro begins
  exact not_lex_of_prefix (startsFolded_iff.mp begins) below

/-- From the lower bound of a word on, all that comes before a candidate that begins with the word
begins with it too. -/
theorem pairwise_startsFolded_drop :
    ((ofNames names).texts.drop ((ofNames names).lowerBound (Text.foldCase typed))).Pairwise
      fun a b => startsFolded typed b = true → startsFolded typed a = true := by
  apply ((pairwise_texts_ofNames names).drop).imp_of_mem
  intro a b member _ ordered begins
  have listed : Entry.ofText a ∈
      (ofNames names).entries.toList.drop ((ofNames names).lowerBound (Text.foldCase typed)) := by
    rw [entries_ofNames, ← List.map_drop]
    exact List.mem_map_of_mem member
  have above := le_folded_of_mem_drop listed
  apply startsFolded_iff.mpr
  exact prefix_of_not_lex above (foldCase_le_of_isLE ordered) (startsFolded_iff.mp begins)

/-- A look-up goes on from the lower bound as long as candidates begin with the word. -/
theorem matching_eq_takeWhile :
    (ofNames names).matching typed =
      ((ofNames names).texts.drop ((ofNames names).lowerBound (Text.foldCase typed))).takeWhile
        (startsFolded typed) := by
  have begins : (fun entry => (Text.foldCase typed).toList.isPrefixOf entry.folded.toList) ∘
      Entry.ofText = startsFolded typed := by
    funext candidate
    simp only [Function.comp_apply, startsFolded, Entry.ofText]
  rw [matching, entries_ofNames, ← List.map_drop, List.takeWhile_map, List.map_map, begins]
  exact List.map_id _

/-- A look-up finds what going through the whole view would find. -/
theorem matching_ofNames :
    (ofNames names).matching typed = (ofNames names).texts.filter (startsFolded typed) := by
  have none_before : ((ofNames names).texts.take
      ((ofNames names).lowerBound (Text.foldCase typed))).filter (startsFolded typed) = [] := by
    rw [List.filter_eq_nil_iff]
    intro name member
    exact not_startsFolded_of_mem_take names typed member
  rw [matching_eq_takeWhile, takeWhile_eq_filter (pairwise_startsFolded_drop names typed),
    ← List.nil_append (List.filter _ (List.drop _ _)), ← none_before, ← List.filter_append,
    List.take_append_drop]

end Beginnings

end View

end SqlAssist
