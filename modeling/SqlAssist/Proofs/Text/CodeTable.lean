/-
# Look-ups in tables of code points

A look-up asks one entry only, the first whose end is not passed. In a table whose entries follow
each other without overlap this is the one entry that can hold the code point, so `contains` says
whether any range holds it, and a case form comes from an entry that covers the code point or is the
character itself.
-/

import SqlAssist.Text.CaseTable
import SqlAssist.Text.CodeTable

namespace SqlAssist.Text

/-! ## The entry that is asked -/

/-- If the ends increase, the entries that are passed are those before the one that is asked. -/
theorem last_lt_iff_lt_partitionPoint {α : Type} {last : α → Nat} {xs : Array α}
    (increasing : xs.toList.Pairwise fun a b => last a < last b) (code i : Nat)
    (hi : i < xs.size) :
    last xs[i] < code ↔ i < partitionPoint (fun x => last x < code) xs := by
  have splits : Splits (fun x => last x < code) xs := by
    intro i j hi hj ordered passed
    simp only [decide_eq_true_eq] at passed ⊢
    rcases Nat.lt_or_eq_of_le ordered with earlier | rfl
    · have lower := List.pairwise_iff_getElem.mp increasing i j hi hj earlier
      simp only [Array.getElem_toList] at lower
      omega
    · exact passed
  simpa using holds_iff_lt_partitionPoint splits i hi

/-! ## Ranges -/

/-- Two ranges in increasing order, the second one not empty. -/
def CodeRange.Below (a b : CodeRange) : Prop :=
  a.last < b.first ∧ b.first ≤ b.last
  deriving Decidable

theorem CodeRange.Below.trans {a b c : CodeRange} (first : a.Below b) (second : b.Below c) :
    a.Below c := by
  obtain ⟨below, nonEmpty⟩ := first
  obtain ⟨above, rest⟩ := second
  exact ⟨by omega, rest⟩

instance : Trans CodeRange.Below CodeRange.Below CodeRange.Below where
  trans := CodeRange.Below.trans

/-- A table of increasing ranges contains what one of them holds. -/
theorem CodeTable.contains_iff {table : CodeTable}
    (increasing : table.toList.Pairwise CodeRange.Below) {code : Nat} :
    table.contains code = true ↔
      ∃ range ∈ table.toList, range.first ≤ code ∧ code ≤ range.last := by
  have ends : table.toList.Pairwise fun a b => a.last < b.last :=
    increasing.imp fun below => Nat.lt_of_lt_of_le below.1 below.2
  have passed := last_lt_iff_lt_partitionPoint ends code
  unfold contains
  constructor
  · intro held
    split at held
    · next range asked =>
        obtain ⟨inside, rfl⟩ := Array.getElem?_eq_some_iff.mp asked
        have reaches := passed _ inside
        simp only [Nat.lt_irrefl, iff_false, Nat.not_lt] at reaches
        exact ⟨_, Array.getElem_mem_toList inside, by simpa using held, reaches⟩
    · cases held
  · rintro ⟨range, member, above, below⟩
    obtain ⟨j, hj, rfl⟩ := List.getElem_of_mem member
    simp only [Array.length_toList, Array.getElem_toList] at hj above below
    have early : partitionPoint (fun range => range.last < code) table ≤ j := by
      apply Nat.not_lt.mp
      intro late
      have ended := (passed j hj).mpr late
      omega
    rw [Array.getElem?_eq_getElem (by omega)]
    -- An earlier range would end before the code point, so it would have been passed.
    rcases Nat.lt_or_eq_of_le early with earlier | same
    · have apart := List.pairwise_iff_getElem.mp increasing _ j (by simpa using by omega)
        (by simpa using hj) earlier
      simp only [Array.getElem_toList] at apart
      have ended := (passed _ (by omega)).mp (Nat.lt_of_lt_of_le apart.1 above)
      exact absurd ended (Nat.lt_irrefl _)
    · simpa [same] using above

/-! ## Case forms -/

namespace CaseRun

/-- A run covers a code point that it has a form for. -/
def Covers (run : CaseRun) (code : Nat) : Prop :=
  run.first ≤ code ∧ code ≤ run.last ∧ (code - run.first) % run.step = 0

/-- The form that a run gives to a code point. -/
def form (run : CaseRun) (code : Nat) : Nat :=
  run.target + (code - run.first)

/-- The highest form of a run. -/
def lastForm (run : CaseRun) : Nat :=
  run.form run.last

theorem Covers.form_bounds {run : CaseRun} {code : Nat} (covered : run.Covers code) :
    run.target ≤ run.form code ∧ run.form code ≤ run.lastForm := by
  obtain ⟨above, below, _⟩ := covered
  unfold lastForm form
  omega

end CaseRun

namespace CaseTable

variable {table : CaseTable} {code : Nat}

theorem mem_expansions_of_expanded? {expansion : CaseExpansion}
    (found : table.expanded? code = some expansion) :
    expansion ∈ table.expansions.toList ∧ expansion.code = code := by
  unfold expanded? at found
  split at found
  · next asked entry =>
      split at found
      · next same =>
          cases found
          exact ⟨Array.mem_toList_iff.mpr (Array.mem_of_getElem? entry), same⟩
      · cases found
  · cases found

theorem covers_of_shifted? (increasing : table.runs.toList.Pairwise fun a b => a.last < b.last)
    {form : Nat} (found : table.shifted? code = some form) :
    ∃ run ∈ table.runs.toList, run.Covers code ∧ form = run.form code := by
  unfold shifted? at found
  split at found
  · next run asked =>
      split at found
      · next covered =>
          cases found
          obtain ⟨inside, rfl⟩ := Array.getElem?_eq_some_iff.mp asked
          have reaches := last_lt_iff_lt_partitionPoint increasing code _ inside
          simp only [Nat.lt_irrefl, iff_false, Nat.not_lt] at reaches
          exact ⟨_, Array.getElem_mem_toList inside, ⟨covered.1, reaches, covered.2⟩, rfl⟩
      · cases found
  · cases found

/-- The form of a character is that of an expansion or of a run that covers it, or it is the
character itself. -/
theorem form_cases (increasing : table.runs.toList.Pairwise fun a b => a.last < b.last)
    (c : Char) :
    (∃ expansion ∈ table.expansions.toList, expansion.code = c.toNat ∧
      table.form c = (expansion.first :: expansion.rest).map Char.ofNat) ∨
    (∃ run ∈ table.runs.toList, run.Covers c.toNat ∧
      table.form c = [Char.ofNat (run.form c.toNat)]) ∨
    table.form c = [c] := by
  unfold form
  cases expanded : table.expanded? c.toNat with
  | some expansion =>
      obtain ⟨member, same⟩ := mem_expansions_of_expanded? expanded
      exact .inl ⟨expansion, member, same, rfl⟩
  | none =>
      cases shifted : table.shifted? c.toNat with
      | some code =>
          obtain ⟨run, member, covered, rfl⟩ := covers_of_shifted? increasing shifted
          exact .inr (.inl ⟨run, member, covered, rfl⟩)
      | none => exact .inr (.inr rfl)

end CaseTable

end SqlAssist.Text
