/-
# Laws of case folding

Folding goes character by character, so it commutes with joining texts. The lower-case forms are
forms of themselves, so folding twice is folding once. They are letters, with one exception: the
dotted capital I keeps its dot as a combining mark.

The laws about single characters rest on facts about the tables that are checked run by run.
-/

import Mathlib.Data.List.Chain
import SqlAssist.Proofs.Text.CodeTable
import SqlAssist.Text.Alphanumeric
import SqlAssist.Text.LowerCase

namespace SqlAssist.Text

/-! ## Forms of a run -/

namespace CaseRun

variable {run other : CaseRun} {range : CodeRange} {code : Nat}

/-- Whether the forms of a run lie outside another run or, where capitals and small letters
alternate, between its members. -/
def apart (run other : CaseRun) : Bool :=
  Nat.blt run.lastForm other.first || Nat.blt other.last run.target ||
    (other.step == 2 && (run.step == 2 || run.first == run.last) &&
      (run.target + other.first) % 2 == 1)

theorem not_covers_of_apart (separate : run.apart other = true) (covered : run.Covers code) :
    ¬ other.Covers (run.form code) := by
  have bounds := covered.form_bounds
  obtain ⟨above, below, stepped⟩ := covered
  simp only [apart, Bool.or_eq_true, Bool.and_eq_true, beq_iff_eq, Nat.blt_eq] at separate
  rintro ⟨above', below', stepped'⟩
  rcases separate with (beyond | beyond) | ⟨⟨alternates, small⟩, odd⟩
  · omega
  · omega
  · -- Members lie an even distance from the first one, and the form an odd one.
    unfold form at above' stepped'
    rw [alternates] at stepped'
    rcases small with alternates' | single
    · rw [alternates'] at stepped
      omega
    · omega

/-- Whether the forms of a run lie in one range. -/
def formsIn (run : CaseRun) (range : CodeRange) : Bool :=
  Nat.ble range.first run.target && Nat.ble run.lastForm range.last

end CaseRun

/-! ## Facts about the tables -/

theorem increasing_lowerRuns : lowerRuns.toList.Pairwise fun a b => a.last < b.last := by
  have increasing : (lowerRuns.toList.map CaseRun.last).IsChain (· < ·) := by decide +kernel
  exact List.pairwise_map.mp (List.isChain_iff_pairwise.mp increasing)

theorem increasing_alphanumericTable : alphanumericTable.toList.Pairwise CodeRange.Below := by
  have increasing : alphanumericTable.toList.IsChain CodeRange.Below := by decide +kernel
  exact List.isChain_iff_pairwise.mp increasing

/-- No lower-case form is a capital letter. -/
theorem apart_of_mem_lowerRuns {run other : CaseRun} (member : run ∈ lowerRuns.toList)
    (another : other ∈ lowerRuns.toList) : run.apart other = true := by
  have checked : (lowerRuns.toList.all fun run => lowerRuns.toList.all run.apart) = true := by
    decide +kernel
  exact List.all_eq_true.mp (List.all_eq_true.mp checked run member) other another

/-- The lower-case forms of a run are letters. -/
theorem exists_formsIn_of_mem_lowerRuns {run : CaseRun} (member : run ∈ lowerRuns.toList) :
    ∃ range ∈ alphanumericTable.toList, run.formsIn range = true := by
  have checked : (lowerRuns.toList.all fun run =>
      alphanumericTable.toList.any run.formsIn) = true := by
    decide +kernel
  exact List.any_eq_true.mp (List.all_eq_true.mp checked run member)

theorem isValidChar_form {run : CaseRun} (member : run ∈ lowerRuns.toList) {code : Nat}
    (covered : run.Covers code) : (run.form code).isValidChar := by
  have checked : ∀ run ∈ lowerRuns.toList,
      run.lastForm < 0xD800 ∨ 0xDFFF < run.target ∧ run.lastForm < 0x110000 := by
    decide +kernel
  obtain ⟨above, below⟩ := covered.form_bounds
  rcases checked run member with low | ⟨high, bounded⟩
  · exact .inl (Nat.lt_of_le_of_lt below low)
  · exact .inr ⟨Nat.lt_of_lt_of_le high above, Nat.lt_of_le_of_lt below bounded⟩

/-- The dotted capital I is no lower-case form. -/
theorem form_ne_dottedI {run : CaseRun} (member : run ∈ lowerRuns.toList) {code : Nat}
    (covered : run.Covers code) : run.form code ≠ 0x130 := by
  have checked : ∀ run ∈ lowerRuns.toList, run.lastForm < 0x130 ∨ 0x130 < run.target := by
    decide +kernel
  have bounds := covered.form_bounds
  have outside := checked run member
  omega

/-! ## Forms of a character -/

section
variable {run : CaseRun} {code : Nat} {c d : Char}

theorem toNat_form (member : run ∈ lowerRuns.toList) (covered : run.Covers code) :
    (Char.ofNat (run.form code)).toNat = run.form code := by
  rw [Char.ofNat, dif_pos (isValidChar_form member covered)]
  rfl

theorem isAlphanumeric_form (member : run ∈ lowerRuns.toList) (covered : run.Covers code) :
    isAlphanumeric (Char.ofNat (run.form code)) = true := by
  rw [isAlphanumeric, toNat_form member covered]
  obtain ⟨range, listed, inside⟩ := exists_formsIn_of_mem_lowerRuns member
  simp only [CaseRun.formsIn, Bool.and_eq_true, Nat.ble_eq] at inside
  obtain ⟨above, below⟩ := covered.form_bounds
  apply (CodeTable.contains_iff increasing_alphanumericTable).mpr
  exact ⟨range, listed, inside.1.trans above, below.trans inside.2⟩

/-- The dotted capital I has a form of two characters, a capital letter of a run has the form that
the run gives it, and everything else is its own form. -/
theorem lower_cases (c : Char) :
    (c = 'İ' ∧ lower c = ['i', '\u0307']) ∨
    (∃ run ∈ lowerRuns.toList, run.Covers c.toNat ∧
      lower c = [Char.ofNat (run.form c.toNat)]) ∨
    lower c = [c] := by
  rcases lowerTable.form_cases increasing_lowerRuns c with ⟨expansion, listed, same, form⟩ | rest
  · obtain rfl : expansion = ⟨0x130, 0x69, [0x307]⟩ := List.mem_singleton.mp listed
    exact .inl ⟨Char.toNat_inj.mp same.symm, form⟩
  · exact .inr rest

/-- A lower-case form is its own lower-case form. -/
theorem lower_of_mem_lower (member : d ∈ lower c) : lower d = [d] := by
  rcases lower_cases c with ⟨_, form⟩ | ⟨run, listed, covered, form⟩ | form
  · rw [form, List.mem_pair] at member
    rcases member with rfl | rfl
    · decide +kernel
    · decide +kernel
  · obtain rfl : d = Char.ofNat (run.form c.toNat) := by simpa [form] using member
    have code := toNat_form listed covered
    rcases lower_cases (Char.ofNat (run.form c.toNat)) with
      ⟨dotted, _⟩ | ⟨other, another, covers, _⟩ | fixed
    · rw [dotted] at code
      exact absurd code.symm (form_ne_dottedI listed covered)
    · rw [code] at covers
      have separate := apart_of_mem_lowerRuns listed another
      exact absurd covers (CaseRun.not_covers_of_apart separate covered)
    · exact fixed
  · obtain rfl : d = c := by simpa [form] using member
    exact form

/-- But for the dotted capital I, a form that differs from its character is a letter. -/
theorem isAlphanumeric_of_mem_lower (member : d ∈ lower c) (notDotted : c ≠ 'İ') :
    isAlphanumeric d = true ∨ d = c := by
  rcases lower_cases c with ⟨dotted, _⟩ | ⟨run, listed, covered, form⟩ | form
  · exact absurd dotted notDotted
  · obtain rfl : d = Char.ofNat (run.form c.toNat) := by simpa [form] using member
    exact .inl (isAlphanumeric_form listed covered)
  · exact .inr (by simpa [form] using member)

end

/-! ## Folding a text -/

@[simp]
theorem toList_foldCase (text : String) :
    (foldCase text).toList = text.toList.flatMap lower := by
  simp [foldCase]

theorem foldCase_append (first second : String) :
    foldCase (first ++ second) = foldCase first ++ foldCase second := by
  simp [← String.toList_inj]

/-- Folding twice is folding once. -/
theorem foldCase_foldCase (text : String) : foldCase (foldCase text) = foldCase text := by
  have fixed : ∀ d ∈ text.toList.flatMap lower, lower d = [d] := by
    intro d member
    obtain ⟨c, _, form⟩ := List.mem_flatMap.mp member
    exact lower_of_mem_lower form
  rw [← String.toList_inj, toList_foldCase, toList_foldCase]
  calc
    (text.toList.flatMap lower).flatMap lower
      = (text.toList.flatMap lower).flatMap fun d => [d] := List.flatMap_congr fixed
    _ = text.toList.flatMap lower := List.flatMap_singleton' _

end SqlAssist.Text
