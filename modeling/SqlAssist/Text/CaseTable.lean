/-
# Case forms of characters

Most case pairs come in runs: an alphabet of capitals stands a fixed distance from its small
letters, or capitals and small letters alternate. A few characters have a form of several
characters and are listed one by one. A character in neither list is its own form.
-/

import SqlAssist.Bisect

namespace SqlAssist.Text

/-- Every `step`th code point from `first` to `last` has a form, and the form lies as far above
`target` as the code point lies above `first`. -/
structure CaseRun where
  first : Nat
  last : Nat
  step : Nat
  target : Nat
  deriving DecidableEq

/-- The form of `code` is `first` followed by `rest`; it is never empty. -/
structure CaseExpansion where
  code : Nat
  first : Nat
  rest : List Nat
  deriving DecidableEq

/-- Runs and expansions, each in increasing order of code points; no code point is in both. -/
structure CaseTable where
  runs : Array CaseRun
  expansions : Array CaseExpansion

namespace CaseTable

/-- The one-character form of a code point, if a run covers it. -/
def shifted? (table : CaseTable) (code : Nat) : Option Nat :=
  match table.runs[partitionPoint (fun run => run.last < code) table.runs]? with
  | some run =>
    if run.first ≤ code ∧ (code - run.first) % run.step = 0 then
      some (run.target + (code - run.first))
    else none
  | none => none

/-- The longer form of a code point, if it has one. -/
def expanded? (table : CaseTable) (code : Nat) : Option CaseExpansion :=
  match table.expansions[partitionPoint (fun e => e.code < code) table.expansions]? with
  | some expansion => if expansion.code = code then some expansion else none
  | none => none

/-- The form of a character: by its expansion, by its run, or itself. -/
def form (table : CaseTable) (c : Char) : List Char :=
  match table.expanded? c.toNat with
  | some expansion => Char.ofNat expansion.first :: expansion.rest.map Char.ofNat
  | none =>
    match table.shifted? c.toNat with
    | some code => [Char.ofNat code]
    | none => [c]

/-- A form has at least one character. -/
theorem form_ne_nil (table : CaseTable) (c : Char) : table.form c ≠ [] := by
  unfold form
  split
  · simp
  · split <;> simp

end CaseTable

end SqlAssist.Text
