/-
# Sets of code points

A property of characters is kept as a table of ranges of code points, in increasing order and
without overlap. Membership asks for one range only: the first whose end is not passed.
-/

import SqlAssist.Bisect

namespace SqlAssist.Text

/-- The code points from `first` to `last`, both included. -/
structure CodeRange where
  first : Nat
  last : Nat
  deriving DecidableEq

/-- Disjoint ranges in increasing order. -/
abbrev CodeTable := Array CodeRange

/-- Whether one of the ranges holds the code point. -/
def CodeTable.contains (table : CodeTable) (code : Nat) : Bool :=
  match table[partitionPoint (fun range => range.last < code) table]? with
  | some range => range.first ≤ code
  | none => false

end SqlAssist.Text
