/-
# Completion order

Candidates are offered in the order of their folded text, so that case does not tear
neighbours apart; texts that fold alike follow in the order of their own code points. Distinct
texts are never equal in this order.
-/

import SqlAssist.Text.LowerCase

namespace SqlAssist

/-- The order in which candidates are offered. -/
def candidateOrder (a b : String) : Ordering :=
  (compare (Text.foldCase a) (Text.foldCase b)).then (compare a b)

/-- Whether `candidate` begins with `typed` when case is set aside. -/
def startsFolded (typed candidate : String) : Bool :=
  (Text.foldCase typed).toList.isPrefixOf (Text.foldCase candidate).toList

/-- A candidate together with its folded text, which is computed once. -/
structure Entry where
  text : String
  folded : String
  deriving DecidableEq, Repr

namespace Entry

/-- The entry of a candidate. -/
def ofText (text : String) : Entry where
  text := text
  folded := Text.foldCase text

/-- Completion order on entries. -/
def order (a b : Entry) : Ordering :=
  (compare a.folded b.folded).then (compare a.text b.text)

@[simp]
theorem order_ofText (a b : String) : (ofText a).order (ofText b) = candidateOrder a b := rfl

end Entry

end SqlAssist
