/-
# Sorted views

A view lists the entries of a set of names in completion order. Candidates that begin with a
typed word stand together in it, starting at the first entry whose folded text is not below the
folded word; a look-up is one binary search and a scan of the answers.
-/

import SqlAssist.Bisect
import SqlAssist.Candidates.Order
import SqlAssist.NameSet

namespace SqlAssist

/-- Entries in completion order. -/
structure View where
  entries : Array Entry
  deriving DecidableEq

namespace View

/-- The view of a set of names. -/
def ofNames (names : NameSet) : View where
  entries := ((names.toList.map Entry.ofText).mergeSort fun a b => (a.order b).isLE).toArray

/-- The candidates of a view, in completion order. -/
def texts (view : View) : List String :=
  view.entries.toList.map (·.text)

/-- The number of candidates. -/
def size (view : View) : Nat :=
  view.entries.size

/-- Where the candidates that begin with a word of this folded text start. -/
def lowerBound (view : View) (folded : String) : Nat :=
  partitionPoint (fun entry => compare entry.folded folded == .lt) view.entries

/-- The candidates that begin with `typed`, whatever its case, in completion order. -/
def matching (view : View) (typed : String) : List String :=
  let folded := Text.foldCase typed
  let key := folded.toList
  ((view.entries.toList.drop (view.lowerBound folded)).takeWhile
    fun entry => key.isPrefixOf entry.folded.toList).map (·.text)

end View

end SqlAssist
