/-
# Completion of the word at the cursor

`CandidateSet.complete` answers from the sorted views: the whole view for an empty word, the
matching part of it otherwise. `rank` does the same for any list of candidates by filtering and
sorting it, and is what the fast answer is measured against.
-/

import SqlAssist.Candidates.CandidateSet
import SqlAssist.Sql.PartialToken

namespace SqlAssist

/-- What completion may leave out. -/
structure MatchOptions where
  /-- After a dot, offer no keywords: none can follow a qualifier. -/
  schemaOnlyAfterDot : Bool := false
  deriving DecidableEq, Repr

/-- Drop every member that equals the one before it. -/
def dropRepeats : List String → List String
  | [] => []
  | [name] => [name]
  | first :: second :: rest =>
    if first = second then dropRepeats (second :: rest)
    else first :: dropRepeats (second :: rest)

/-- The candidates of a list that begin with `typed`, each once, in completion order. -/
def rank (candidates : List String) (typed : String) : List String :=
  dropRepeats ((candidates.filter (startsFolded typed)).mergeSort
    fun a b => (candidateOrder a b).isLE)

namespace CandidateSet

/-- The view that serves a partial token. -/
def viewFor (set : CandidateSet) (options : MatchOptions) (token : Sql.PartialToken) : View :=
  if options.schemaOnlyAfterDot && token.isQualified then set.schemaOnly else set.all

/-- The completions of a partial token. -/
def completeToken (set : CandidateSet) (options : MatchOptions) (token : Sql.PartialToken) :
    List String :=
  let view := set.viewFor options token
  dropRepeats (if token.isEmpty then view.texts else view.matching token.text)

/-- The completions at a byte offset of a buffer; only a bad cursor makes it fail. -/
def complete (set : CandidateSet) (options : MatchOptions) (buffer : String) (cursor : Nat) :
    Except ArgumentError (List String) :=
  (Sql.PartialToken.atCursor buffer cursor).map (set.completeToken options)

end CandidateSet

end SqlAssist
