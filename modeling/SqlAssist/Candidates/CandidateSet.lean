/-
# Candidate sets

A candidate set is what completion chooses from: keywords and the names of schema objects,
merged into one view, and the schema names once more on their own. A set never changes; a new
reading of the schema gives a new set over the same keywords.
-/

import SqlAssist.Candidates.View
import SqlAssist.Error.Argument

namespace SqlAssist

/-- Keywords and schema names with their sorted views. No candidate is empty. -/
structure CandidateSet where
  keywords : NameSet
  schemaNames : NameSet
  /-- Keywords and schema names together. -/
  all : View
  /-- Schema names only. -/
  schemaOnly : View
  all_eq : all = View.ofNames (keywords ∪ schemaNames)
  schemaOnly_eq : schemaOnly = View.ofNames schemaNames
  keywords_nonEmpty : "" ∉ keywords
  schemaNames_nonEmpty : "" ∉ schemaNames

namespace CandidateSet

/-- Merge keywords and schema names. An empty keyword is reported before an empty schema name. -/
def build (keywords schemaNames : NameSet) : Except ArgumentError CandidateSet :=
  if hk : "" ∈ keywords then .error .emptyKeyword
  else if hs : "" ∈ schemaNames then .error .emptySchemaName
  else .ok
    { keywords, schemaNames
      all := View.ofNames (keywords ∪ schemaNames)
      schemaOnly := View.ofNames schemaNames
      all_eq := rfl
      schemaOnly_eq := rfl
      keywords_nonEmpty := hk
      schemaNames_nonEmpty := hs }

/-- Replace the schema names and keep the keywords. -/
def refreshSchema (set : CandidateSet) (schemaNames : NameSet) :
    Except ArgumentError CandidateSet :=
  build set.keywords schemaNames

/-- The number of candidates. -/
def size (set : CandidateSet) : Nat :=
  set.all.size

/-- Whether there is nothing to offer. -/
def isEmpty (set : CandidateSet) : Bool :=
  set.size == 0

end CandidateSet

end SqlAssist
