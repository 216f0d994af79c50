/-
# Sets of names

Keywords and names of schema objects are sets of texts, ordered by code point. Two sets with the
same members are equal.
-/

import Std.Data.ExtTreeSet

namespace SqlAssist

/-- A finite set of texts. -/
abbrev NameSet := Std.ExtTreeSet String

namespace NameSet

/-- The set of the texts in a list; order and repetition are forgotten. -/
def ofList (names : List String) : NameSet :=
  Std.ExtTreeSet.ofList names compare

/-- The members of a list that are not empty. -/
def ofNonEmpty (names : List String) : NameSet :=
  ofList (names.filter (· != ""))

@[simp]
theorem mem_ofList {names : List String} {name : String} :
    name ∈ ofList names ↔ name ∈ names := by
  simp [ofList, Std.ExtTreeSet.mem_ofList]

@[simp]
theorem mem_ofNonEmpty {names : List String} {name : String} :
    name ∈ ofNonEmpty names ↔ name ∈ names ∧ name ≠ "" := by
  simp [ofNonEmpty]

theorem mem_insert_iff {names : NameSet} {name key : String} :
    key ∈ names.insert name ↔ name = key ∨ key ∈ names := by
  rw [Std.ExtTreeSet.mem_insert, Std.LawfulEqCmp.compare_eq_iff_eq]

end NameSet

end SqlAssist
