/-
# Database dialects

The scheme of a connection address picks the database. The scheme is what stands before the
first `://`; ASCII case does not matter.
-/

import SqlAssist.Error.Argument

namespace SqlAssist

/-- Databases a session can be opened on. -/
inductive Dialect where
  | postgres
  | mysql
  deriving DecidableEq, Repr

namespace Dialect

/-- What stands before the first occurrence of `mark`, if it occurs. -/
def before? (mark : List Char) : List Char → Option (List Char)
  | [] => if mark.isEmpty then some [] else none
  | c :: rest =>
    if mark.isPrefixOf (c :: rest) then some []
    else (before? mark rest).map (c :: ·)

/-- The scheme of an address, empty if it has none. -/
def schemeOf (url : String) : String :=
  String.ofList ((before? [':', '/', '/'] url.toList).getD [])

/-- The database an address is meant for. -/
def ofUrl (url : String) : Except ArgumentError Dialect :=
  let scheme := schemeOf url
  let lowered := String.ofList (scheme.toList.map Char.toLower)
  if lowered = "postgres" ∨ lowered = "postgresql" then .ok postgres
  else if lowered = "mysql" then .ok mysql
  else .error (.unsupportedScheme scheme)

end Dialect

end SqlAssist
