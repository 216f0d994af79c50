/-
# Refused arguments

The causes for which a call is refused before it does any work, and their wording.
-/

import SqlAssist.Text.Quoted

namespace SqlAssist

/-- Why an argument is refused. -/
inductive ArgumentError where
  /-- The cursor lies beyond a buffer of `size` bytes. -/
  | cursorPastEnd (cursor size : Nat)
  /-- The cursor lies between two bytes of one character. -/
  | cursorInsideCharacter (cursor : Nat)
  /-- A keyword is the empty text. -/
  | emptyKeyword
  /-- A schema name is the empty text. -/
  | emptySchemaName
  /-- No database is known by this scheme of a connection address. -/
  | unsupportedScheme (scheme : String)
  deriving DecidableEq, Repr

/-- What a reader is told. -/
def ArgumentError.message : ArgumentError → String
  | cursorPastEnd cursor size =>
    "cursor " ++ toString cursor ++ " is past the end of a " ++ toString size ++ " byte buffer"
  | cursorInsideCharacter cursor =>
    "cursor " ++ toString cursor ++ " is not on a character boundary"
  | emptyKeyword => "keywords contain an empty string"
  | emptySchemaName => "schema names contain an empty string"
  | unsupportedScheme scheme => "unsupported database url scheme " ++ Text.quoted scheme

end SqlAssist
