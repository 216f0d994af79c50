/-
# Words of a statement

A word is a run of letters, digits and underscores of any script. Quoting is not looked at: a
quoted name is a word between two other characters.
-/

import SqlAssist.Text.Alphanumeric
import SqlAssist.Text.WhiteSpace

namespace SqlAssist.Sql

/-- Characters that words are made of. -/
def isIdentChar (c : Char) : Bool :=
  c == '_' || Text.isAlphanumeric c

end SqlAssist.Sql
