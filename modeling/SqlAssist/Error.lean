/-
# Errors

Everything a call of the library can fail with, and the text a reader is shown.
-/

import SqlAssist.Config
import SqlAssist.Error.Argument
import SqlAssist.Error.Metadata

namespace SqlAssist

/-- Why a call failed. -/
inductive Error where
  | invalidArgument (cause : ArgumentError)
  /-- No candidate set has been built since the last connect or disconnect. -/
  | notReady
  | metadata (cause : MetadataError)
  | database (cause : DatabaseError)
  /-- The statement was cancelled while it ran. -/
  | cancelled
  | config (cause : ConfigError)
  deriving DecidableEq, Repr

/-- What a reader is told. -/
def Error.message : Error → String
  | invalidArgument cause => "Invalid argument: " ++ cause.message
  | notReady => "Completion engine not ready: no candidate set has been built"
  | metadata cause => "Metadata error: " ++ cause.message
  | database cause => "Database error: " ++ cause.message
  | cancelled => "Statement cancelled"
  | config cause => "Configuration error: " ++ cause.message

end SqlAssist
