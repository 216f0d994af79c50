/-
# Failures to read the schema

Reading names or keywords from a connected database can fail because the connection is gone,
because a query fails, or because no answer came in time.
-/

import SqlAssist.Duration
import SqlAssist.Error.Database

namespace SqlAssist

/-- Why a fetch of names or keywords gave no answer. -/
inductive MetadataError where
  | closed
  | query (cause : DatabaseError)
  /-- No answer came within the limit. -/
  | timeout (limit : Duration)
  deriving DecidableEq, Repr

/-- What a reader is told. -/
def MetadataError.message : MetadataError → String
  | closed => "connection is closed"
  | query cause => "introspection query failed: " ++ cause.message
  | timeout limit => "metadata fetch timed out after " ++ limit.render

end SqlAssist
