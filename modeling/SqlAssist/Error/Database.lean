/-
# Failures of the database

What can go wrong between a statement and its answer, as the database or the connection pool
reports it.
-/

namespace SqlAssist

/-- The number and the five-character state some servers attach to an error. -/
structure ErrorCode where
  number : Nat
  state : String
  deriving DecidableEq, Repr

/-- A failure of the database or of the way to it. -/
inductive DatabaseError where
  /-- The server answered with an error. -/
  | reported (code : Option ErrorCode) (text : String)
  /-- A cell that must hold a text was NULL; columns count from zero. -/
  | unexpectedNull (column : Nat)
  /-- The connection pool was closed before. -/
  | poolClosed
  /-- No connection became free while the pool was willing to wait. -/
  | poolTimedOut
  /-- A query that must return a row returned none. -/
  | noRows
  deriving DecidableEq, Repr

/-- What a reader is told. -/
def DatabaseError.message : DatabaseError → String
  | reported none text => "error returned from database: " ++ text
  | reported (some code) text =>
    "error returned from database: " ++ toString code.number ++ " (" ++ code.state ++ "): " ++ text
  | unexpectedNull column =>
    "error occurred while decoding column " ++ toString column ++
      ": unexpected null; try decoding as an `Option`"
  | poolClosed => "attempted to acquire a connection on a closed pool"
  | poolTimedOut => "pool timed out while waiting for an open connection"
  | noRows => "no rows returned by a query that expected to return at least one row"

end SqlAssist
