/-
# Counting rows up to a limit

Rows are taken from a stream one by one. Counting stops at the first row beyond the limit, which
is read but not counted, at the first failing row, or at the end.
-/

namespace SqlAssist

universe u v
variable {ε : Type u} {α : Type v}

/-- How many rows were counted, and whether there were more. -/
structure RowCount where
  count : Nat
  truncated : Bool
  deriving DecidableEq, Repr

/-- The result of counting, and how many rows were taken from the stream for it. -/
structure Counted (ε : Type u) where
  result : Except ε RowCount
  read : Nat

/-- Go on counting when `count` rows have been counted. -/
def countFrom (limit count : Nat) : List (Except ε α) → Counted ε
  | [] => ⟨.ok ⟨count, false⟩, count⟩
  | .error cause :: _ => ⟨.error cause, count + 1⟩
  | .ok _ :: rest =>
    if count = limit then ⟨.ok ⟨count, true⟩, count + 1⟩
    else countFrom limit (count + 1) rest

/-- Count the rows of a stream, `limit` at most. -/
def countCapped (limit : Nat) (rows : List (Except ε α)) : Counted ε :=
  countFrom limit 0 rows

/-- A piece of a row stream: some good rows, or one failing row. -/
inductive RowRun (ε : Type u) where
  | good (count : Nat)
  | failing (cause : ε)
  deriving DecidableEq, Repr

/-- The first rows of a stream, `limit` at most. -/
def RowRun.rows : (limit : Nat) → List (RowRun ε) → List (Except ε Unit)
  | _, [] => []
  | limit, .good count :: rest =>
    let taken := min count limit
    List.replicate taken (.ok ()) ++ rows (limit - taken) rest
  | 0, .failing _ :: _ => []
  | limit + 1, .failing cause :: rest => .error cause :: rows limit rest

end SqlAssist
