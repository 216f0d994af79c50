/-
# A scripted database server

Reading the schema takes four queries. A scripted server has the rows of each and may refuse any
of them; it returns all its rows whatever schema is asked for. Cells are texts or NULL.
-/

import SqlAssist.Dialect
import SqlAssist.Error.Database

namespace SqlAssist

/-- The queries that read the schema. -/
inductive MetadataQuery where
  /-- The name of the current database. -/
  | database
  | tables
  | columns
  /-- The keywords the server knows. -/
  | keywords
  deriving DecidableEq, Repr

/-- A query that was sent, with the arguments bound to it. -/
structure ExecutedQuery where
  query : MetadataQuery
  arguments : List (Option String)
  deriving DecidableEq, Repr

/-- A cell of a row; `none` is NULL. -/
abbrev Cell := Option String

/-- What a server answers to the queries. -/
structure Server where
  database : Cell := none
  /-- Rows of schema and table. -/
  tables : List (Cell × Cell) := []
  /-- Rows of schema, table and column. -/
  columns : List (Cell × Cell × Cell) := []
  keywords : List Cell := []
  /-- Queries that are refused, with the text of the error. -/
  refused : List (MetadataQuery × String) := []

namespace Server

/-- An error as a server of this dialect reports it. -/
def errorOf (dialect : Dialect) (text : String) : DatabaseError :=
  match dialect with
  | .postgres => .reported none text
  | .mysql => .reported (some ⟨1064, "42000"⟩) text

/-- The error a query is refused with, if it is. -/
def refusal? (server : Server) (query : MetadataQuery) : Option String :=
  server.refused.lookup query

end Server

end SqlAssist
