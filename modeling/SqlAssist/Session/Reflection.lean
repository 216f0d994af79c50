/-
# Reading the schema of a server

The names of a database are read with three queries, one after another: its own name, its
tables, its columns. All rows of a query are read before any is used, and the first bad cell
ends the reading. The dialects differ in the shape of their rows, in how often the schema filter
is bound, and in what a database without a name means.
-/

import SqlAssist.Catalog.Database
import SqlAssist.Error.Metadata
import SqlAssist.Session.ConnectionPool
import SqlAssist.Session.Server

namespace SqlAssist

/-- A way to read the schema of a server. -/
structure Reflection where
  dialect : Dialect
  /-- The one schema to read, or all. -/
  schema : Option String := none
  /-- The pool whose connections carry the queries. -/
  pool : ConnectionPool := {}
  deriving DecidableEq, Repr

namespace Reflection

/-- A reading that records the queries it sends and may fail between them. -/
abbrev Reading := ExceptT MetadataError (StateM (List ExecutedQuery))

/-- The text in a cell that must hold one. -/
def readCell (column : Nat) : Cell → Except DatabaseError String
  | some text => .ok text
  | none => .error (.unexpectedNull column)

/-- The name of the current database. Only one dialect has sessions without a database. -/
def readName (dialect : Dialect) (cell : Cell) : Except DatabaseError String :=
  match dialect with
  | .postgres => readCell 0 cell
  | .mysql => .ok (cell.getD "")

/-- Schema and table of a table row. One dialect puts the database in front. -/
def readTable (dialect : Dialect) (database : Cell) (row : Cell × Cell) :
    Except DatabaseError (String × String) :=
  match dialect with
  | .postgres => do
    let _ ← readCell 0 database
    let schema ← readCell 1 row.1
    let table ← readCell 2 row.2
    return (schema, table)
  | .mysql => do
    let schema ← readCell 0 row.1
    let table ← readCell 1 row.2
    return (schema, table)

/-- Schema, table and column of a column row. -/
def readColumn (row : Cell × Cell × Cell) : Except DatabaseError (String × String × String) := do
  let schema ← readCell 0 row.1
  let table ← readCell 1 row.2.1
  let column ← readCell 2 row.2.2
  return (schema, table, column)

/-- The schema filter as it is bound to a query. -/
def schemaArguments (source : Reflection) : List (Option String) :=
  match source.dialect with
  | .postgres => [source.schema]
  | .mysql => [source.schema, source.schema]

/-- The arguments of a query. -/
def arguments (source : Reflection) : MetadataQuery → List (Option String)
  | .database | .keywords => []
  | .tables | .columns => source.schemaArguments

/-- Send a query and use its rows, unless the server refuses it. -/
def ask {α : Type} (source : Reflection) (server : Server) (query : MetadataQuery)
    (rows : Except DatabaseError α) : Reading α := do
  modify (· ++ [⟨query, source.arguments query⟩])
  match server.refusal? query, rows with
  | some text, _ => throw (.query (Server.errorOf source.dialect text))
  | none, .error cause => throw (.query cause)
  | none, .ok value => return value

/-- Read the catalog tree of a server. -/
def fetchDatabase (source : Reflection) (server : Server) : Reading Database := do
  if source.pool.closed then throw .closed
  let name ← source.ask server .database (readName source.dialect server.database)
  let tables ← source.ask server .tables
    (server.tables.mapM (readTable source.dialect server.database))
  let columns ← source.ask server .columns (server.columns.mapM readColumn)
  return Database.ofRows name tables columns

/-- Read the names of a server's schema objects. -/
def fetchNames (source : Reflection) (server : Server) : Reading NameSet := do
  let database ← source.fetchDatabase server
  return database.objectNames

/-- Read the keywords of a server. -/
def fetchKeywords (source : Reflection) (server : Server) : Reading NameSet := do
  if source.pool.closed then throw .closed
  let words ← source.ask server .keywords (server.keywords.mapM (readCell 0))
  return NameSet.ofList words

/-- Carry out a reading: its answer and the queries it sent. -/
def perform {α : Type} (reading : Reading α) : Except MetadataError α × List ExecutedQuery :=
  (ExceptT.run reading).run []

end Reflection

end SqlAssist
