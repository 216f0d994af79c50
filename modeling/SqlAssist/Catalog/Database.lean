/-
# The catalog tree

A database holds schemas, a schema holds tables and a table holds columns. Schemas and tables
are kept under a key; the operations here always use the name as the key, but a schema that is
handed over whole keeps the keys it came with.
-/

import Std.Data.ExtTreeMap
import SqlAssist.NameSet

namespace SqlAssist

/-- A table and its columns. -/
structure Table where
  name : String
  columns : NameSet := ∅
  deriving DecidableEq

/-- A schema and its tables, by key. -/
structure Schema where
  name : String
  tables : Std.ExtTreeMap String Table := ∅

/-- A database and its schemas, by key. -/
structure Database where
  name : String
  schemas : Std.ExtTreeMap String Schema := ∅

namespace Table

/-- Add a column; the others stay. -/
def insertColumn (table : Table) (column : String) : Table :=
  { table with columns := table.columns.insert column }

end Table

namespace Schema

/-- Store a table under a key. -/
def insertAt (schema : Schema) (key : String) (table : Table) : Schema :=
  { schema with tables := schema.tables.insert key table }

/-- Store a table under its name, in place of a table of that name. -/
def insertTable (schema : Schema) (table : Table) : Schema :=
  schema.insertAt table.name table

/-- Add a column to a table, which is created if it is missing. -/
def insertColumn (schema : Schema) (table column : String) : Schema :=
  schema.insertAt table ((schema.tables[table]?.getD ⟨table, ∅⟩).insertColumn column)

/-- Remove the table under a key. -/
def eraseTable (schema : Schema) (key : String) : Schema :=
  { schema with tables := schema.tables.erase key }

/-- The schema of these tables, each under its key. -/
def ofTables (name : String) (tables : List (String × Table)) : Schema :=
  tables.foldl (fun schema entry => schema.insertAt entry.1 entry.2) ⟨name, ∅⟩

end Schema

namespace Database

/-- Change one schema, which is created if it is missing. -/
def updateSchema (database : Database) (name : String) (change : Schema → Schema) : Database :=
  { database with
    schemas := database.schemas.insert name (change (database.schemas[name]?.getD ⟨name, ∅⟩)) }

/-- Add a column; its schema and table are created if they are missing. -/
def insertColumn (database : Database) (schema table column : String) : Database :=
  database.updateSchema schema (·.insertColumn table column)

/-- Put a table into a schema, which is created if it is missing. A table of that name is
replaced with all its columns. -/
def insertTable (database : Database) (schema : String) (table : Table) : Database :=
  database.updateSchema schema (·.insertTable table)

/-- Put a whole schema in place of any schema of its name. -/
def insertSchema (database : Database) (schema : Schema) : Database :=
  { database with schemas := database.schemas.insert schema.name schema }

/-- Remove a table and return it. The schema stays, even without tables. -/
def dropTable (database : Database) (schema table : String) : Option Table × Database :=
  match database.schemas[schema]? with
  | none => (none, database)
  | some found =>
    match found.tables[table]? with
    | none => (none, database)
    | some dropped =>
      (some dropped,
        { database with schemas := database.schemas.insert schema (found.eraseTable table) })

/-- All tables of all schemas. -/
def tables (database : Database) : List Table :=
  database.schemas.values.flatMap (·.tables.values)

/-- The names of the database, its schemas, tables and columns as one set, without the empty
name. Names are taken from the objects, not from the keys they are stored under. -/
def objectNames (database : Database) : NameSet :=
  NameSet.ofNonEmpty
    (database.name :: database.schemas.values.map (·.name) ++
      database.tables.map (·.name) ++ database.tables.flatMap (·.columns.toList))

/-- The tree of a database's rows: every table row first, then every column row. -/
def ofRows (name : String) (tables : List (String × String))
    (columns : List (String × String × String)) : Database :=
  let withTables := tables.foldl
    (fun database row => database.insertTable row.1 ⟨row.2, ∅⟩) ⟨name, ∅⟩
  columns.foldl (fun database row => database.insertColumn row.1 row.2.1 row.2.2) withTables

/-- A whole database is never offered with an empty name in it. -/
theorem empty_notMem_objectNames (database : Database) : "" ∉ database.objectNames := by
  simp [objectNames]

end Database

end SqlAssist
