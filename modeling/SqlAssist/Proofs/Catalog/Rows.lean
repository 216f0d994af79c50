/-
# The catalog of rows

A catalog is read off two lists of rows: pairs of schema and table, and triples of schema, table and
column. Inserting a table replaces a table of its name with all its columns, while inserting a
column adds to what is there. All tables are inserted before the first column, so no column is lost,
and every insertion finds the schema and the table it creates or extends under their own names. What
the catalog holds in the end is said of the members of the two lists, so it does not change if rows
are reordered or repeated.
-/

import SqlAssist.Proofs.Catalog.Database

namespace SqlAssist

/-- Two partial values are equal if they are there together and agree then. -/
theorem option_eq_of_agree {α : Type} {first second : Option α}
    (together : (∃ value, first = some value) ↔ ∃ value, second = some value)
    (agree : ∀ value value', first = some value → second = some value' → value = value') :
    first = second := by
  cases first with
  | none =>
      cases second with
      | none => rfl
      | some value' => simp at together
  | some value =>
      obtain ⟨value', there⟩ := together.mp ⟨value, rfl⟩
      rw [there, agree value value' rfl there]

theorem Table.eq_of_columns {first second : Table} (sameName : first.name = second.name)
    (sameColumns : ∀ column, column ∈ first.columns ↔ column ∈ second.columns) :
    first = second := by
  obtain ⟨name, columns⟩ := first
  obtain ⟨name', columns'⟩ := second
  cases sameName
  have same : columns = columns' := Std.ExtTreeSet.ext_mem sameColumns
  rw [same]

namespace Database

variable {database : Database} {name : String} {tables tables' : List (String × String)}
  {columns columns' : List (String × String × String)}

/-! ## Schemas under their names -/

section UpdateSchema

variable {schema : String} {change : Schema → Schema}
  (keeps : ∀ found, (change found).name = found.name)
include keeps

theorem exists_schemaName?_updateSchema {key : String} :
    (∃ stored, (database.updateSchema schema change).schemaName? key = some stored) ↔
      schema = key ∨ ∃ stored, database.schemaName? key = some stored := by
  rw [schemaName?_updateSchema database schema keeps]
  by_cases same : schema = key
  · simp only [same, if_true, Option.some.injEq, exists_eq', true_or]
  · simp only [same, if_false, false_or]

/-- A schema that is changed, or created for the change, stays under its name. -/
theorem schemaName?_updateSchema_eq_key
    (keyed : ∀ key stored, database.schemaName? key = some stored → stored = key)
    (key stored : String)
    (found : (database.updateSchema schema change).schemaName? key = some stored) :
    stored = key := by
  rw [schemaName?_updateSchema database schema keeps] at found
  by_cases same : schema = key
  · rw [if_pos same, Option.some.injEq] at found
    cases before : database.schemaName? key with
    | none =>
        rw [before] at found
        exact found.symm
    | some old =>
        rw [before] at found
        exact found.symm.trans (keyed key old before)
  · rw [if_neg same] at found
    exact keyed key stored found

end UpdateSchema

/-! ## Catalogs that mirror rows -/

/-- A catalog holds what the rows name and nothing else, each thing under its own name. -/
structure Mirrors (database : Database) (name : String) (tables : List (String × String))
    (columns : List (String × String × String)) : Prop where
  name_eq : database.name = name
  /-- There is a schema for every row. -/
  schema_iff : ∀ key, (∃ stored, database.schemaName? key = some stored) ↔
    (∃ table, (key, table) ∈ tables) ∨ ∃ table column, (key, table, column) ∈ columns
  schema_key : ∀ key stored, database.schemaName? key = some stored → stored = key
  /-- There is a table for every row, of either list. -/
  table_iff : ∀ schema key, (∃ table, database.table? schema key = some table) ↔
    (schema, key) ∈ tables ∨ ∃ column, (schema, key, column) ∈ columns
  table_key : ∀ schema key table, database.table? schema key = some table → table.name = key
  column_iff : ∀ schema key table, database.table? schema key = some table →
    ∀ column, column ∈ table.columns ↔ (schema, key, column) ∈ columns

/-- Order and repeats of the rows have no say. -/
theorem Mirrors.congr (mirrors : database.Mirrors name tables columns)
    (sameTables : ∀ row, row ∈ tables' ↔ row ∈ tables)
    (sameColumns : ∀ row, row ∈ columns' ↔ row ∈ columns) :
    database.Mirrors name tables' columns' where
  name_eq := mirrors.name_eq
  schema_iff := by simpa only [sameTables, sameColumns] using mirrors.schema_iff
  schema_key := mirrors.schema_key
  table_iff := by simpa only [sameTables, sameColumns] using mirrors.table_iff
  table_key := mirrors.table_key
  column_iff := by simpa only [sameColumns] using mirrors.column_iff

/-- Only one catalog mirrors the rows. -/
theorem Mirrors.unique {other : Database} (mirrors : database.Mirrors name tables columns)
    (mirrors' : other.Mirrors name tables columns) : database = other := by
  apply eq_of_places
  · rw [mirrors.name_eq, mirrors'.name_eq]
  · intro key
    apply option_eq_of_agree ((mirrors.schema_iff key).trans (mirrors'.schema_iff key).symm)
    intro stored stored' found found'
    rw [mirrors.schema_key key stored found, mirrors'.schema_key key stored' found']
  · intro schema key
    apply option_eq_of_agree
      ((mirrors.table_iff schema key).trans (mirrors'.table_iff schema key).symm)
    intro table table' found found'
    apply Table.eq_of_columns
    · rw [mirrors.table_key schema key table found, mirrors'.table_key schema key table' found']
    · intro column
      rw [mirrors.column_iff schema key table found, mirrors'.column_iff schema key table' found']

/-! ## Insertion row by row -/

theorem mirrors_nil (name : String) : (⟨name, ∅⟩ : Database).Mirrors name [] [] where
  name_eq := rfl
  schema_iff := by simp [schemaName?]
  schema_key := by simp [schemaName?]
  table_iff := by simp [table?]
  table_key := by simp [table?]
  column_iff := by simp [table?]

/-- A table row adds its table. There is no column yet that the table could replace. -/
theorem Mirrors.insertTable (mirrors : database.Mirrors name tables [])
    (schema table : String) :
    (database.insertTable schema ⟨table, ∅⟩).Mirrors name (tables ++ [(schema, table)]) [] where
  name_eq := mirrors.name_eq
  schema_iff key := by
    rw [Database.insertTable, exists_schemaName?_updateSchema, mirrors.schema_iff]
    · grind
    · exact fun _ => rfl
  schema_key := schemaName?_updateSchema_eq_key (fun _ => rfl) mirrors.schema_key
  table_iff schema₁ key := by
    have before := mirrors.table_iff schema₁ key
    rw [table?_insertTable]
    by_cases place : schema = schema₁ ∧ table = key
    · simp [place]
    · rw [if_neg place, before]
      grind
  table_key schema₁ key found stored := by
    rw [table?_insertTable] at stored
    by_cases place : schema = schema₁ ∧ table = key
    · rw [if_pos place, Option.some.injEq] at stored
      rw [← stored, ← place.2]
    · rw [if_neg place] at stored
      exact mirrors.table_key schema₁ key found stored
  column_iff schema₁ key found stored column := by
    rw [table?_insertTable] at stored
    by_cases place : schema = schema₁ ∧ table = key
    -- The new table has no columns, and there are no column rows yet.
    · rw [if_pos place, Option.some.injEq] at stored
      simp [← stored]
    · rw [if_neg place] at stored
      exact mirrors.column_iff schema₁ key found stored column

/-- What a column row finds in place of its table: the table, or an empty one of its name. -/
theorem Mirrors.getD_table? (mirrors : database.Mirrors name tables columns)
    (schema key : String) :
    ((database.table? schema key).getD ⟨key, ∅⟩).name = key ∧
      ∀ column, column ∈ ((database.table? schema key).getD ⟨key, ∅⟩).columns ↔
        (schema, key, column) ∈ columns := by
  cases stored : database.table? schema key with
  | some table =>
      exact ⟨mirrors.table_key schema key table stored, mirrors.column_iff schema key table stored⟩
  | none =>
      -- A column row would have created the table.
      have noRow : ∀ column, (schema, key, column) ∉ columns := by
        intro column row
        obtain ⟨table, found⟩ := (mirrors.table_iff schema key).mpr (.inr ⟨column, row⟩)
        cases stored.symm.trans found
      simp [noRow]

/-- A column row adds its column and keeps the others. -/
theorem Mirrors.insertColumn (mirrors : database.Mirrors name tables columns)
    (schema table column : String) :
    (database.insertColumn schema table column).Mirrors name tables
      (columns ++ [(schema, table, column)]) where
  name_eq := mirrors.name_eq
  schema_iff key := by
    rw [Database.insertColumn, exists_schemaName?_updateSchema, mirrors.schema_iff]
    · grind
    · exact fun _ => rfl
  schema_key := schemaName?_updateSchema_eq_key (fun _ => rfl) mirrors.schema_key
  table_iff schema₁ key := by
    have before := mirrors.table_iff schema₁ key
    rw [table?_insertColumn]
    by_cases place : schema = schema₁ ∧ table = key
    · simp [place]
    · rw [if_neg place, before]
      grind
  table_key schema₁ key found stored := by
    rw [table?_insertColumn] at stored
    by_cases place : schema = schema₁ ∧ table = key
    · rw [if_pos place, Option.some.injEq] at stored
      rw [← stored]
      exact (mirrors.getD_table? schema₁ key).1
    · rw [if_neg place] at stored
      exact mirrors.table_key schema₁ key found stored
  column_iff schema₁ key found stored column₁ := by
    rw [table?_insertColumn] at stored
    by_cases place : schema = schema₁ ∧ table = key
    · rw [if_pos place, Option.some.injEq] at stored
      have held := (mirrors.getD_table? schema₁ key).2 column₁
      rw [← stored, Table.insertColumn, Std.ExtTreeSet.mem_insert, held,
        Std.LawfulEqCmp.compare_eq_iff_eq]
      simp [place, or_comm, eq_comm]
    · rw [if_neg place] at stored
      have before := mirrors.column_iff schema₁ key found stored column₁
      grind

theorem Mirrors.insertTables (rows : List (String × String))
    (mirrors : database.Mirrors name tables []) :
    (rows.foldl (fun database row => database.insertTable row.1 ⟨row.2, ∅⟩) database).Mirrors name
      (tables ++ rows) [] := by
  induction rows generalizing database tables with
  | nil => rwa [List.append_nil]
  | cons row rows ih =>
      have rest := ih (mirrors.insertTable row.1 row.2)
      rwa [List.append_assoc] at rest

theorem Mirrors.insertColumns (rows : List (String × String × String))
    (mirrors : database.Mirrors name tables columns) :
    (rows.foldl (fun database row => database.insertColumn row.1 row.2.1 row.2.2) database).Mirrors
      name tables (columns ++ rows) := by
  induction rows generalizing database columns with
  | nil => rwa [List.append_nil]
  | cons row rows ih =>
      have rest := ih (mirrors.insertColumn row.1 row.2.1 row.2.2)
      rwa [List.append_assoc] at rest

/-- The catalog of rows holds what the rows name. -/
theorem mirrors_ofRows (name : String) (tables : List (String × String))
    (columns : List (String × String × String)) :
    (ofRows name tables columns).Mirrors name tables columns :=
  ((mirrors_nil name).insertTables tables).insertColumns columns

/-! ## Names -/

theorem Mirrors.exists_schemaName?_iff (mirrors : database.Mirrors name tables columns)
    {word : String} :
    (∃ key, database.schemaName? key = some word) ↔
      (∃ table, (word, table) ∈ tables) ∨ ∃ table column, (word, table, column) ∈ columns := by
  rw [← mirrors.schema_iff]
  constructor
  · rintro ⟨key, found⟩
    cases mirrors.schema_key key word found
    exact ⟨_, found⟩
  · rintro ⟨stored, found⟩
    cases mirrors.schema_key word stored found
    exact ⟨_, found⟩

theorem Mirrors.exists_table?_iff (mirrors : database.Mirrors name tables columns)
    {word : String} :
    (∃ schema key table, database.table? schema key = some table ∧
      (word = table.name ∨ word ∈ table.columns)) ↔
      (∃ schema, (schema, word) ∈ tables ∨ ∃ column, (schema, word, column) ∈ columns) ∨
        ∃ schema key, (schema, key, word) ∈ columns := by
  constructor
  · rintro ⟨schema, key, table, stored, rfl | inside⟩
    · rw [mirrors.table_key schema key table stored]
      exact .inl ⟨schema, (mirrors.table_iff schema key).mp ⟨table, stored⟩⟩
    · exact .inr ⟨schema, key, (mirrors.column_iff schema key table stored word).mp inside⟩
  · rintro (⟨schema, listed⟩ | ⟨schema, key, row⟩)
    · obtain ⟨table, stored⟩ := (mirrors.table_iff schema word).mpr listed
      exact ⟨schema, word, table, stored, .inl (mirrors.table_key schema word table stored).symm⟩
    · obtain ⟨table, stored⟩ := (mirrors.table_iff schema key).mpr (.inr ⟨word, row⟩)
      exact ⟨schema, key, table, stored,
        .inr ((mirrors.column_iff schema key table stored word).mpr row)⟩

/-- What is offered for a catalog of rows are the texts in the rows and the name, the empty text
left out. -/
theorem Mirrors.mem_objectNames_iff (mirrors : database.Mirrors name tables columns)
    {word : String} :
    word ∈ database.objectNames ↔ word ≠ "" ∧
      (word = name ∨ (∃ row ∈ tables, word = row.1 ∨ word = row.2) ∨
        ∃ row ∈ columns, word = row.1 ∨ word = row.2.1 ∨ word = row.2.2) := by
  rw [Database.mem_objectNames_iff, and_comm, mirrors.name_eq, mirrors.exists_schemaName?_iff,
    mirrors.exists_table?_iff]
  grind

end Database

end SqlAssist
