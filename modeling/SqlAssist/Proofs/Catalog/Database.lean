/-
# Where a catalog keeps its names

A catalog is seen here as two partial functions: the name of the schema under a key, and the
table under a pair of keys. What is offered for completion is read off these two, and inserting
or dropping a table changes them at one place.
-/

import SqlAssist.Catalog.Database

namespace SqlAssist

/-- The values of a map are what its keys are mapped to. -/
theorem mem_values_iff {α β : Type} {cmp : α → α → Ordering} [Std.TransCmp cmp]
    [Std.LawfulEqCmp cmp] {map : Std.ExtTreeMap α β cmp} {value : β} :
    value ∈ map.values ↔ ∃ key : α, map[key]? = some value := by
  have listed : map.values = map.toList.map (·.2) := by
    obtain ⟨⟨classes⟩⟩ := map
    induction classes using Quotient.inductionOn with
    | h tree =>
        show tree.inner.values = (Std.DTreeMap.Internal.Impl.Const.toList tree.inner).map (·.2)
        rw [Std.DTreeMap.Internal.Impl.values_eq_map_snd,
          Std.DTreeMap.Internal.Impl.Const.toList_eq_toListModel_map]
        simp
  rw [listed, List.mem_map]
  constructor
  · rintro ⟨⟨key, found⟩, member, rfl⟩
    exact ⟨key, Std.ExtTreeMap.mem_toList_iff_getElem?_eq_some.mp member⟩
  · rintro ⟨key, found⟩
    exact ⟨(key, value), Std.ExtTreeMap.mem_toList_iff_getElem?_eq_some.mpr found, rfl⟩

namespace Database

variable {database : Database} {schema key name : String} {table : Table}

/-- The name of the schema under a key. -/
def schemaName? (database : Database) (key : String) : Option String :=
  database.schemas[key]?.map (·.name)

/-- The table under a key of a schema. -/
def table? (database : Database) (schema key : String) : Option Table :=
  database.schemas[schema]?.bind (·.tables[key]?)

/-- The two functions and the name tell catalogs apart. -/
theorem eq_of_places {first second : Database} (sameName : first.name = second.name)
    (sameSchemas : ∀ key, first.schemaName? key = second.schemaName? key)
    (sameTables : ∀ schema key, first.table? schema key = second.table? schema key) :
    first = second := by
  obtain ⟨name, schemas⟩ := first
  obtain ⟨name', schemas'⟩ := second
  have same : schemas = schemas' := by
    apply Std.ExtTreeMap.ext_getElem?
    intro key
    have named : schemas[key]?.map (·.name) = schemas'[key]?.map (·.name) := sameSchemas key
    have held : ∀ table : String, schemas[key]?.bind (·.tables[table]?) =
        schemas'[key]?.bind (·.tables[table]?) := sameTables key
    cases stored : schemas[key]? with
    | none =>
        rw [stored] at named
        exact (Option.map_eq_none_iff.mp named.symm).symm
    | some found =>
        rw [stored] at named held
        obtain ⟨other, stored', sameName⟩ := Option.map_eq_some_iff.mp named.symm
        rw [stored'] at held ⊢
        obtain ⟨ownName, tables⟩ := found
        obtain ⟨otherName, tables'⟩ := other
        cases sameName
        have equal : tables = tables' := Std.ExtTreeMap.ext_getElem? held
        rw [equal]
  cases sameName
  rw [same]

/-! ## What is offered -/

theorem mem_tables_iff :
    table ∈ database.tables ↔ ∃ schema key, database.table? schema key = some table := by
  simp only [tables, table?, List.mem_flatMap, mem_values_iff, Option.bind_eq_some_iff]
  constructor
  · rintro ⟨found, ⟨schema, stored⟩, key, same⟩
    exact ⟨schema, key, found, stored, same⟩
  · rintro ⟨schema, key, found, stored, same⟩
    exact ⟨found, ⟨schema, stored⟩, key, same⟩

/-- A name is offered for the database, a schema, a table or a column, unless it is empty. -/
theorem mem_objectNames_iff :
    name ∈ database.objectNames ↔
      (name = database.name ∨ (∃ key, database.schemaName? key = some name) ∨
        ∃ schema key table, database.table? schema key = some table ∧
          (name = table.name ∨ name ∈ table.columns)) ∧ name ≠ "" := by
  have schemas : (∃ found ∈ database.schemas.values, found.name = name) ↔
      ∃ key, database.schemaName? key = some name := by
    simp only [mem_values_iff, schemaName?, Option.map_eq_some_iff]
    constructor
    · rintro ⟨found, ⟨key, stored⟩, same⟩
      exact ⟨key, found, stored, same⟩
    · rintro ⟨key, found, stored, same⟩
      exact ⟨found, ⟨key, stored⟩, same⟩
  have tables : ((∃ found ∈ database.tables, found.name = name) ∨
      ∃ found ∈ database.tables, name ∈ found.columns) ↔
      ∃ schema key table, database.table? schema key = some table ∧
        (name = table.name ∨ name ∈ table.columns) := by
    simp only [mem_tables_iff]
    constructor
    · rintro (⟨found, ⟨schema, key, stored⟩, rfl⟩ | ⟨found, ⟨schema, key, stored⟩, column⟩)
      · exact ⟨schema, key, found, stored, .inl rfl⟩
      · exact ⟨schema, key, found, stored, .inr column⟩
    · rintro ⟨schema, key, found, stored, rfl | column⟩
      · exact .inl ⟨found, ⟨schema, key, stored⟩, rfl⟩
      · exact .inr ⟨found, ⟨schema, key, stored⟩, column⟩
  rw [objectNames, NameSet.mem_ofNonEmpty, ← schemas, ← tables]
  simp only [List.cons_append, List.mem_cons, List.mem_append, List.mem_map, List.mem_flatMap,
    Std.ExtTreeSet.mem_toList, or_assoc]

/-! ## Changes -/

/-- Changing a schema leaves the tables of the others. -/
theorem table?_updateSchema (database : Database) (schema : String) (change : Schema → Schema)
    (schema₁ key : String) :
    (database.updateSchema schema change).table? schema₁ key =
      if schema = schema₁ then (change (database.schemas[schema]?.getD ⟨schema, ∅⟩)).tables[key]?
      else database.table? schema₁ key := by
  simp only [table?, updateSchema, Std.ExtTreeMap.getElem?_insert,
    Std.LawfulEqCmp.compare_eq_iff_eq]
  by_cases same : schema = schema₁
  · simp only [same, if_true, Option.bind_some]
  · simp only [same, if_false]

/-- A schema that is changed is created under its own name. -/
theorem schemaName?_updateSchema (database : Database) (schema : String)
    {change : Schema → Schema} (keeps : ∀ found, (change found).name = found.name) (key : String) :
    (database.updateSchema schema change).schemaName? key =
      if schema = key then some ((database.schemaName? key).getD key)
      else database.schemaName? key := by
  simp only [schemaName?, updateSchema, Std.ExtTreeMap.getElem?_insert,
    Std.LawfulEqCmp.compare_eq_iff_eq]
  by_cases same : schema = key
  · subst same
    cases database.schemas[schema]? <;> simp [keeps]
  · simp only [same, if_false]

/-- A schema that is created has no tables yet. -/
theorem getElem?_tables_getD (database : Database) (schema key : String) :
    (database.schemas[schema]?.getD ⟨schema, ∅⟩).tables[key]? = database.table? schema key := by
  rw [table?]
  cases database.schemas[schema]? <;> simp

/-- Inserting a table changes one place. -/
theorem table?_insertTable (database : Database) (schema : String) (table : Table)
    (schema₁ key : String) :
    (database.insertTable schema table).table? schema₁ key =
      if schema = schema₁ ∧ table.name = key then some table else database.table? schema₁ key := by
  simp only [insertTable, table?_updateSchema, Schema.insertTable, Schema.insertAt,
    Std.ExtTreeMap.getElem?_insert, Std.LawfulEqCmp.compare_eq_iff_eq, getElem?_tables_getD]
  by_cases same : schema = schema₁
  · simp only [same, if_true, true_and]
  · simp only [same, if_false, false_and]

/-- The schema of an inserted table is created under its own name. -/
theorem schemaName?_insertTable (database : Database) (schema : String) (table : Table)
    (key : String) :
    (database.insertTable schema table).schemaName? key =
      if schema = key then some ((database.schemaName? key).getD key)
      else database.schemaName? key := by
  apply schemaName?_updateSchema
  intro found
  rfl

/-- Inserting a column changes one place, where a table is created if there is none. -/
theorem table?_insertColumn (database : Database) (schema table column schema₁ key : String) :
    (database.insertColumn schema table column).table? schema₁ key =
      if schema = schema₁ ∧ table = key then
        some (((database.table? schema₁ key).getD ⟨key, ∅⟩).insertColumn column)
      else database.table? schema₁ key := by
  simp only [insertColumn, table?_updateSchema, Schema.insertColumn, Schema.insertAt,
    Std.ExtTreeMap.getElem?_insert, Std.LawfulEqCmp.compare_eq_iff_eq, getElem?_tables_getD]
  by_cases same : schema = schema₁
  · subst same
    by_cases place : table = key
    · simp only [place, if_true, true_and]
    · simp only [place, if_true, if_false, and_false]
  · simp only [same, if_false, false_and]

/-- Putting a whole schema in its place changes no other. -/
theorem table?_insertSchema (database : Database) (schema : Schema) (schema₁ key : String) :
    (database.insertSchema schema).table? schema₁ key =
      if schema.name = schema₁ then schema.tables[key]? else database.table? schema₁ key := by
  simp only [table?, insertSchema, Std.ExtTreeMap.getElem?_insert,
    Std.LawfulEqCmp.compare_eq_iff_eq]
  by_cases same : schema.name = schema₁
  · simp only [same, if_true, Option.bind_some]
  · simp only [same, if_false]

theorem schemaName?_insertSchema (database : Database) (schema : Schema) (key : String) :
    (database.insertSchema schema).schemaName? key =
      if schema.name = key then some key else database.schemaName? key := by
  simp only [schemaName?, insertSchema, Std.ExtTreeMap.getElem?_insert,
    Std.LawfulEqCmp.compare_eq_iff_eq]
  by_cases same : schema.name = key
  · simp only [same, if_true, Option.map_some]
  · simp only [same, if_false]

/-- A drop finds nothing and does nothing, or takes one table out of a schema and returns it. -/
theorem dropTable_cases (database : Database) (schema table : String) :
    (database.table? schema table = none ∧
      database.dropTable schema table = (none, database)) ∨
      ∃ found dropped, database.schemas[schema]? = some found ∧
        database.table? schema table = some dropped ∧
        database.dropTable schema table = (some dropped,
          { database with
            schemas := database.schemas.insert schema (found.eraseTable table) }) := by
  unfold dropTable table?
  split
  · next missing => exact .inl ⟨by rw [missing]; rfl, rfl⟩
  · next found stored =>
      split
      · next missing => exact .inl ⟨by rw [stored]; exact missing, rfl⟩
      · next dropped held => exact .inr ⟨found, dropped, stored, by rw [stored]; exact held, rfl⟩

/-- A drop returns the table that is stored in its place. -/
theorem fst_dropTable (database : Database) (schema table : String) :
    (database.dropTable schema table).1 = database.table? schema table := by
  rcases database.dropTable_cases schema table with
    ⟨missing, same⟩ | ⟨found, dropped, _, held, after⟩
  · rw [same, missing]
  · rw [after, held]

theorem dropTable_of_none (missing : database.table? schema key = none) :
    database.dropTable schema key = (none, database) := by
  rcases database.dropTable_cases schema key with ⟨_, same⟩ | ⟨_, dropped, _, held, _⟩
  · exact same
  · cases missing.symm.trans held

/-- Dropping a table changes one place. -/
theorem table?_dropTable (database : Database) (schema table schema₁ key : String) :
    (database.dropTable schema table).2.table? schema₁ key =
      if schema = schema₁ ∧ table = key then none else database.table? schema₁ key := by
  rcases database.dropTable_cases schema table with
    ⟨missing, same⟩ | ⟨found, dropped, stored, _, after⟩
  · rw [same]
    by_cases place : schema = schema₁ ∧ table = key
    · obtain ⟨rfl, rfl⟩ := place
      simp [missing]
    · rw [if_neg place]
  · simp only [after, table?, Std.ExtTreeMap.getElem?_insert,
      Std.LawfulEqCmp.compare_eq_iff_eq]
    by_cases same : schema = schema₁
    · subst same
      simp [stored, Schema.eraseTable, Std.ExtTreeMap.getElem?_erase]
    · simp only [same, if_false, false_and]

/-- No schema goes with the tables dropped from it. -/
theorem schemaName?_dropTable (database : Database) (schema table key : String) :
    (database.dropTable schema table).2.schemaName? key = database.schemaName? key := by
  rcases database.dropTable_cases schema table with ⟨_, same⟩ | ⟨found, dropped, stored, _, after⟩
  · rw [same]
  · simp only [after, schemaName?, Std.ExtTreeMap.getElem?_insert,
      Std.LawfulEqCmp.compare_eq_iff_eq]
    by_cases same : schema = key
    · subst same
      simp [stored, Schema.eraseTable]
    · simp only [same, if_false]

theorem name_dropTable (database : Database) (schema table : String) :
    (database.dropTable schema table).2.name = database.name := by
  rcases database.dropTable_cases schema table with ⟨_, same⟩ | ⟨_, _, _, _, after⟩
  · rw [same]
  · rw [after]

/-- What an insertion brings are the names of its schema, its table and its columns. -/
theorem mem_objectNames_of_insertTable
    (offered : name ∈ (database.insertTable schema table).objectNames) :
    name ∈ database.objectNames ∨ name = schema ∨ name = table.name ∨ name ∈ table.columns := by
  obtain ⟨place, nonEmpty⟩ := mem_objectNames_iff.mp offered
  rcases place with own | ⟨key, ofSchema⟩ | ⟨schema₁, key, found, stored, held⟩
  · exact .inl (mem_objectNames_iff.mpr ⟨.inl own, nonEmpty⟩)
  · rw [schemaName?_insertTable] at ofSchema
    by_cases same : schema = key
    · subst same
      cases before : database.schemaName? schema with
      | none =>
          right
          left
          simpa [before] using ofSchema.symm
      | some old =>
          left
          simp only [before, if_true, Option.getD_some] at ofSchema
          exact mem_objectNames_iff.mpr ⟨.inr (.inl ⟨schema, before.trans ofSchema⟩), nonEmpty⟩
    · rw [if_neg same] at ofSchema
      exact .inl (mem_objectNames_iff.mpr ⟨.inr (.inl ⟨key, ofSchema⟩), nonEmpty⟩)
  · rw [table?_insertTable] at stored
    split at stored
    · cases stored
      exact .inr (.inr held)
    · exact .inl (mem_objectNames_iff.mpr ⟨.inr (.inr ⟨_, _, _, stored, held⟩), nonEmpty⟩)

/-- A drop brings no names. -/
theorem mem_objectNames_of_dropTable {dropped : String}
    (offered : name ∈ (database.dropTable schema dropped).2.objectNames) :
    name ∈ database.objectNames := by
  obtain ⟨place, nonEmpty⟩ := mem_objectNames_iff.mp offered
  refine mem_objectNames_iff.mpr ⟨?_, nonEmpty⟩
  rw [name_dropTable] at place
  rcases place with own | ⟨key, ofSchema⟩ | ⟨schema₁, key, found, stored, held⟩
  · exact .inl own
  · rw [schemaName?_dropTable] at ofSchema
    exact .inr (.inl ⟨key, ofSchema⟩)
  · rw [table?_dropTable] at stored
    split at stored
    · cases stored
    · exact .inr (.inr ⟨_, _, _, stored, held⟩)

end Database

end SqlAssist
