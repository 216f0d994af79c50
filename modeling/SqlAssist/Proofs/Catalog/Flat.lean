/-
# The catalog without its tree

What a catalog holds can be written down flat: the set of its schema names and, for every pair of a
schema and a table, the columns of that table. A change of the catalog then says what becomes of
each pair on its own, and it leaves all pairs alone but those it names. The tree follows: after any
changes it stands for the flat catalog that the same changes give. Names are kept twice in the tree,
as keys and inside of what they are keys of, and every change keeps the two the same. A tree is
determined by what it stands for, so changes of different pairs can be exchanged.
-/

import SqlAssist.Proofs.Catalog.Database

namespace SqlAssist

/-! ## Changes -/

/-- Every table of a schema is stored under its name. -/
def Schema.Keyed (schema : Schema) : Prop :=
  ∀ (key : String) (table : Table), schema.tables[key]? = some table → table.name = key

theorem Schema.Keyed.getElem?_eq {schema : Schema} (keyed : schema.Keyed) (key : String) :
    schema.tables[key]? =
      (schema.tables[key]?.map (·.columns)).map fun columns => ⟨key, columns⟩ := by
  cases stored : schema.tables[key]? with
  | none => rfl
  | some table =>
      obtain ⟨own, columns⟩ := table
      obtain rfl := keyed key _ stored
      rfl

/-- A change of a catalog. A schema that is put in as a whole has its tables under their names. -/
inductive CatalogChange where
  | insertColumn (schema table column : String)
  | insertTable (schema : String) (table : Table)
  | insertSchema (schema : Schema) (keyed : schema.Keyed)
  | dropTable (schema table : String)

/-- Make a change, and return the table that it drops. -/
def Database.apply (database : Database) : CatalogChange → Option Table × Database
  | .insertColumn schema table column => (none, database.insertColumn schema table column)
  | .insertTable schema table => (none, database.insertTable schema table)
  | .insertSchema schema _ => (none, database.insertSchema schema)
  | .dropTable schema table => database.dropTable schema table

/-- Make changes one after the other. -/
def Database.applyAll (database : Database) (changes : List CatalogChange) : Database :=
  changes.foldl (fun database change => (database.apply change).2) database

namespace CatalogChange

/-- The schema that a change names. -/
def schema : CatalogChange → String
  | insertColumn schema _ _ => schema
  | insertTable schema _ => schema
  | insertSchema schema _ => schema.name
  | dropTable schema _ => schema

/-- Whether a change says what becomes of a table. -/
def Names (change : CatalogChange) (schema table : String) : Prop :=
  match change with
  | insertColumn schema₁ table₁ _ => schema₁ = schema ∧ table₁ = table
  | insertTable schema₁ table₁ => schema₁ = schema ∧ table₁.name = table
  | insertSchema schema₁ _ => schema₁.name = schema
  | dropTable schema₁ table₁ => schema₁ = schema ∧ table₁ = table

/-- The schema names after a change. -/
def schemas (change : CatalogChange) (before : NameSet) : NameSet :=
  match change with
  | dropTable _ _ => before
  | _ => before.insert change.schema

/-- The columns of a table after a change; `none` stands for no table. -/
def columns (change : CatalogChange) (schema table : String) (before : Option NameSet) :
    Option NameSet :=
  match change with
  | insertColumn schema₁ table₁ column =>
    if schema₁ = schema ∧ table₁ = table then some ((before.getD ∅).insert column) else before
  | insertTable schema₁ table₁ =>
    if schema₁ = schema ∧ table₁.name = table then some table₁.columns else before
  | insertSchema schema₁ _ =>
    if schema₁.name = schema then schema₁.tables[table]?.map (·.columns) else before
  | dropTable schema₁ table₁ => if schema₁ = schema ∧ table₁ = table then none else before

theorem columns_of_not_names {change : CatalogChange} {schema table : String}
    (aside : ¬ change.Names schema table) (before : Option NameSet) :
    change.columns schema table before = before := by
  cases change <;> exact if_neg aside

/-- No schema goes with a change. -/
theorem mem_schemas_of_mem (change : CatalogChange) {before : NameSet} {key : String}
    (member : key ∈ before) : key ∈ change.schemas before := by
  cases change with
  | dropTable => exact member
  | insertColumn | insertTable | insertSchema => exact NameSet.mem_insert_iff.mpr (.inr member)

/-- A table that is there after a change was there before or has its schema created. -/
theorem mem_schemas_of_columns {change : CatalogChange} {schema table : String}
    {before : Option NameSet} {found : NameSet} {names : NameSet}
    (within : ∀ found, before = some found → schema ∈ names)
    (stored : change.columns schema table before = some found) :
    schema ∈ change.schemas names := by
  by_cases named : change.Names schema table
  · cases change with
    | dropTable => cases (if_pos named).symm.trans stored
    | insertColumn | insertTable => exact NameSet.mem_insert_iff.mpr (.inl named.1)
    | insertSchema => exact NameSet.mem_insert_iff.mpr (.inl named)
  -- A table that the change does not name was there before, and so was its schema.
  · rw [columns_of_not_names named] at stored
    exact change.mem_schemas_of_mem (within found stored)

theorem schemas_comm (first second : CatalogChange) (before : NameSet) :
    second.schemas (first.schemas before) = first.schemas (second.schemas before) := by
  apply Std.ExtTreeSet.ext_mem
  intro key
  cases first <;> cases second <;> simp only [schemas, NameSet.mem_insert_iff, or_left_comm]

end CatalogChange

/-! ## Flat catalogs -/

/-- Schema names, and the columns of the tables of these schemas. -/
@[ext]
structure FlatCatalog where
  schemas : NameSet
  columns : String → String → Option NameSet
  /-- There is no table without its schema. -/
  within : ∀ schema table found, columns schema table = some found → schema ∈ schemas

namespace FlatCatalog

def empty : FlatCatalog where
  schemas := ∅
  columns _ _ := none
  within _ _ _ found := nomatch found

/-- Make a change. -/
def apply (flat : FlatCatalog) (change : CatalogChange) : FlatCatalog where
  schemas := change.schemas flat.schemas
  columns schema table := change.columns schema table (flat.columns schema table)
  within schema table _ stored :=
    CatalogChange.mem_schemas_of_columns (flat.within schema table) stored

theorem columns_apply (flat : FlatCatalog) (change : CatalogChange) (schema table : String) :
    (flat.apply change).columns schema table =
      change.columns schema table (flat.columns schema table) := rfl

/-- Make changes one after the other. -/
def applyAll (flat : FlatCatalog) (changes : List CatalogChange) : FlatCatalog :=
  changes.foldl apply flat

/-- The table that a change drops. -/
def dropped (flat : FlatCatalog) : CatalogChange → Option Table
  | .dropTable schema table => (flat.columns schema table).map (⟨table, ·⟩)
  | _ => none

/-- Changes of different tables can be exchanged. -/
theorem apply_comm (flat : FlatCatalog) {first second : CatalogChange}
    (apart : ∀ schema table, ¬ (first.Names schema table ∧ second.Names schema table)) :
    (flat.apply first).apply second = (flat.apply second).apply first := by
  ext1
  · exact CatalogChange.schemas_comm first second flat.schemas
  · funext schema table
    by_cases named : first.Names schema table
    · have aside : ¬ second.Names schema table := fun both => apart schema table ⟨named, both⟩
      simp only [columns_apply, CatalogChange.columns_of_not_names aside]
    · simp only [columns_apply, CatalogChange.columns_of_not_names named]

end FlatCatalog

/-! ## What a tree stands for -/

namespace Database

variable {database : Database} {name : String} {flat : FlatCatalog}

/-- The catalog has this name and stands for a flat catalog, with every schema and every table
under its own name. -/
structure Represents (database : Database) (name : String) (flat : FlatCatalog) : Prop where
  name_eq : database.name = name
  schemaName?_eq : ∀ key, database.schemaName? key = if key ∈ flat.schemas then some key else none
  table?_eq : ∀ schema key,
    database.table? schema key = (flat.columns schema key).map fun columns => ⟨key, columns⟩

/-- Only one catalog of a name stands for a flat catalog. -/
theorem Represents.unique {other : Database} (represents : database.Represents name flat)
    (represents' : other.Represents name flat) : database = other := by
  apply eq_of_places
  · rw [represents.name_eq, represents'.name_eq]
  · intro key
    rw [represents.schemaName?_eq, represents'.schemaName?_eq]
  · intro schema key
    rw [represents.table?_eq, represents'.table?_eq]

theorem represents_empty (name : String) : (⟨name, ∅⟩ : Database).Represents name .empty where
  name_eq := rfl
  schemaName?_eq := by simp [schemaName?, FlatCatalog.empty]
  table?_eq := by simp [table?, FlatCatalog.empty]

/-! ## Changes one by one -/

/-- A change leaves every schema alone but the one it names. -/
theorem getElem?_schemas_apply_of_ne (database : Database) {change : CatalogChange}
    {schema : String} (different : change.schema ≠ schema) :
    (database.apply change).2.schemas[schema]? = database.schemas[schema]? := by
  cases change with
  | insertColumn | insertTable | insertSchema =>
      simp only [CatalogChange.schema] at different
      simp only [Database.apply, Database.insertColumn, Database.insertTable,
        Database.insertSchema, updateSchema, Std.ExtTreeMap.getElem?_insert,
        Std.LawfulEqCmp.compare_eq_iff_eq, different, if_false]
  | dropTable schema₁ table =>
      simp only [CatalogChange.schema] at different
      rcases database.dropTable_cases schema₁ table with ⟨_, same⟩ | ⟨_, _, _, _, after⟩
      · rw [Database.apply, same]
      · simp only [Database.apply, after, Std.ExtTreeMap.getElem?_insert,
          Std.LawfulEqCmp.compare_eq_iff_eq, different, if_false]

namespace Represents

variable (represents : database.Represents name flat)
include represents

/-- With a schema its name comes in. -/
theorem ite_mem_insert (schema key : String) :
    (if key ∈ flat.schemas.insert schema then some key else none) =
      if schema = key then some key else database.schemaName? key := by
  rw [represents.schemaName?_eq]
  by_cases same : schema = key
  · rw [if_pos same, if_pos (NameSet.mem_insert_iff.mpr (.inl same))]
  · simp only [NameSet.mem_insert_iff, same, false_or, if_false]

/-- A schema that is changed is there after it. -/
theorem schemaName?_updateSchema {schema : String} {change : Schema → Schema}
    (keeps : ∀ found, (change found).name = found.name) (key : String) :
    (database.updateSchema schema change).schemaName? key =
      if key ∈ flat.schemas.insert schema then some key else none := by
  have own : (database.schemaName? key).getD key = key := by
    rw [represents.schemaName?_eq]
    split <;> rfl
  rw [Database.schemaName?_updateSchema database schema keeps, own, represents.ite_mem_insert]

theorem insertColumn (schema table column : String) :
    (database.insertColumn schema table column).Represents name
      (flat.apply (.insertColumn schema table column)) where
  name_eq := represents.name_eq
  schemaName?_eq := represents.schemaName?_updateSchema fun _ => rfl
  table?_eq schema₁ key := by
    rw [table?_insertColumn, represents.table?_eq]
    by_cases place : schema = schema₁ ∧ table = key
    · simp only [FlatCatalog.columns_apply, CatalogChange.columns, if_pos place, Option.map_some]
      cases flat.columns schema₁ key <;> rfl
    · simp only [FlatCatalog.columns_apply, CatalogChange.columns, if_neg place]

theorem insertTable (schema : String) (table : Table) :
    (database.insertTable schema table).Represents name
      (flat.apply (.insertTable schema table)) where
  name_eq := represents.name_eq
  schemaName?_eq := represents.schemaName?_updateSchema fun _ => rfl
  table?_eq schema₁ key := by
    rw [table?_insertTable, represents.table?_eq]
    by_cases place : schema = schema₁ ∧ table.name = key
    · simp only [FlatCatalog.columns_apply, CatalogChange.columns, if_pos place, Option.map_some]
      rw [← place.2]
    · simp only [FlatCatalog.columns_apply, CatalogChange.columns, if_neg place]

theorem insertSchema (schema : Schema) (keyed : schema.Keyed) :
    (database.insertSchema schema).Represents name (flat.apply (.insertSchema schema keyed)) where
  name_eq := represents.name_eq
  schemaName?_eq key := by
    rw [schemaName?_insertSchema, ← represents.ite_mem_insert]
    rfl
  table?_eq schema₁ key := by
    rw [table?_insertSchema, represents.table?_eq, keyed.getElem?_eq, ← apply_ite (Option.map _)]
    rfl

/-- No schema name goes with a table. -/
theorem dropTable (schema table : String) :
    (database.dropTable schema table).2.Represents name (flat.apply (.dropTable schema table)) where
  name_eq := (database.name_dropTable schema table).trans represents.name_eq
  schemaName?_eq key := by
    rw [schemaName?_dropTable, represents.schemaName?_eq]
    rfl
  table?_eq schema₁ key := by
    rw [table?_dropTable, represents.table?_eq]
    by_cases place : schema = schema₁ ∧ table = key
    · simp only [FlatCatalog.columns_apply, CatalogChange.columns, if_pos place, Option.map_none]
    · simp only [FlatCatalog.columns_apply, CatalogChange.columns, if_neg place]

/-- One change of the tree is the same change of what it stands for. -/
theorem apply (change : CatalogChange) :
    (database.apply change).2.Represents name (flat.apply change) := by
  cases change with
  | insertColumn schema table column => exact represents.insertColumn schema table column
  | insertTable schema table => exact represents.insertTable schema table
  | insertSchema schema keyed => exact represents.insertSchema schema keyed
  | dropTable schema table => exact represents.dropTable schema table

theorem applyAll (changes : List CatalogChange) :
    (database.applyAll changes).Represents name (flat.applyAll changes) := by
  induction changes generalizing database flat with
  | nil => exact represents
  | cons change changes ih => exact ih (represents.apply change)

/-! ## Reading the tree -/

/-- Schemas and tables are stored under their names. -/
theorem keyed {key : String} {schema : Schema} (stored : database.schemas[key]? = some schema) :
    schema.name = key ∧ schema.Keyed := by
  constructor
  · have named := represents.schemaName?_eq key
    rw [schemaName?, stored, Option.map_some] at named
    split at named
    · exact Option.some.inj named
    · cases named
  · intro place table held
    have found := represents.table?_eq key place
    rw [table?, stored, Option.bind_some, held] at found
    obtain ⟨columns, _, rfl⟩ := Option.map_eq_some_iff.mp found.symm
    rfl

theorem fst_apply (change : CatalogChange) : (database.apply change).1 = flat.dropped change := by
  cases change with
  | insertColumn | insertTable | insertSchema => rfl
  | dropTable schema table =>
      rw [Database.apply, fst_dropTable, represents.table?_eq]
      rfl

/-- A drop of what is not there does nothing. -/
theorem dropTable_of_missing {schema table : String}
    (missing : schema ∉ flat.schemas ∨ flat.columns schema table = none) :
    database.dropTable schema table = (none, database) := by
  have none_there : flat.columns schema table = none := by
    cases missing with
    | inl noSchema =>
        apply Option.eq_none_iff_forall_ne_some.mpr
        intro columns found
        exact noSchema (flat.within schema table columns found)
    | inr noTable => exact noTable
  apply dropTable_of_none
  rw [represents.table?_eq, none_there]
  rfl

/-- A change leaves the tables alone that it does not name. -/
theorem table?_apply_of_not_names {change : CatalogChange} {schema table : String}
    (aside : ¬ change.Names schema table) :
    (database.apply change).2.table? schema table = database.table? schema table := by
  rw [(represents.apply change).table?_eq, represents.table?_eq, FlatCatalog.columns_apply,
    CatalogChange.columns_of_not_names aside]

/-- Changes of different tables can be exchanged. -/
theorem apply_comm {first second : CatalogChange}
    (apart : ∀ schema table, ¬ (first.Names schema table ∧ second.Names schema table)) :
    ((database.apply first).2.apply second).2 = ((database.apply second).2.apply first).2 := by
  -- Both orders lead to the same flat catalog, and only one tree stands for that.
  have one := (represents.apply first).apply second
  have other := (represents.apply second).apply first
  rw [← flat.apply_comm apart] at other
  exact one.unique other

/-- What is offered are the names in the flat catalog. -/
theorem mem_objectNames_iff {word : String} :
    word ∈ database.objectNames ↔ word ≠ "" ∧ (word = name ∨ word ∈ flat.schemas ∨
      ∃ schema table columns, flat.columns schema table = some columns ∧
        (word = table ∨ word ∈ columns)) := by
  have schemas : (∃ key, database.schemaName? key = some word) ↔ word ∈ flat.schemas := by
    simp [represents.schemaName?_eq]
  have tables : (∃ schema key table, database.table? schema key = some table ∧
      (word = table.name ∨ word ∈ table.columns)) ↔
      ∃ schema table columns, flat.columns schema table = some columns ∧
        (word = table ∨ word ∈ columns) := by
    simp only [represents.table?_eq, Option.map_eq_some_iff]
    constructor
    · rintro ⟨schema, key, _, ⟨columns, found, rfl⟩, held⟩
      exact ⟨schema, key, columns, found, held⟩
    · rintro ⟨schema, key, columns, found, held⟩
      exact ⟨schema, key, ⟨key, columns⟩, ⟨columns, found, rfl⟩, held⟩
  rw [Database.mem_objectNames_iff, and_comm, represents.name_eq, schemas, tables]

end Represents

/-- **The tree refines a flat catalog.** After any changes of an empty catalog, every schema and
every table is stored under its own name, and the catalog stands for the flat catalog that the same
changes give, the only catalog of its name to do so; what is offered are the names in it. So it goes
on: the next change returns what it drops from the flat catalog and leads to what the changed flat
catalog stands for. It leaves every schema alone that it does not name, and every table; a drop of
what is not there returns nothing and does nothing; and two changes that name no table in common,
whether they insert or drop, can be made in either order. -/
theorem applyAll_refines (name : String) (changes : List CatalogChange) :
    let database := applyAll ⟨name, ∅⟩ changes
    let flat := FlatCatalog.empty.applyAll changes
    (∀ (key : String) (schema : Schema), database.schemas[key]? = some schema →
      schema.name = key ∧ schema.Keyed) ∧
    database.Represents name flat ∧
    (∀ other : Database, other.Represents name flat → other = database) ∧
    (∀ word, word ∈ database.objectNames ↔ word ≠ "" ∧ (word = name ∨ word ∈ flat.schemas ∨
      ∃ schema table columns, flat.columns schema table = some columns ∧
        (word = table ∨ word ∈ columns))) ∧
    (∀ schema table, schema ∉ flat.schemas ∨ flat.columns schema table = none →
      database.dropTable schema table = (none, database)) ∧
    ∀ change : CatalogChange,
      (database.apply change).1 = flat.dropped change ∧
      (database.apply change).2.Represents name (flat.apply change) ∧
      (∀ schema, change.schema ≠ schema →
        (database.apply change).2.schemas[schema]? = database.schemas[schema]?) ∧
      (∀ schema table, ¬ change.Names schema table →
        (database.apply change).2.table? schema table = database.table? schema table) ∧
      ∀ other : CatalogChange,
        (∀ schema table, ¬ (change.Names schema table ∧ other.Names schema table)) →
        ((database.apply change).2.apply other).2 = ((database.apply other).2.apply change).2 := by
  intro database flat
  have represents : database.Represents name flat := (represents_empty name).applyAll changes
  refine ⟨fun _ _ => represents.keyed, represents, fun _ same => same.unique represents,
    fun _ => represents.mem_objectNames_iff, fun _ _ => represents.dropTable_of_missing, ?_⟩
  intro change
  exact ⟨represents.fst_apply change, represents.apply change,
    fun _ => database.getElem?_schemas_apply_of_ne, fun _ _ => represents.table?_apply_of_not_names,
    fun _ => represents.apply_comm⟩

/-- A table that is dropped a second time, in a schema that stays, and changes of two tables of that
schema in either order. -/
theorem applyAll_refines_orders :
    let database := applyAll ⟨"shop", ∅⟩ [.insertColumn "public" "orders" "id",
      .insertTable "public" ⟨"customers", ∅⟩, .dropTable "public" "orders"]
    database.dropTable "public" "orders" = (none, database) ∧
      "public" ∈ database.objectNames ∧ "customers" ∈ database.objectNames ∧
      ((database.apply (.insertColumn "public" "orders" "total")).2.apply
          (.dropTable "public" "customers")).2 =
        ((database.apply (.dropTable "public" "customers")).2.apply
          (.insertColumn "public" "orders" "total")).2 := by
  obtain ⟨_, _, _, offered, drops, changed⟩ := applyAll_refines "shop"
    [.insertColumn "public" "orders" "id", .insertTable "public" ⟨"customers", ∅⟩,
      .dropTable "public" "orders"]
  obtain ⟨_, _, _, _, exchanged⟩ := changed (.insertColumn "public" "orders" "total")
  refine ⟨drops _ _ (.inr ?_), (offered _).mpr ⟨by decide, .inr (.inl ?_)⟩,
    (offered _).mpr ⟨by decide, .inr (.inr ⟨"public", "customers", ∅, ?_, .inl rfl⟩)⟩,
    exchanged _ ?_⟩
  · rfl
  · simp [FlatCatalog.applyAll, FlatCatalog.apply, CatalogChange.schemas, CatalogChange.schema]
  · rfl
  · rintro schema table ⟨⟨_, rfl⟩, _, same⟩
    exact absurd same (by decide)

end Database

end SqlAssist
