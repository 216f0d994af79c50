/-
# What a reading of the schema gives

A reading sends three queries and makes a catalog of their rows. If the server answers all three and
no cell is NULL, the two dialects read the same rows from cells of different shape, and the catalog
mirrors these rows. A session without a current database has NULL for its name in one dialect, which
is then read as the empty name. The names that are offered are those of the catalog, so every text
in a row is offered, unless it is empty, and nothing else but the name of the database.
-/

import SqlAssist.Proofs.Catalog.Rows
import SqlAssist.Session.Reflection

namespace SqlAssist.Reflection

variable {source : Reflection} {server : Server} {name : String}
  {tables : List (String × String)} {columns : List (String × String × String)}

/-- The server answers the three queries of a reading with these rows, in which no cell is NULL.
Only the name of the database may be, where the dialect has sessions without one. -/
structure Answered (source : Reflection) (server : Server) (name : String)
    (tables : List (String × String)) (columns : List (String × String × String)) : Prop where
  isOpen : source.pool.closed = false
  accepted : ∀ query ∈ [MetadataQuery.database, .tables, .columns], server.refusal? query = none
  database_eq : server.database = some name ∨
    source.dialect = .mysql ∧ server.database = none ∧ name = ""
  tables_eq : server.tables = tables.map fun row => (some row.1, some row.2)
  columns_eq : server.columns = columns.map fun row => (some row.1, some row.2.1, some row.2.2)

/-! ## Rows -/

theorem Answered.readName_eq (answered : source.Answered server name tables columns) :
    readName source.dialect server.database = .ok name := by
  cases answered.database_eq with
  | inl given =>
      rw [given]
      cases source.dialect <;> rfl
  | inr absent =>
      rw [absent.1, absent.2.1, absent.2.2]
      rfl

/-- Both dialects read schema and table, whatever stands in front of them. -/
theorem Answered.readTables_eq (answered : source.Answered server name tables columns) :
    server.tables.mapM (readTable source.dialect server.database) = .ok tables := by
  have read : readTable source.dialect server.database ∘
      (fun row : String × String => (some row.1, some row.2)) = fun row => pure row := by
    funext row
    cases answered.database_eq with
    | inl given =>
        rw [given]
        cases source.dialect <;> rfl
    | inr absent =>
        rw [absent.1]
        rfl
  rw [answered.tables_eq, List.mapM_map, read]
  exact List.mapM_pure.trans (congrArg _ (List.map_id _))

theorem Answered.readColumns_eq (answered : source.Answered server name tables columns) :
    server.columns.mapM readColumn = .ok columns := by
  rw [answered.columns_eq, List.mapM_map]
  exact List.mapM_pure.trans (congrArg _ (List.map_id _))

/-! ## Queries -/

/-- A query that is answered is recorded, and the reading goes on with its rows. -/
theorem run_ask_bind {α β : Type} {query : MetadataQuery} {rows : Except DatabaseError α}
    {value : α} (accepted : server.refusal? query = none) (read : rows = .ok value)
    (next : α → Reading β) (sent : List ExecutedQuery) :
    ((source.ask server query rows >>= next).run).run sent =
      ((next value).run).run (sent ++ [⟨query, source.arguments query⟩]) := by
  subst read
  simp only [ask, accepted]
  rfl

/-- A reading that is answered sends its three queries and gives the catalog of the rows. -/
theorem Answered.perform_fetchDatabase (answered : source.Answered server name tables columns) :
    perform (source.fetchDatabase server) =
      (.ok (.ofRows name tables columns),
        [⟨.database, []⟩, ⟨.tables, source.schemaArguments⟩,
          ⟨.columns, source.schemaArguments⟩]) := by
  have accepted := answered.accepted
  simp only [List.forall_mem_cons] at accepted
  have opened : ¬ source.pool.closed = true := by simp [answered.isOpen]
  simp only [perform, fetchDatabase, if_neg opened]
  -- The queries are taken one by one; each leaves its record behind.
  refine (run_ask_bind accepted.1 answered.readName_eq _ []).trans ?_
  refine (run_ask_bind accepted.2.1 answered.readTables_eq _ _).trans ?_
  refine (run_ask_bind accepted.2.2.1 answered.readColumns_eq _ _).trans ?_
  rfl

/-- The names that are read are those of the catalog that is read. -/
theorem perform_fetchNames (source : Reflection) (server : Server) :
    (perform (source.fetchNames server)).1 =
      (perform (source.fetchDatabase server)).1.map Database.objectNames := by
  simp only [perform, fetchNames, bind_pure_comp, ExceptT.run_map, StateT.run_map]
  rfl

/-! ## The catalog that is read -/

/-- **A reading mirrors the rows.** Where the server answers, a reading gives a catalog that holds
what the rows name and nothing else, each thing under its own name, and a reading of names gives the
texts of the rows and the name of the database, the empty text left out. A server that answers with
the same rows, in any order and repeated at will, is read to the same catalog, in either dialect and
for any filter. -/
theorem fetch_exact (answered : source.Answered server name tables columns) :
    ∃ tree names,
      (perform (source.fetchDatabase server)).1 = .ok tree ∧
      (perform (source.fetchNames server)).1 = .ok names ∧
      tree.Mirrors name tables columns ∧
      (∀ word, word ∈ names ↔ word ≠ "" ∧
        (word = name ∨ (∃ row ∈ tables, word = row.1 ∨ word = row.2) ∨
          ∃ row ∈ columns, word = row.1 ∨ word = row.2.1 ∨ word = row.2.2)) ∧
      ∀ (source' : Reflection) (server' : Server) (tables' : List (String × String))
        (columns' : List (String × String × String)),
        source'.Answered server' name tables' columns' →
        (∀ row, row ∈ tables' ↔ row ∈ tables) → (∀ row, row ∈ columns' ↔ row ∈ columns) →
        (perform (source'.fetchDatabase server')).1 = .ok tree := by
  let tree := Database.ofRows name tables columns
  have mirrors : tree.Mirrors name tables columns := Database.mirrors_ofRows name tables columns
  refine ⟨tree, tree.objectNames, ?_, ?_, mirrors, fun _ => mirrors.mem_objectNames_iff, ?_⟩
  · rw [answered.perform_fetchDatabase]
  · rw [perform_fetchNames, answered.perform_fetchDatabase]
    rfl
  · intro source' server' tables' columns' answered' sameTables sameColumns
    have same := (Database.mirrors_ofRows name tables' columns').unique
      (mirrors.congr sameTables sameColumns)
    rw [answered'.perform_fetchDatabase, same]

/-- A session without a current database, with a column of a table that no table row names and a
column without a name. A server of the other dialect with an empty name and the rows the other way
round, one of them twice, gives the same catalog. -/
theorem fetch_exact_unnamed :
    ∃ tree names,
      (perform (fetchDatabase ⟨.mysql, none, {}⟩
        { tables := [(some "s", some "t")],
          columns := [(some "s", some "u", some "c"), (some "s", some "t", some "")] })).1 =
        .ok tree ∧
      (perform (fetchNames ⟨.mysql, none, {}⟩
        { tables := [(some "s", some "t")],
          columns := [(some "s", some "u", some "c"), (some "s", some "t", some "")] })).1 =
        .ok names ∧
      (∃ table, tree.table? "s" "u" = some table ∧ "c" ∈ table.columns) ∧
      "c" ∈ names ∧ "" ∉ names ∧
      (perform (fetchDatabase ⟨.postgres, some "s", {}⟩
        { database := some "",
          tables := [(some "s", some "t"), (some "s", some "t")],
          columns := [(some "s", some "t", some ""), (some "s", some "u", some "c")] })).1 =
        .ok tree := by
  have accepted : ∀ query ∈ [MetadataQuery.database, .tables, .columns],
      Server.refusal? {} query = none := by decide
  obtain ⟨tree, names, read, readNames, mirrors, offered, others⟩ :=
    @fetch_exact ⟨.mysql, none, {}⟩
      { tables := [(some "s", some "t")],
        columns := [(some "s", some "u", some "c"), (some "s", some "t", some "")] }
      "" [("s", "t")] [("s", "u", "c"), ("s", "t", "")]
      ⟨rfl, accepted, .inr ⟨rfl, rfl, rfl⟩, rfl, rfl⟩
  obtain ⟨table, stored⟩ := (mirrors.table_iff "s" "u").mpr (.inr ⟨"c", by simp⟩)
  refine ⟨tree, names, read, readNames, ⟨table, stored, ?_⟩, ?_, ?_, ?_⟩
  · rw [mirrors.column_iff "s" "u" table stored]
    simp
  · simp [offered]
  · simp [offered]
  · apply others _ _ [("s", "t"), ("s", "t")] [("s", "t", ""), ("s", "u", "c")]
    · exact ⟨rfl, accepted, .inl rfl, rfl, rfl⟩
    · simp
    · simp [or_comm]

end SqlAssist.Reflection
