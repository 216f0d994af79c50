/-
# Sessions

A session runs statements and keeps its completion engine in step with them. A statement is first
prepared, which tells whether it returns rows, and then executed. Only a statement that ended with
an update count can start a refresh. Cancelling ends the statements that are running at that
moment and nothing else.
-/

import SqlAssist.Dialect
import SqlAssist.Engine.Basic
import SqlAssist.Session.RowCount

namespace SqlAssist

/-- What a statement produced. -/
inductive Outcome where
  /-- Rows are counted up to the session's limit. -/
  | resultSet (columns : List String) (rows : RowCount)
  | updateCount (affected : Nat)
  deriving DecidableEq, Repr

/-- How far a running statement has come. -/
inductive StatementStage where
  | preparing
  /-- Prepared, with the columns of the result, and under execution. -/
  | executing (columns : List String)
  deriving DecidableEq, Repr

/-- A statement that waits for the server. -/
structure Running where
  id : Nat
  sql : String
  stage : StatementStage
  deriving DecidableEq, Repr

/-- What a server sends back for a statement. -/
inductive ServerReply where
  /-- The statement is prepared; a statement without result columns returns no rows. -/
  | prepared (columns : List String)
  /-- A statement without rows was carried out. -/
  | done (affected : Nat)
  /-- The rows of the result, of which any may fail. -/
  | rows (rows : List (Except DatabaseError Unit))
  | failed (cause : DatabaseError)

/-- A session between two events; `σ` names sources. -/
structure Session (σ : Type) where
  engine : Engine σ := {}
  matching : MatchOptions := {}
  trigger : Sql.RefreshTrigger := .always
  /-- The most rows that are counted. -/
  maxResult : Nat := 1000
  /-- Statements that wait for the server. -/
  running : List Running := []
  /-- Results of the statements that have ended, the latest first. -/
  ended : List (Nat × Except Error Outcome) := []
  /-- Refreshes that have been started and have not ended. -/
  refreshes : List (Request σ) := []

namespace Session

variable {σ : Type}

/-- A session on an engine that is set up as the configuration says. -/
def ofConfig (config : Config) : Session σ where
  matching := ⟨config.schemaOnlyAfterDot⟩
  trigger := config.refreshTrigger
  maxResult := config.maxResult

/-- The configuration of the environment and the database of an address, which opening a session
needs. The configuration is read first. -/
def opening (env : Environment) (url : String) : Except Error (Config × Dialect) :=
  match Config.ofEnvironment env with
  | .error cause => .error (.config cause)
  | .ok config =>
    match Dialect.ofUrl url with
    | .error cause => .error (.invalidArgument cause)
    | .ok dialect => .ok (config, dialect)

/-- Start a statement. -/
def begin (session : Session σ) (id : Nat) (sql : String) : Session σ :=
  { session with running := session.running ++ [⟨id, sql, .preparing⟩] }

/-- End a running statement with a result. -/
def conclude (session : Session σ) (id : Nat) (result : Except Error Outcome) : Session σ :=
  { session with
    running := session.running.filter (·.id ≠ id)
    ended := (id, result) :: session.ended }

/-- Tell the engine that the schema may have changed. -/
def notify (session : Session σ) : Session σ :=
  match session.engine.startRefresh with
  | none => session
  | some (request, engine) =>
    { session with engine := engine, refreshes := session.refreshes ++ [request] }

/-- End a refresh with the answer of its source. -/
def finishRefresh (session : Session σ) (request : Request σ)
    (answer : Except MetadataError NameSet) : BuildOutcome × Session σ :=
  let (outcome, engine) := session.engine.finish request answer
  (outcome, { session with
    engine := engine
    refreshes := session.refreshes.filter (·.number ≠ request.number) })

/-- Go on with a statement that was prepared. -/
def execute (session : Session σ) (id : Nat) (columns : List String) : Session σ :=
  { session with
    running := session.running.map fun statement =>
      if statement.id = id then { statement with stage := .executing columns } else statement }

/-- Take a reply of the server to a running statement. A reply to a statement that has ended is
ignored. -/
def receive (session : Session σ) (id : Nat) (reply : ServerReply) : Session σ :=
  match session.running.find? (·.id = id) with
  | none => session
  | some statement =>
    match statement.stage, reply with
    | _, .failed cause => session.conclude id (.error (.database cause))
    | .preparing, .prepared columns => session.execute id columns
    | .executing [], .done affected =>
      let after := session.conclude id (.ok (.updateCount affected))
      if session.trigger.shouldRefresh statement.sql then after.notify else after
    | .executing (first :: rest), .rows rows =>
      let result : Except Error Outcome :=
        match (countCapped session.maxResult rows).result with
        | .ok count => .ok (.resultSet (first :: rest) count)
        | .error cause => .error (.database cause)
      session.conclude id result
    | _, _ => session

/-- End every running statement. -/
def cancel (session : Session σ) : Session σ :=
  { session with
    running := []
    ended := session.running.map (fun statement => (statement.id, .error .cancelled)) ++
      session.ended }

@[simp]
theorem running_cancel (session : Session σ) : session.cancel.running = [] :=
  rfl

@[simp]
theorem engine_cancel (session : Session σ) : session.cancel.engine = session.engine :=
  rfl

@[simp]
theorem refreshes_cancel (session : Session σ) : session.cancel.refreshes = session.refreshes :=
  rfl

/-- How a statement ended, if it has ended. -/
def result? (session : Session σ) (id : Nat) : Option (Except Error Outcome) :=
  session.ended.lookup id

theorem result?_cancel (session : Session σ) (id : Nat) :
    session.cancel.result? id =
      if id ∈ session.running.map (·.id) then some (.error .cancelled) else session.result? id := by
  unfold cancel result?
  generalize session.running = running
  induction running with
  | nil => rfl
  | cons statement rest ih =>
      simp only [List.map_cons, List.cons_append, List.lookup_cons, List.mem_cons]
      by_cases same : id = statement.id
      · simp [same]
      · rw [beq_false_of_ne same]
        simpa [same] using ih

/-- Let go of the connection. -/
def disconnect (session : Session σ) : Session σ :=
  { session with engine := session.engine.disconnect }

/-- The completions at a byte offset of a buffer, or why there are none. -/
def complete (session : Session σ) (buffer : String) (cursor : Nat) :
    Except Error (List String) :=
  session.engine.complete session.matching buffer cursor

/-- The completions at a byte offset of a buffer, none if there is any trouble. -/
def completions (session : Session σ) (buffer : String) (cursor : Nat) : List String :=
  session.engine.completions session.matching buffer cursor

end Session

end SqlAssist
