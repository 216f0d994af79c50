/-
# Rehearsing a session

A rehearsal runs a session against a scripted server. The script of a statement says how the
server answers it and where, if anywhere, it stops answering. Refreshes are carried out as soon as
they are started, against the server as it then is, and the queries they send are recorded.

A statement that the server does not answer keeps its connection until it is cancelled. While such
statements hold all connections of the pool, nothing can be read or run: whoever then wants a
connection waits in vain until the time is over.
-/

import SqlAssist.Session.Basic
import SqlAssist.Session.Reflection

namespace SqlAssist

/-- Where a server stops answering. -/
inductive Stall where
  | prepare
  | execute
  deriving DecidableEq, Repr

/-- A statement and the server's answers to it. -/
structure ScriptedStatement where
  sql : String
  /-- The columns of the result; none for a statement that returns no rows. -/
  columns : List String := []
  /-- The number of good rows. -/
  rows : Nat := 0
  affected : Nat := 0
  /-- Preparing fails with this text. -/
  prepareError : Option String := none
  /-- Executing fails with this text, after the good rows. -/
  error : Option String := none
  /-- What the execution changes on the server, even if it fails or is never answered. -/
  change : Server → Server := id
  stall : Option Stall := none

/-- What can be asked of a rehearsed session. -/
inductive SessionRehearsal.Command where
  /-- Run a statement to its end. -/
  | execute (statement : ScriptedStatement)
  /-- Start a statement in the background under a name. -/
  | start (task : String) (statement : ScriptedStatement)
  | cancel
  /-- Wait for a statement in the background and forget it. -/
  | awaitTask (task : String)
  /-- Change the script of the server. -/
  | changeServer (change : Server → Server)
  /-- Tell the engine that the schema may have changed, and wait for the refresh. -/
  | notify
  | disconnect
  | completions (buffer : String) (cursor : Nat)
  | complete (buffer : String) (cursor : Nat)

/-- What a command reports. -/
inductive SessionRehearsal.Report where
  | nothing
  | statement (result : Except Error Outcome)
  | started
  | cancelled
  | noSuchTask
  | refreshed (outcome : BuildOutcome)
  | disconnected
  | completions (result : Except Error (List String))

/-- A session, its server, and what has been sent to the server. -/
structure SessionRehearsal where
  session : Session Reflection
  options : EngineOptions
  server : Server
  source : Reflection
  /-- The number of statements begun. -/
  begun : Nat := 0
  tasks : Std.ExtTreeMap String Nat := ∅
  /-- Queries sent to read the schema, in order. -/
  queries : List ExecutedQuery := []

namespace SessionRehearsal

/-- Whether the running statements hold all connections. -/
def isBusy (stage : SessionRehearsal) : Bool :=
  stage.source.pool.isBusy stage.session.running.length

/-- Read something from the server within the time limit. A server never answers at once, so a
limit of zero is over before the first query is sent; and any limit is over before the first query
if no connection is free. -/
def read (stage : SessionRehearsal) (reading : Reflection.Reading NameSet) :
    Except MetadataError NameSet × SessionRehearsal :=
  if stage.options.fetchTimeoutMs = 0 ∨ stage.isBusy then
    (.error (.timeout stage.options.fetchTimeout), stage)
  else
    let (answer, sent) := Reflection.perform reading
    (answer, { stage with queries := stage.queries ++ sent })

/-- Open a session: gather keywords, attach, and build the first candidate set. A failure leaves
the session without completions. -/
def connect (config : Config) (source : Reflection) (server : Server) : SessionRehearsal :=
  let stage : SessionRehearsal :=
    { session := .ofConfig config, options := .ofConfig config, server, source }
  let (words, stage) := stage.read (source.fetchKeywords server)
  let keywords := Vocabulary.collect stage.options.standardKeywords words
  let (request, engine) := stage.session.engine.attach source keywords
  let (names, stage) := stage.read (source.fetchNames server)
  let (_, engine) := engine.finish request names
  { stage with session.engine := engine }

/-- Carry out a started refresh. -/
def refresh (stage : SessionRehearsal) (request : Request Reflection) :
    BuildOutcome × SessionRehearsal :=
  let (answer, stage) := stage.read (request.connection.source.fetchNames stage.server)
  let (outcome, session) := stage.session.finishRefresh request answer
  (outcome, { stage with session := session })

/-- Carry out all refreshes that have been started. -/
def settle (stage : SessionRehearsal) : SessionRehearsal :=
  stage.session.refreshes.foldl (fun stage request => (stage.refresh request).2) stage

/-- The server's reply to an execution. -/
def executionReply (stage : SessionRehearsal) (statement : ScriptedStatement) : ServerReply :=
  let failure := statement.error.map (Server.errorOf stage.source.dialect)
  if statement.columns.isEmpty then
    match failure with
    | some cause => .failed cause
    | none => .done statement.affected
  else
    let runs := .good statement.rows :: (failure.map RowRun.failing).toList
    .rows (RowRun.rows (stage.session.maxResult + 1) runs)

/-- The server's reply to a preparation. -/
def preparationReply (stage : SessionRehearsal) (statement : ScriptedStatement) : ServerReply :=
  if stage.source.pool.closed then .failed .poolClosed
  else
    match statement.prepareError with
    | some text => .failed (Server.errorOf stage.source.dialect text)
    | none => .prepared statement.columns

/-- Let the server execute a statement that it has prepared, and answer unless the script stops
it there. What the statement changes is changed before the answer. -/
def runExecution (stage : SessionRehearsal) (id : Nat) (statement : ScriptedStatement) :
    SessionRehearsal :=
  match stage.session.running.find? (·.id = id) with
  | none => stage
  | some _ =>
    let executed := { stage with server := statement.change stage.server }
    if statement.stall = some .execute then executed
    else
      { executed with
        session := stage.session.receive id (stage.executionReply statement) }

/-- Start a statement and let the server answer it as far as the script goes. A statement that
gets no connection does not reach the server. -/
def runStatement (stage : SessionRehearsal) (statement : ScriptedStatement) :
    Nat × SessionRehearsal :=
  let id := stage.begun
  let started := { stage with begun := id + 1, session := stage.session.begin id statement.sql }
  if stage.isBusy then
    (id, { started with session := started.session.receive id (.failed .poolTimedOut) })
  else if statement.stall = some .prepare ∧ ¬ stage.source.pool.closed then (id, started)
  else
    let prepared :=
      { started with session := started.session.receive id (started.preparationReply statement) }
    (id, (prepared.runExecution id statement).settle)

/-- The report on a statement. -/
def reportOn (stage : SessionRehearsal) (id : Nat) : Report :=
  (stage.session.result? id).elim .nothing .statement

/-- Carry out a command. -/
def perform (stage : SessionRehearsal) : Command → Report × SessionRehearsal
  | .execute statement =>
    let (id, stage) := stage.runStatement statement
    (stage.reportOn id, stage)
  | .start task statement =>
    let (id, stage) := stage.runStatement statement
    (.started, { stage with tasks := stage.tasks.insert task id })
  | .cancel => (.cancelled, { stage with session := stage.session.cancel })
  | .awaitTask task =>
    match stage.tasks[task]? with
    | none => (.noSuchTask, stage)
    | some id => (stage.reportOn id, { stage with tasks := stage.tasks.erase task })
  | .changeServer change => (.nothing, { stage with server := change stage.server })
  | .notify =>
    let notified := { stage with session := stage.session.notify }
    match notified.session.refreshes.getLast? with
    | none => (.nothing, notified)
    | some request =>
      let (outcome, stage) := notified.refresh request
      (.refreshed outcome, stage)
  | .disconnect => (.disconnected, { stage with session := stage.session.disconnect })
  | .completions buffer cursor =>
    (.completions (.ok (stage.session.completions buffer cursor)), stage)
  | .complete buffer cursor => (.completions (stage.session.complete buffer cursor), stage)

/-- Forget the recorded queries, once they have been reported. -/
def clearQueries (stage : SessionRehearsal) : SessionRehearsal :=
  { stage with queries := [] }

end SessionRehearsal

end SqlAssist
