/-
# The engine in time

A timeline runs an engine against sources that answer late or not at all. Time is a clock of
whole milliseconds that moves only when it is told to, or when somebody waits for a task. A task
is a connect or a refresh; a task that cannot go on stands in one list, in the order in which the
tasks began to wait. That order also decides who passes a gate first and whose timeout comes
first at one moment; only a connect in the foreground, for which the caller stands still, comes
before the tasks in the background then.

All changes of the engine are the engine's own steps, so what holds after any order of those
steps holds on every timeline.
-/

import SqlAssist.Engine.Basic
import SqlAssist.Engine.Source

namespace SqlAssist

/-- What a fetch is made for. Sources are named by their place in the timeline. -/
inductive Timeline.Purpose where
  /-- To gather the keywords of a source that is to be attached. -/
  | keywords (source : Nat)
  /-- To build the first candidate set of a connection. -/
  | firstBuild (request : Request Nat)
  /-- To build another candidate set of a connection. -/
  | refresh (request : Request Nat)

/-- The number of fetches that a task with this purpose has still to make, this one included. -/
def Timeline.Purpose.fetchesLeft : Timeline.Purpose → Nat
  | keywords _ => 2
  | firstBuild _ | refresh _ => 1

/-- A task that waits for the answer to a fetch. -/
structure Timeline.Waiting where
  task : Nat
  purpose : Timeline.Purpose
  /-- The gate it waits at; `none` for an answer that never comes. -/
  gate : Option String
  /-- What it gets once the gate is open. -/
  answer : Option Answer
  /-- When the fetch is given up. -/
  deadline : Nat

/-- How a task ended. -/
inductive Timeline.TaskResult where
  | connect (result : Except Error Unit)
  | refresh (outcome : BuildOutcome)

/-- An engine, its sources, and all that is under way. -/
structure Timeline where
  options : EngineOptions := {}
  engine : Engine Nat := {}
  sources : Array Source := #[]
  /-- Gates that will let the next fetch pass. -/
  openGates : NameSet := ∅
  clock : Nat := 0
  /-- Waiting tasks, the longest-waiting first. -/
  waiting : List Timeline.Waiting := []
  /-- Results of the tasks that have ended. -/
  results : List (Nat × Timeline.TaskResult) := []
  /-- The number of tasks begun. -/
  begun : Nat := 0

namespace Timeline

/-- Bring in a source; it is named by its place. -/
def addSource (line : Timeline) (source : Source) : Nat × Timeline :=
  (line.sources.size, { line with sources := line.sources.push source })

/-- Record how a task ended. -/
def endTask (line : Timeline) (task : Nat) (result : TaskResult) : Timeline :=
  { line with results := (task, result) :: line.results }

/-- Whether a fetch is held up at no gate. -/
def passes (line : Timeline) : Option String → Bool
  | none => true
  | some gate => gate ∈ line.openGates

/-- Go through a gate; it closes behind. -/
def enter (line : Timeline) : Option String → Timeline
  | none => line
  | some gate => { line with openGates := line.openGates.erase gate }

/-- The answer of a fetch that was given up. -/
def timedOut (line : Timeline) : Answer :=
  .error (.timeout line.options.fetchTimeout)

/-- Begin a fetch. The result is its answer if there is one at once; a fetch that may take no
time is given up at once, and any other makes the task wait. -/
def beginFetch (line : Timeline) (task : Nat) (purpose : Purpose) (fetch : Fetch) :
    Option Answer × Timeline :=
  let passed := line.passes fetch.gate
  let after := if passed then line.enter fetch.gate else line
  match passed, fetch.answer with
  | true, some answer => (some answer, after)
  | _, _ =>
    if line.options.fetchTimeoutMs = 0 then (some line.timedOut, after)
    else
      (none, { after with
        waiting := after.waiting ++ [{
          task, purpose
          gate := if passed then none else fetch.gate
          answer := fetch.answer
          deadline := line.clock + line.options.fetchTimeoutMs }] })

/-- End the first build of a connection. A build that came too late still counts as connected. -/
def endFirstBuild (line : Timeline) (task : Nat) (request : Request Nat) (answer : Answer) :
    Timeline :=
  let (outcome, engine) := line.engine.finish request answer
  let result : Except Error Unit :=
    match outcome with
    | .failed cause => .error cause
    | .published | .superseded => .ok ()
  { line with engine := engine }.endTask task (.connect result)

/-- End a refresh. -/
def endRefresh (line : Timeline) (task : Nat) (request : Request Nat) (answer : Answer) :
    Timeline :=
  let (outcome, engine) := line.engine.finish request answer
  { line with engine := engine }.endTask task (.refresh outcome)

/-- Begin the next fetch of names from a source. -/
def fetchNames (line : Timeline) (task : Nat) (purpose : Purpose) (source : Nat) :
    Option Answer × Timeline :=
  match line.sources[source]? with
  | none => (some (.error .closed), line)
  | some found =>
    let (fetch, after) := found.nameFetch
    { line with sources := line.sources.setIfInBounds source after }.beginFetch task purpose fetch

/-- Attach a source once its keyword fetch has ended, and begin its first build. -/
def attach (line : Timeline) (task source : Nat) (answer : Answer) : Timeline :=
  let keywords := Vocabulary.collect line.options.standardKeywords answer
  let (request, engine) := line.engine.attach source keywords
  match { line with engine := engine }.fetchNames task (.firstBuild request) source with
  | (some names, after) => after.endFirstBuild task request names
  | (none, after) => after

/-- Go on with a task whose fetch has ended. -/
def resume (line : Timeline) (task : Nat) (purpose : Purpose) (answer : Answer) : Timeline :=
  match purpose with
  | .keywords source => line.attach task source answer
  | .firstBuild request => line.endFirstBuild task request answer
  | .refresh request => line.endRefresh task request answer

/-- Begin a task that connects a source. -/
def beginConnect (line : Timeline) (source : Nat) : Nat × Timeline :=
  let task := line.begun
  let started := { line with begun := line.begun + 1 }
  let fetch : Fetch :=
    match line.sources[source]? with
    | some found => found.keywordFetch
    | none => { answer := some (.error .closed) }
  match started.beginFetch task (.keywords source) fetch with
  | (some answer, after) => (task, after.attach task source answer)
  | (none, after) => (task, after)

/-- Begin a task that refreshes the current connection, if there is one. -/
def beginRefresh (line : Timeline) : Option (Nat × Timeline) :=
  line.engine.startRefresh.map fun (request, engine) =>
    let task := line.begun
    let started := { line with begun := line.begun + 1, engine := engine }
    match started.fetchNames task (.refresh request) request.connection.source with
    | (some answer, after) => (task, after.endRefresh task request answer)
    | (none, after) => (task, after)

/-- Let go of the connection. -/
def disconnect (line : Timeline) : Timeline :=
  { line with engine := line.engine.disconnect }

/-- Open a gate for one fetch: the longest-waiting one, or else the next that comes. -/
def release (line : Timeline) (gate : String) : Timeline :=
  match line.waiting.findIdx? (fun waiting => waiting.gate == some gate) with
  | none => { line with openGates := line.openGates.insert gate }
  | some place =>
    match line.waiting[place]? with
    | none => line
    | some found =>
      match found.answer with
      | some answer =>
        { line with waiting := line.waiting.eraseIdx place }.resume
          found.task found.purpose answer
      | none =>
        { line with waiting := line.waiting.set place { found with gate := none } }

/-- The tasks whose fetches are given up by a time, in the order in which they go on: the task in
the foreground, if there is one, and then the others, the longest-waiting first. -/
def due (line : Timeline) (foreground : Option Nat) (time : Nat) : List Waiting :=
  let (first, others) :=
    (line.waiting.filter (fun waiting => waiting.deadline ≤ time)).partition
      (fun waiting => foreground == some waiting.task)
  first ++ others

/-- Move the clock to a later time. Fetches whose time is over are given up, and what their tasks
begin next begins at the new time. -/
def moveTo (line : Timeline) (foreground : Option Nat) (time : Nat) : Timeline :=
  let rest := line.waiting.filter (fun waiting => time < waiting.deadline)
  (line.due foreground time).foldl
    (fun after waiting => after.resume waiting.task waiting.purpose line.timedOut)
    { line with clock := time, waiting := rest }

/-- Move the clock on by some milliseconds, in one go. -/
def advance (line : Timeline) (milliseconds : Nat) : Timeline :=
  line.moveTo none (line.clock + milliseconds)

/-- How a task ended, if it has ended. -/
def result? (line : Timeline) (task : Nat) : Option TaskResult :=
  line.results.lookup task

/-- The earliest time at which a fetch is given up. -/
def nextDeadline? (line : Timeline) : Option Nat :=
  (line.waiting.map (·.deadline)).min?

/-- Move the clock from deadline to deadline until the task has ended, for some jumps at most. -/
def jumpUntil (task : Nat) (foreground : Option Nat) : (jumps : Nat) → Timeline → Timeline
  | 0, line => line
  | jumps + 1, line =>
    if (line.result? task).isSome then line
    else
      match line.nextDeadline? with
      | none => line
      | some deadline => jumpUntil task foreground jumps (line.moveTo foreground deadline)

/-- The number of fetches that can still be given up. A jump of the clock uses up at least one. -/
def fetchesLeft (line : Timeline) : Nat :=
  line.waiting.foldl (fun total waiting => total + waiting.purpose.fetchesLeft) 0

/-- Wait until a task in the background has ended. -/
def awaitTask (line : Timeline) (task : Nat) : Timeline :=
  jumpUntil task none line.fetchesLeft line

/-- Connect a source in the foreground: begin the task and wait until it has ended. -/
def connect (line : Timeline) (source : Nat) : Nat × Timeline :=
  let (task, started) := line.beginConnect source
  (task, jumpUntil task (some task) started.fetchesLeft started)

end Timeline

end SqlAssist
