/-
# Rehearsing an engine

A rehearsal drives a timeline by commands that speak of sources, tasks and kept snapshots by
name, and reports what a user of the engine would see after each.
-/

import SqlAssist.Engine.Timeline

namespace SqlAssist

/-- A source in a command: one that was named before, or a new one. -/
inductive Rehearsal.SourceRef where
  | named (name : String)
  | new (source : Source)

/-- What can be asked of a rehearsal. -/
inductive Rehearsal.Command where
  /-- Connect and wait for the result. The source may be given a name. -/
  | connect (source : SourceRef) (name : Option String)
  /-- Connect in the background. -/
  | beginConnect (source : SourceRef) (name : Option String) (task : String)
  | disconnect
  /-- Tell the engine that the schema may have changed; a refresh runs in the background. -/
  | notify (task : String)
  /-- Tell the same where nothing can run in the background; no refresh starts. -/
  | notifyWithoutBackground
  /-- Wait for a task and forget it. -/
  | awaitTask (task : String)
  /-- Ask whether a task has ended. -/
  | isFinished (task : String)
  | release (gate : String)
  | advance (milliseconds : Nat)
  /-- Completions or the reason why there are none. -/
  | complete (buffer : String) (cursor : Nat)
  /-- Completions, none if there is any trouble. -/
  | completions (buffer : String) (cursor : Nat)
  /-- The candidate set that is served. -/
  | candidates
  /-- Keep the snapshot that is served under a name. -/
  | keep (name : String)
  /-- Compare a kept snapshot with the one that is served. -/
  | kept (name : String)
  | insertTable (source schema : String) (table : Table)
  | dropTable (source schema table : String)
  | options

/-- What a command reports. -/
inductive Rehearsal.Report where
  | nothing
  | connected (result : Except Error Unit)
  | started
  | disconnected
  | refreshed (outcome : BuildOutcome)
  | noSuchTask
  | isFinished (answer : Bool)
  | released
  | advanced
  | completions (result : Except Error (List String))
  | candidates (set : CandidateSet)
  | keeping
  /-- A kept snapshot, whether it is the one served, and whether that one has its keywords. -/
  | kept (set : CandidateSet) (isServed sharesKeywords : Bool)
  | dropped (table : Table)
  | options (options : EngineOptions)

/-- A timeline with names for its sources, its tasks and some snapshots. -/
structure Rehearsal where
  line : Timeline := {}
  sources : Std.ExtTreeMap String Nat := ∅
  tasks : Std.ExtTreeMap String Nat := ∅
  snapshots : Std.ExtTreeMap String Snapshot := ∅

namespace Rehearsal

/-- The report of a task that has ended. -/
def reportOf : Timeline.TaskResult → Report
  | .connect result => .connected result
  | .refresh outcome => .refreshed outcome

/-- Look up or bring in a source, and give it a name if one is wanted. -/
def resolve (stage : Rehearsal) (source : SourceRef) (name : Option String) :
    Option (Nat × Rehearsal) :=
  let found? : Option (Nat × Timeline) :=
    match source with
    | .named known => stage.sources[known]?.map (·, stage.line)
    | .new source => some (stage.line.addSource source)
  found?.map fun (place, line) =>
    let named := match name with
      | some name => stage.sources.insert name place
      | none => stage.sources
    (place, { stage with line := line, sources := named })

/-- Carry out a command. -/
def perform (stage : Rehearsal) : Command → Report × Rehearsal
  | .connect source name =>
    match stage.resolve source name with
    | none => (.nothing, stage)
    | some (place, stage) =>
      let (task, line) := stage.line.connect place
      let report := (line.result? task).elim .nothing reportOf
      (report, { stage with line := line })
  | .beginConnect source name task =>
    match stage.resolve source name with
    | none => (.nothing, stage)
    | some (place, stage) =>
      let (number, line) := stage.line.beginConnect place
      (.started, { stage with line := line, tasks := stage.tasks.insert task number })
  | .disconnect => (.disconnected, { stage with line := stage.line.disconnect })
  | .notify task =>
    match stage.line.beginRefresh with
    | none => (.nothing, stage)
    | some (number, line) =>
      (.started, { stage with line := line, tasks := stage.tasks.insert task number })
  | .notifyWithoutBackground => (.nothing, stage)
  | .awaitTask task =>
    match stage.tasks[task]? with
    | none => (.noSuchTask, stage)
    | some number =>
      let line := stage.line.awaitTask number
      let report := (line.result? number).elim .nothing reportOf
      (report, { stage with line := line, tasks := stage.tasks.erase task })
  | .isFinished task =>
    match stage.tasks[task]? with
    | none => (.noSuchTask, stage)
    | some number => (.isFinished (stage.line.result? number).isSome, stage)
  | .release gate => (.released, { stage with line := stage.line.release gate })
  | .advance milliseconds => (.advanced, { stage with line := stage.line.advance milliseconds })
  | .complete buffer cursor =>
    (.completions (stage.line.engine.complete stage.line.options.matching buffer cursor), stage)
  | .completions buffer cursor =>
    (.completions
      (.ok (stage.line.engine.completions stage.line.options.matching buffer cursor)), stage)
  | .candidates => (stage.line.engine.candidates.elim .nothing .candidates, stage)
  | .keep name =>
    match stage.line.engine.snapshot with
    | none => (.nothing, stage)
    | some snapshot =>
      (.keeping, { stage with snapshots := stage.snapshots.insert name snapshot })
  | .kept name =>
    match stage.snapshots[name]? with
    | none => (.nothing, stage)
    | some snapshot =>
      (.kept snapshot.candidates (stage.line.engine.serves snapshot)
        (stage.line.engine.sharesKeywords snapshot), stage)
  | .insertTable source schema table =>
    match stage.sources[source]? with
    | none => (.nothing, stage)
    | some place =>
      let sources := stage.line.sources.modify place (·.insertTable schema table)
      (.nothing, { stage with line.sources := sources })
  | .dropTable source schema table =>
    match stage.sources[source]? with
    | none => (.nothing, stage)
    | some place =>
      match stage.line.sources[place]? with
      | none => (.nothing, stage)
      | some found =>
        let (dropped, after) := found.dropTable schema table
        let sources := stage.line.sources.setIfInBounds place after
        (dropped.elim .nothing .dropped, { stage with line.sources := sources })
  | .options => (.options stage.line.options, stage)

end Rehearsal

end SqlAssist
