/-
# The completion engine

The engine serves completions from a published candidate set and replaces that set as a whole.
Connects, disconnects and refreshes draw numbers from one rising sequence. A set is published
only if its request has a higher number than what is published already, so the answer that
counts is decided by the order of requests and not by the order in which fetches end.

Attaching draws two numbers: one for the reset that stops serving the former connection's names,
and one for the new connection's first build. Requests of a former connection are numbered below
the reset and can no longer publish.
-/

import SqlAssist.Candidates.Completion
import SqlAssist.Error
import SqlAssist.Vocabulary

namespace SqlAssist

/-- Choices made when an engine is set up. -/
structure EngineOptions where
  /-- The longest a single fetch of metadata may take. -/
  fetchTimeoutMs : Nat := 5000
  /-- Offer the standard vocabulary besides what the server advertises. -/
  standardKeywords : Bool := true
  matching : MatchOptions := {}
  deriving DecidableEq, Repr

/-- The longest a single fetch of metadata may take. -/
def EngineOptions.fetchTimeout (options : EngineOptions) : Duration :=
  .ofMilliseconds options.fetchTimeoutMs

/-- The engine of a session always offers the standard vocabulary. -/
def EngineOptions.ofConfig (config : Config) : EngineOptions where
  fetchTimeoutMs := config.fetchTimeoutMs
  standardKeywords := true
  matching := ⟨config.schemaOnlyAfterDot⟩

/-- Whether there is something to serve. -/
inductive RefreshState where
  | stale
  | fresh
  deriving DecidableEq, Repr

/-- One attachment of a source of names. Its keywords are gathered once, before it is attached,
and serve every build over it. -/
structure Connection (σ : Type) where
  source : σ
  keywords : NameSet
  /-- The number its reset drew. No other attachment has it. -/
  number : Nat
  deriving DecidableEq

/-- A numbered request to read the names of a connection and to publish them. -/
structure Request (σ : Type) where
  number : Nat
  connection : Connection σ
  deriving DecidableEq

/-- A candidate set with the request that built it. -/
structure Snapshot where
  candidates : CandidateSet
  /-- The number of the request. -/
  number : Nat
  /-- The number of the connection the request was made for. -/
  connection : Nat

/-- How a request ended. -/
inductive BuildOutcome where
  /-- There are no new names. -/
  | failed (cause : Error)
  /-- The new set is served. -/
  | published
  /-- A request with a higher number, or a reset, was there first. -/
  | superseded
  deriving DecidableEq, Repr

/-- What is known of an engine between two steps; `σ` names sources. -/
structure Engine (σ : Type) where
  connection : Option (Connection σ) := none
  /-- The last number drawn. -/
  drawn : Nat := 0
  /-- The number of what is published, a set or a reset. -/
  publishedNumber : Nat := 0
  /-- The candidate set that is served. -/
  snapshot : Option Snapshot := none

namespace Engine

variable {σ : Type}

/-- The number the next request draws. -/
def nextNumber (engine : Engine σ) : Nat :=
  engine.drawn + 1

/-- Draw a number. -/
def draw (engine : Engine σ) : Engine σ :=
  { engine with drawn := engine.nextNumber }

/-- Whether a request with this number would still be published. -/
def accepts (engine : Engine σ) (number : Nat) : Bool :=
  engine.publishedNumber < number

/-- Publish under a number, unless something at least as new is published. -/
def publish (engine : Engine σ) (number : Nat) (snapshot : Option Snapshot) : Engine σ :=
  if engine.accepts number then
    { engine with publishedNumber := number, snapshot := snapshot }
  else engine

/-- Put a connection in place of the former one and stop serving. -/
def reset (engine : Engine σ) (connection : Option (Connection σ)) : Engine σ :=
  let number := engine.nextNumber
  { engine with connection := connection }.draw.publish number none

/-- Take over a source with the keywords gathered for it. The answer is the request for its
first build. -/
def attach (engine : Engine σ) (source : σ) (keywords : NameSet) : Request σ × Engine σ :=
  let connection : Connection σ := ⟨source, keywords, engine.nextNumber⟩
  let after := engine.reset (some connection)
  (⟨after.nextNumber, connection⟩, after.draw)

/-- Let go of the connection. The number of a first build is drawn here too and goes unused. -/
def disconnect (engine : Engine σ) : Engine σ :=
  (engine.reset none).draw

/-- Ask for a refresh of the current connection; without one nothing happens. -/
def startRefresh (engine : Engine σ) : Option (Request σ × Engine σ) :=
  engine.connection.map fun connection =>
    (⟨engine.nextNumber, connection⟩, engine.draw)

/-- The candidate set that an answer to a request makes. -/
def build (request : Request σ) (answer : Except MetadataError NameSet) :
    Except Error CandidateSet :=
  match answer with
  | .error cause => .error (.metadata cause)
  | .ok names =>
    match CandidateSet.build request.connection.keywords names with
    | .error cause => .error (.invalidArgument cause)
    | .ok candidates => .ok candidates

/-- End a request with the answer of its source. A failure leaves the engine as it was. -/
def finish (engine : Engine σ) (request : Request σ) (answer : Except MetadataError NameSet) :
    BuildOutcome × Engine σ :=
  match build request answer with
  | .error cause => (.failed cause, engine)
  | .ok candidates =>
    let outcome := if engine.accepts request.number then .published else .superseded
    (outcome, engine.publish request.number
      (some ⟨candidates, request.number, request.connection.number⟩))

/-- Whether a source is attached. -/
def isConnected (engine : Engine σ) : Bool :=
  engine.connection.isSome

/-- Fresh means that a candidate set is served. -/
def state (engine : Engine σ) : RefreshState :=
  if engine.snapshot.isSome then .fresh else .stale

/-- The candidate set that is served. -/
def candidates (engine : Engine σ) : Option CandidateSet :=
  engine.snapshot.map (·.candidates)

/-- The completions at a byte offset of a buffer. A bad cursor is reported before the lack of
candidates. -/
def complete (engine : Engine σ) (options : MatchOptions) (buffer : String) (cursor : Nat) :
    Except Error (List String) :=
  match engine.candidates with
  | some set =>
    match set.complete options buffer cursor with
    | .ok found => .ok found
    | .error cause => .error (.invalidArgument cause)
  | none =>
    match Sql.PartialToken.atCursor buffer cursor with
    | .ok _ => .error .notReady
    | .error cause => .error (.invalidArgument cause)

/-- The completions at a byte offset of a buffer, none if there is any trouble. -/
def completions (engine : Engine σ) (options : MatchOptions) (buffer : String) (cursor : Nat) :
    List String :=
  match engine.complete options buffer cursor with
  | .ok found => found
  | .error _ => []

/-- Whether a kept snapshot is the very one that is served. Every request publishes at most one
set, so the number tells. -/
def serves (engine : Engine σ) (kept : Snapshot) : Bool :=
  match engine.snapshot with
  | some current => current.number == kept.number
  | none => false

/-- Whether a kept snapshot was built over the keywords of the one that is served. Keywords are
gathered once for every connection. -/
def sharesKeywords (engine : Engine σ) (kept : Snapshot) : Bool :=
  match engine.snapshot with
  | some current => current.connection == kept.connection
  | none => false

end Engine

end SqlAssist
