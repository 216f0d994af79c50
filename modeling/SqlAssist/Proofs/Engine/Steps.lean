/-
# Calls on an engine, in any order

Three kinds of calls are made on an engine: connects, disconnects and refreshes. A disconnect is
over as soon as it begins. A refresh waits for the names of its connection, and a connect waits
twice: for the keywords of its source, after which it attaches, and then for the names. This
module lets any number of such calls run at once. A step is the beginning of a call or the end of
one wait with any answer at all, and steps come in any order.

Every step is written down as an event that holds all it read and decided, and a past is the list
of events so far, the latest first. The numbers of requests follow the order in which the past
shows them drawn; that is all the later modules need to know about numbers. Numbers never run
out here; a counter of fixed width gives the same numbers until it is used up.
-/

import Mathlib.Logic.Function.Basic
import SqlAssist.Engine.Timeline
import SqlAssist.Proofs.Candidates.CandidateSet

namespace SqlAssist

/-! ## What the operations of an engine do -/

namespace Engine

variable {σ : Type} {engine : Engine σ} {request : Request σ} {answer : Answer}

/-- As long as nothing above the last drawn number is published, attaching always stops serving. -/
theorem attach_of_published_le (bounded : engine.publishedNumber ≤ engine.drawn) (source : σ)
    (keywords : NameSet) :
    engine.attach source keywords =
      (⟨engine.drawn + 2, ⟨source, keywords, engine.drawn + 1⟩⟩,
        { connection := some ⟨source, keywords, engine.drawn + 1⟩
          drawn := engine.drawn + 2
          publishedNumber := engine.drawn + 1
          snapshot := none }) := by
  have accepted : engine.publishedNumber < engine.drawn + 1 := by omega
  simp [attach, reset, publish, accepts, draw, nextNumber, accepted]

theorem disconnect_of_published_le (bounded : engine.publishedNumber ≤ engine.drawn) :
    engine.disconnect =
      { connection := none
        drawn := engine.drawn + 2
        publishedNumber := engine.drawn + 1
        snapshot := none } := by
  have accepted : engine.publishedNumber < engine.drawn + 1 := by omega
  simp [disconnect, reset, publish, accepts, draw, nextNumber, accepted]

theorem startRefresh_eq_some_iff {after : Engine σ} :
    engine.startRefresh = some (request, after) ↔
      engine.connection = some request.connection ∧ request.number = engine.drawn + 1 ∧
        after = { engine with drawn := engine.drawn + 1 } := by
  obtain ⟨number, connection⟩ := request
  simp only [startRefresh, draw, nextNumber, Option.map_eq_some_iff, Prod.mk.injEq,
    Request.mk.injEq]
  constructor
  · rintro ⟨current, connected, ⟨rfl, rfl⟩, rfl⟩
    exact ⟨connected, rfl, rfl⟩
  · rintro ⟨connected, rfl, rfl⟩
    exact ⟨connection, connected, ⟨rfl, rfl⟩, rfl⟩

theorem build_ok_eq_ok_iff {names : NameSet} {set : CandidateSet} :
    build request (.ok names) = .ok set ↔
      CandidateSet.build request.connection.keywords names = .ok set := by
  simp only [build]
  cases CandidateSet.build request.connection.keywords names <;> simp

/-- A request builds a set out of the names it is answered and the keywords of its connection. -/
theorem build_eq_ok_iff {set : CandidateSet} :
    build request answer = .ok set ↔
      answer = .ok set.schemaNames ∧ set.keywords = request.connection.keywords := by
  cases answer with
  | error cause => simp [build]
  | ok names =>
      rw [build_ok_eq_ok_iff, CandidateSet.build_eq_ok_iff, Except.ok.injEq, and_comm, eq_comm]

/-- Over keywords without the empty word, a request fails if it gets no answer or is answered an
empty name. -/
theorem build_eq_error_iff (nonEmpty : "" ∉ request.connection.keywords) :
    (∃ cause, build request answer = .error cause) ↔
      (∃ cause, answer = .error cause) ∨ ∃ names, answer = .ok names ∧ "" ∈ names := by
  cases answer with
  | error cause => simp [build]
  | ok names =>
      have possible : (∃ set, build request (.ok names) = .ok set) ↔ "" ∉ names := by
        simp only [build_ok_eq_ok_iff, CandidateSet.exists_build_eq_ok_iff, nonEmpty,
          not_false_eq_true, true_and]
      cases made : build request (.ok names) with
      | error cause =>
          by_cases empty : "" ∈ names
          · simp [empty]
          · obtain ⟨set, built⟩ := possible.mpr empty
            simp [made] at built
      | ok set => simpa using possible.mp ⟨set, made⟩

/-- The snapshot that a request makes out of an answer, if it makes one. -/
def built? (request : Request σ) (answer : Answer) : Option Snapshot :=
  match build request answer with
  | .error _ => none
  | .ok candidates => some ⟨candidates, request.number, request.connection.number⟩

theorem built?_eq_some_iff {snapshot : Snapshot} :
    built? request answer = some snapshot ↔
      build request answer = .ok snapshot.candidates ∧ snapshot.number = request.number ∧
        snapshot.connection = request.connection.number := by
  obtain ⟨candidates, number, connection⟩ := snapshot
  unfold built?
  cases build request answer with
  | error cause => simp
  | ok made => simp [eq_comm]

theorem built?_eq_none_iff :
    built? request answer = none ↔ ∃ cause, build request answer = .error cause := by
  unfold built?
  cases build request answer <;> simp

/-- The three ways in which a request can end. -/
theorem finish_cases {outcome : BuildOutcome} {after : Engine σ}
    (finished : engine.finish request answer = (outcome, after)) :
    (∃ cause, build request answer = .error cause ∧ outcome = .failed cause ∧
        after = engine) ∨
      (∃ snapshot, built? request answer = some snapshot ∧
        engine.publishedNumber < request.number ∧ outcome = .published ∧
        after = { engine with publishedNumber := request.number, snapshot := some snapshot }) ∨
      (∃ snapshot, built? request answer = some snapshot ∧
        request.number ≤ engine.publishedNumber ∧ outcome = .superseded ∧ after = engine) := by
  unfold built?
  unfold finish at finished
  cases made : build request answer with
  | error cause =>
      rw [made] at finished
      cases finished
      exact .inl ⟨cause, rfl, rfl, rfl⟩
  | ok candidates =>
      rw [made] at finished
      by_cases newer : engine.publishedNumber < request.number
      · simp only [publish, accepts, newer, decide_true, if_true] at finished
        cases finished
        exact .inr (.inl ⟨_, rfl, newer, rfl, rfl⟩)
      · simp only [publish, accepts, newer, decide_false, Bool.false_eq_true, if_false]
          at finished
        cases finished
        exact .inr (.inr ⟨_, rfl, Nat.le_of_not_lt newer, rfl, rfl⟩)

/-- A request that is not above what is published leaves the engine alone, whatever its answer. -/
theorem finish_of_number_le (engine : Engine σ) (answer : Answer)
    (old : request.number ≤ engine.publishedNumber) :
    (engine.finish request answer).2 = engine ∧
      (engine.finish request answer).1 ≠ .published := by
  cases finished : engine.finish request answer with
  | mk outcome after =>
      obtain ⟨_, _, rfl, rfl⟩ | ⟨_, _, newer, _, _⟩ | ⟨_, _, _, rfl, rfl⟩ :=
        finish_cases finished
      · exact ⟨rfl, by simp⟩
      · omega
      · exact ⟨rfl, by simp⟩

theorem state_eq_stale_iff : engine.state = .stale ↔ engine.snapshot = none := by
  unfold state
  cases engine.snapshot <;> simp

theorem state_eq_fresh_iff :
    engine.state = .fresh ↔ ∃ snapshot, engine.snapshot = some snapshot := by
  unfold state
  cases engine.snapshot <;> simp

end Engine

/-! ## Situations and events -/

/-- The request a call waits for, if it waits for names. -/
def Timeline.Purpose.request? : Timeline.Purpose → Option (Request Nat)
  | keywords _ => none
  | firstBuild request | refresh request => some request

/-- An engine and the calls on it that are under way. -/
structure Situation where
  engine : Engine Nat := {}
  /-- The number of calls begun; a call is known by how many began before it. -/
  begun : Nat := 0
  /-- What each call waits for. -/
  waiting : Nat → Option Timeline.Purpose := fun _ => none

namespace Situation

/-- The request whose names a call waits for. -/
def building (s : Situation) (call : Nat) : Option (Request Nat) :=
  (s.waiting call).bind Timeline.Purpose.request?

/-- One step, with all that it read and decided. -/
inductive Event where
  /-- A connect begins to fetch the keywords of its source. -/
  | connectBegan (call source : Nat)
  /-- A connect has an answer about keywords and attaches; `first` asks for its names. -/
  | attached (call : Nat) (answer : Answer) (first : Request Nat)
  /-- A disconnect; `reset` is the number under which nothing is published. -/
  | disconnected (call reset : Nat)
  | refreshBegan (call : Nat) (request : Request Nat)
  /-- A refresh without a connection ends where it begins. -/
  | refreshIgnored (call : Nat)
  /-- A connect or a refresh has an answer about names and ends. -/
  | ended (call : Nat) (request : Request Nat) (answer : Answer) (outcome : BuildOutcome)

namespace Event

/-- The call that takes the step. -/
def call : Event → Nat
  | connectBegan call _ | attached call _ _ | disconnected call _ | refreshBegan call _
  | refreshIgnored call | ended call _ _ _ => call

/-- The number of the reset, for a step that replaces the connection. -/
def reset? : Event → Option Nat
  | attached _ _ first => some first.connection.number
  | disconnected _ reset => some reset
  | _ => none

/-- The call and the request it draws a number for. -/
def requested? : Event → Option (Nat × Request Nat)
  | attached call _ first => some (call, first)
  | refreshBegan call request => some (call, request)
  | _ => none

/-- The snapshot that a request has built, served or not. -/
def built? : Event → Option Snapshot
  | ended _ request answer _ => Engine.built? request answer
  | _ => none

end Event

/-- The steps that can follow a situation. `standard` says whether the standard vocabulary is
among the keywords of every connection. -/
inductive Step (standard : Bool) : Situation → Event → Situation → Prop
  | beginConnect (s : Situation) (source : Nat) :
      Step standard s (.connectBegan s.begun source)
        { s with
          begun := s.begun + 1
          waiting := Function.update s.waiting s.begun (some (.keywords source)) }
  | attach {s : Situation} {call source : Nat} {answer : Answer} {first : Request Nat}
      {engine : Engine Nat} (gathering : s.waiting call = some (.keywords source))
      (attached : s.engine.attach source (Vocabulary.collect standard answer) =
        (first, engine)) :
      Step standard s (.attached call answer first)
        { s with
          engine := engine
          waiting := Function.update s.waiting call (some (.firstBuild first)) }
  | disconnect (s : Situation) :
      Step standard s (.disconnected s.begun s.engine.nextNumber)
        { s with
          engine := s.engine.disconnect
          begun := s.begun + 1 }
  | beginRefresh {s : Situation} {request : Request Nat} {engine : Engine Nat}
      (started : s.engine.startRefresh = some (request, engine)) :
      Step standard s (.refreshBegan s.begun request)
        { engine := engine
          begun := s.begun + 1
          waiting := Function.update s.waiting s.begun (some (.refresh request)) }
  | ignoreRefresh {s : Situation} (disconnected : s.engine.startRefresh = none) :
      Step standard s (.refreshIgnored s.begun) { s with begun := s.begun + 1 }
  | finish {s : Situation} {call : Nat} {request : Request Nat} {answer : Answer}
      {outcome : BuildOutcome} {engine : Engine Nat}
      (building : s.building call = some request)
      (finished : s.engine.finish request answer = (outcome, engine)) :
      Step standard s (.ended call request answer outcome)
        { s with
          engine := engine
          waiting := Function.update s.waiting call none }

/-- Any number of steps from one situation to another, with their events, the latest first. -/
inductive Leads (standard : Bool) (s : Situation) : List Event → Situation → Prop
  | refl : Leads standard s [] s
  | step {past : List Event} {middle t : Situation} {event : Event}
      (before : Leads standard s past middle) (step : Step standard middle event t) :
      Leads standard s (event :: past) t

/-- What a new engine can come to, with the events on the way. -/
def Reached (standard : Bool) (past : List Event) (s : Situation) : Prop :=
  Leads standard {} past s

/-! ## A short run

A connect has attached source `7`, which advertises no keywords, and a refresh has begun before
the first build has ended. Later modules go on from here where they need a run to look at. -/

def plainConnection : Connection Nat := ⟨7, ∅, 1⟩

def twoRequests : Situation where
  engine := { connection := some plainConnection, drawn := 3, publishedNumber := 1 }
  begun := 2
  waiting :=
    Function.update (Function.update (fun _ => none) 0 (some (.firstBuild ⟨2, plainConnection⟩)))
      1 (some (.refresh ⟨3, plainConnection⟩))

theorem reached_twoRequests :
    Reached false
      [.refreshBegan 1 ⟨3, plainConnection⟩, .attached 0 (.error .closed) ⟨2, plainConnection⟩,
        .connectBegan 0 7] twoRequests := by
  have begun : Reached false [.connectBegan 0 7] _ := .step .refl (.beginConnect {} 7)
  have attached : Reached false (.attached 0 (.error .closed) ⟨2, plainConnection⟩ :: _) _ :=
    .step begun (.attach rfl rfl)
  have refreshing := Leads.step attached (.beginRefresh rfl)
  rwa [Function.update_idem] at refreshing

end Situation

end SqlAssist
