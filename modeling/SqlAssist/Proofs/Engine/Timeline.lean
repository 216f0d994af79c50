/-
# Timelines take the steps of an engine

A timeline decides by gates and deadlines which fetch ends next and with what answer. Whatever it
decides, its engine goes through steps that any run of calls may take: the tasks that wait on the
timeline are calls under way, in some order, and each operation of the timeline is a number of
steps of those calls. So what holds of every situation that can be reached holds of the engine of
every timeline, and of every rehearsal.
-/

import Mathlib.Data.List.Perm.Basic
import SqlAssist.Engine.Rehearsal
import SqlAssist.Proofs.Engine.Numbers

namespace SqlAssist

open Timeline (Purpose)

/-! ## Calls that wait -/

namespace Situation

variable {s t : Situation} {call : Nat} {purpose next : Purpose} {purposes rest : List Purpose}

/-- There is a call for each of these purposes, in any order. -/
def Awaits (s : Situation) (purposes : List Purpose) : Prop :=
  ∃ calls : List (Nat × Purpose), (calls.map (·.1)).Nodup ∧
    (∀ entry ∈ calls, s.waiting entry.1 = some entry.2) ∧ (calls.map (·.2)).Perm purposes

theorem Awaits.nil (s : Situation) : s.Awaits [] :=
  ⟨[], by simp, by simp, .nil⟩

theorem Awaits.perm (awaits : s.Awaits purposes) (same : purposes.Perm rest) : s.Awaits rest := by
  obtain ⟨calls, distinct, waits, purposes⟩ := awaits
  exact ⟨calls, distinct, waits, purposes.trans same⟩

/-- A call begins to wait. -/
theorem Awaits.cons (awaits : s.Awaits purposes) (idle : s.waiting call = none)
    (frame : ∀ other, other ≠ call → t.waiting other = s.waiting other)
    (waits : t.waiting call = some purpose) : t.Awaits (purpose :: purposes) := by
  obtain ⟨calls, distinct, waiting, same⟩ := awaits
  have other : ∀ entry ∈ calls, entry.1 ≠ call := by
    rintro entry member rfl
    rw [waiting entry member] at idle
    cases idle
  refine ⟨(call, purpose) :: calls, ?_, ?_, same.cons purpose⟩
  · rw [List.map_cons, List.nodup_cons]
    refine ⟨?_, distinct⟩
    intro member
    obtain ⟨entry, listed, own⟩ := List.mem_map.mp member
    exact other entry listed own
  · intro entry member
    rcases List.mem_cons.mp member with rfl | listed
    · exact waits
    · rw [frame entry.1 (other entry listed)]
      exact waiting entry listed

/-- One of the calls goes on, and the others keep waiting. -/
theorem Awaits.take (awaits : s.Awaits (purpose :: rest)) :
    ∃ call, s.waiting call = some purpose ∧
      ∀ t : Situation, (∀ other, other ≠ call → t.waiting other = s.waiting other) →
        t.Awaits rest ∧ ∀ next, t.waiting call = some next → t.Awaits (next :: rest) := by
  obtain ⟨calls, distinct, waiting, same⟩ := awaits
  obtain ⟨⟨call, own⟩, member, rfl⟩ := List.mem_map.mp (same.mem_iff.mpr List.mem_cons_self)
  obtain ⟨before, after, rfl⟩ := List.append_of_mem member
  have moved : (before ++ (call, own) :: after).Perm ((call, own) :: (before ++ after)) :=
    List.perm_middle
  have others : ((before ++ after).map (·.2)).Perm rest :=
    ((moved.map (·.2)).symm.trans same).cons_inv
  obtain ⟨unlisted, remaining⟩ := List.nodup_cons.mp ((moved.map (·.1)).nodup_iff.mp distinct)
  refine ⟨call, waiting _ member, fun t frame => ?_⟩
  have still : ∀ entry ∈ before ++ after, t.waiting entry.1 = some entry.2 := by
    intro entry listed
    have differs : entry.1 ≠ call := by
      intro same
      exact unlisted (List.mem_map.mpr ⟨entry, listed, same⟩)
    rw [frame entry.1 differs]
    exact waiting entry (moved.mem_iff.mpr (List.mem_cons_of_mem _ listed))
  refine ⟨⟨before ++ after, remaining, still, others⟩, fun next waits => ?_⟩
  refine ⟨(call, next) :: (before ++ after), List.nodup_cons.mpr ⟨unlisted, remaining⟩, ?_,
    others.cons next⟩
  intro entry listed
  rcases List.mem_cons.mp listed with rfl | listed
  · exact waits
  · exact still entry listed

/-- Steps have led to this engine, with a call for each of these purposes. -/
def Underway (standard : Bool) (engine : Engine Nat) (purposes : List Purpose) : Prop :=
  ∃ past s, Reached standard past s ∧ s.engine = engine ∧ s.Awaits purposes

variable {standard : Bool} {engine : Engine Nat} {source : Nat} {request : Request Nat}

theorem Underway.perm (underway : Underway standard engine purposes)
    (same : purposes.Perm rest) : Underway standard engine rest := by
  obtain ⟨past, s, reached, agrees, awaits⟩ := underway
  exact ⟨past, s, reached, agrees, awaits.perm same⟩

theorem Underway.finish (underway : Underway standard engine (purpose :: rest))
    (waits : purpose.request? = some request) (answer : Answer) :
    Underway standard (engine.finish request answer).2 rest := by
  obtain ⟨past, s, reached, rfl, awaits⟩ := underway
  obtain ⟨call, own, others⟩ := awaits.take
  have building : s.building call = some request := by simp [Situation.building, own, waits]
  have step : Step standard s (.ended call request answer _) _ := .finish building rfl
  exact ⟨_, _, .step reached step, rfl,
    (others _ fun other differs => step.waiting_of_ne differs).1⟩

theorem Underway.attach (underway : Underway standard engine (.keywords source :: rest))
    (answer : Answer) :
    let attached := engine.attach source (Vocabulary.collect standard answer)
    Underway standard attached.2 (.firstBuild attached.1 :: rest) := by
  obtain ⟨past, s, reached, rfl, awaits⟩ := underway
  obtain ⟨call, own, others⟩ := awaits.take
  have step : Step standard s (.attached call answer _) _ := .attach own rfl
  refine ⟨_, _, .step reached step, rfl, ?_⟩
  apply (others _ fun other differs => step.waiting_of_ne differs).2
  exact Function.update_self ..

theorem Underway.beginConnect (underway : Underway standard engine purposes) (source : Nat) :
    Underway standard engine (.keywords source :: purposes) := by
  obtain ⟨past, s, reached, rfl, awaits⟩ := underway
  have step : Step standard s _ _ := .beginConnect s source
  refine ⟨_, _, .step reached step, rfl, ?_⟩
  apply awaits.cons (reached.tracked.idle s.begun (Nat.le_refl _))
  · exact fun other differs => step.waiting_of_ne differs
  · exact Function.update_self ..

theorem Underway.beginRefresh (underway : Underway standard engine purposes)
    {after : Engine Nat} (started : engine.startRefresh = some (request, after)) :
    Underway standard after (.refresh request :: purposes) := by
  obtain ⟨past, s, reached, rfl, awaits⟩ := underway
  have step : Step standard s _ _ := .beginRefresh started
  refine ⟨_, _, .step reached step, rfl, ?_⟩
  apply awaits.cons (reached.tracked.idle s.begun (Nat.le_refl _))
  · exact fun other differs => step.waiting_of_ne differs
  · exact Function.update_self ..

theorem Underway.disconnect (underway : Underway standard engine purposes) :
    Underway standard engine.disconnect purposes := by
  obtain ⟨past, s, reached, rfl, awaits⟩ := underway
  obtain ⟨calls, distinct, waiting, same⟩ := awaits
  exact ⟨_, _, .step reached (.disconnect s), rfl, calls, distinct, waiting, same⟩

end Situation

/-! ## Operations of a timeline -/

namespace Timeline

variable {line after : Timeline} {task source : Nat} {purpose : Purpose} {aside : List Purpose}
  {request : Request Nat}

/-- The engine of a timeline has gone through steps, and the tasks that wait on the timeline are
calls under way. So are the tasks `aside`, which have been taken out of the line and are about to
go on. -/
def Follows (line : Timeline) (aside : List Purpose) : Prop :=
  Situation.Underway line.options.standardKeywords line.engine
    (aside ++ line.waiting.map Waiting.purpose)

/-- Beginning a fetch leaves all but the gates and the tasks that wait as they were. The fetch has
its answer at once, or its task is the last of those that wait. -/
theorem beginFetch_cases {fetch : Fetch} {answer : Option Answer}
    (began : line.beginFetch task purpose fetch = (answer, after)) :
    after.engine = line.engine ∧ after.options = line.options ∧
      after.waiting.map Waiting.purpose =
        line.waiting.map Waiting.purpose ++ (if answer.isSome then [] else [purpose]) := by
  have entered : ∀ held, (if line.passes fetch.gate then line.enter fetch.gate else line) = held →
      held.engine = line.engine ∧ held.options = line.options ∧ held.waiting = line.waiting := by
    rintro held rfl
    split
    · cases fetch.gate <;> exact ⟨rfl, rfl, rfl⟩
    · exact ⟨rfl, rfl, rfl⟩
  simp only [beginFetch] at began
  generalize opened : (if line.passes fetch.gate then line.enter fetch.gate else line) = held
    at began
  obtain ⟨engine, options, waiting⟩ := entered held opened
  split at began
  · cases began
    simp [engine, options, waiting]
  · split at began
    · cases began
      simp [engine, options, waiting]
    · cases began
      simp [engine, options, waiting]

/-- A fetch begun for a task that goes on keeps the timeline on its way. -/
theorem Follows.beginFetch (follows : line.Follows (purpose :: aside)) {fetch : Fetch}
    {answer : Option Answer} (began : line.beginFetch task purpose fetch = (answer, after)) :
    after.Follows (if answer.isSome then purpose :: aside else aside) := by
  obtain ⟨engine, options, waiting⟩ := beginFetch_cases began
  unfold Follows at follows ⊢
  rw [engine, options, waiting]
  apply follows.perm
  cases answer with
  | some answer => simp
  | none =>
      rw [← List.append_assoc]
      exact (List.perm_append_singleton purpose _).symm

theorem Follows.fetchNames (follows : line.Follows (purpose :: aside)) {answer : Option Answer}
    (began : line.fetchNames task purpose source = (answer, after)) :
    after.Follows (if answer.isSome then purpose :: aside else aside) ∧
      after.engine = line.engine := by
  unfold Timeline.fetchNames at began
  cases known : line.sources[source]? with
  | none =>
      rw [known] at began
      cases began
      exact ⟨follows, rfl⟩
  | some found =>
      rw [known] at began
      have placed : Follows
          { line with sources := line.sources.setIfInBounds source found.nameFetch.2 }
          (purpose :: aside) := follows
      exact ⟨placed.beginFetch began, (beginFetch_cases began).1⟩

/-- Going on with a task is a step or two. -/
theorem Follows.resume (follows : line.Follows (purpose :: aside)) (task : Nat)
    (answer : Answer) : (line.resume task purpose answer).Follows aside := by
  cases purpose with
  | firstBuild request => exact Situation.Underway.finish follows rfl answer
  | refresh request => exact Situation.Underway.finish follows rfl answer
  | keywords source =>
      let attachment := line.engine.attach source
        (Vocabulary.collect line.options.standardKeywords answer)
      have attached : Follows { line with engine := attachment.2 }
          (.firstBuild attachment.1 :: aside) := Situation.Underway.attach follows answer
      simp only [Timeline.resume, Timeline.attach]
      split
      · next names after began =>
          have still := (attached.fetchNames began).1
          exact Situation.Underway.finish still rfl names
      · next after began => exact (attached.fetchNames began).1

/-! ## Whole operations -/

theorem Follows.beginConnect (follows : line.Follows []) (source : Nat) :
    (line.beginConnect source).2.Follows [] := by
  have started : Follows { line with begun := line.begun + 1 } [.keywords source] :=
    Situation.Underway.beginConnect follows source
  simp only [Timeline.beginConnect]
  split
  · next answer after began => exact (started.beginFetch began).resume line.begun answer
  · next after began => exact started.beginFetch began

theorem Follows.beginRefresh (follows : line.Follows [])
    (began : line.beginRefresh = some (task, after)) : after.Follows [] := by
  obtain ⟨⟨request, engine⟩, asked, made⟩ := Option.map_eq_some_iff.mp began
  have started : Follows { line with begun := line.begun + 1, engine := engine }
      [.refresh request] := Situation.Underway.beginRefresh follows asked
  dsimp only at made
  split at made
  · next answer _ fetched =>
      cases made
      exact Situation.Underway.finish (started.fetchNames fetched).1 rfl answer
  · next _ fetched =>
      cases made
      exact (started.fetchNames fetched).1

theorem Follows.disconnect (follows : line.Follows []) : line.disconnect.Follows [] :=
  Situation.Underway.disconnect follows

theorem Follows.release (follows : line.Follows []) (gate : String) :
    (line.release gate).Follows [] := by
  unfold Timeline.release
  cases line.waiting.findIdx? (fun waiting => waiting.gate == some gate) with
  | none => exact follows
  | some place =>
      cases stored : line.waiting[place]? with
      | none =>
          simp only [stored]
          exact follows
      | some found =>
          obtain ⟨inside, same⟩ := List.getElem?_eq_some_iff.mp stored
          simp only [stored]
          split
          · next answer _ =>
              have moved : (found :: line.waiting.eraseIdx place).Perm line.waiting :=
                same ▸ List.getElem_cons_eraseIdx_perm inside
              have taken : Follows { line with waiting := line.waiting.eraseIdx place }
                  [found.purpose] :=
                Situation.Underway.perm follows (moved.map Waiting.purpose).symm
              exact taken.resume found.task answer
          · have kept : (line.waiting.set place { found with gate := none }).map
                Waiting.purpose = line.waiting.map Waiting.purpose := by
              have bound : place < (line.waiting.map Waiting.purpose).length := by
                rwa [List.length_map]
              have purpose : (line.waiting.map Waiting.purpose)[place] = found.purpose := by
                rw [List.getElem_map, same]
              rw [List.map_set, ← purpose, List.set_getElem_self bound]
            unfold Follows
            rw [kept]
            exact follows

/-- Tasks that have been taken out of the line go on one after the other. -/
theorem Follows.resumeAll {answer : Answer} {tasks : List Waiting}
    (follows : line.Follows (tasks.map Waiting.purpose)) :
    (tasks.foldl (fun after waiting => after.resume waiting.task waiting.purpose answer)
      line).Follows [] := by
  induction tasks generalizing line with
  | nil => exact follows
  | cons waiting tasks ih => exact ih (follows.resume waiting.task answer)

theorem Follows.moveTo (follows : line.Follows []) (foreground : Option Nat) (time : Nat) :
    (line.moveTo foreground time).Follows [] := by
  apply Follows.resumeAll
  have due : (line.due foreground time).Perm (line.waiting.filter (·.deadline ≤ time)) := by
    simp only [Timeline.due, List.partition_eq_filter_filter]
    exact List.filter_append_perm _ _
  have all : (line.due foreground time ++ line.waiting.filter (time < ·.deadline)).Perm
      line.waiting := by
    have late : (fun waiting : Waiting => decide (time < waiting.deadline)) =
        fun waiting => !decide (waiting.deadline ≤ time) := by
      funext waiting
      rw [← decide_not]
      exact decide_eq_decide.mpr Nat.not_le.symm
    rw [late]
    exact (due.append_right _).trans (List.filter_append_perm _ _)
  apply Situation.Underway.perm follows
  have placed := (all.map Waiting.purpose).symm
  rwa [List.map_append] at placed

/-- A property that every operation of a timeline keeps. -/
structure Kept (holds : Timeline → Prop) : Prop where
  sources : ∀ {line : Timeline} sources, holds line → holds { line with sources := sources }
  beginConnect : ∀ {line : Timeline} source, holds line → holds (line.beginConnect source).2
  beginRefresh : ∀ {line after : Timeline} {task : Nat},
    line.beginRefresh = some (task, after) → holds line → holds after
  disconnect : ∀ {line : Timeline}, holds line → holds line.disconnect
  release : ∀ {line : Timeline} gate, holds line → holds (line.release gate)
  moveTo : ∀ {line : Timeline} foreground time, holds line → holds (line.moveTo foreground time)

theorem Kept.jumpUntil {holds : Timeline → Prop} (kept : Kept holds) (before : holds line)
    (task : Nat) (foreground : Option Nat) (jumps : Nat) :
    holds (Timeline.jumpUntil task foreground jumps line) := by
  induction jumps generalizing line with
  | zero => exact before
  | succ jumps ih =>
      unfold Timeline.jumpUntil
      split
      · exact before
      · split
        · exact before
        · exact ih (kept.moveTo foreground _ before)

theorem kept_follows : Kept (·.Follows []) where
  sources _ follows := follows
  beginConnect source follows := follows.beginConnect source
  beginRefresh began follows := follows.beginRefresh began
  disconnect follows := follows.disconnect
  release gate follows := follows.release gate
  moveTo foreground time follows := follows.moveTo foreground time

end Timeline

/-! ## Rehearsals -/

namespace Rehearsal

variable {stage after : Rehearsal} {holds : Timeline → Prop}

theorem kept_resolve (kept : Timeline.Kept holds) (before : holds stage.line) {source : SourceRef}
    {name : Option String} {place : Nat}
    (resolved : stage.resolve source name = some (place, after)) : holds after.line := by
  obtain ⟨⟨found, line⟩, known, made⟩ := Option.map_eq_some_iff.mp resolved
  cases made
  cases source with
  | named known₁ =>
      obtain ⟨_, _, same⟩ := Option.map_eq_some_iff.mp known
      cases same
      exact before
  | new source =>
      cases known
      exact kept.sources _ before

/-- What the operations of a timeline keep, every command keeps. -/
theorem kept_perform (kept : Timeline.Kept holds) (before : holds stage.line)
    (command : Command) : holds (stage.perform command).2.line := by
  cases command with
  | connect source name =>
      simp only [perform]
      split
      · exact before
      · next place after resolved =>
          exact kept.jumpUntil (kept.beginConnect place (kept_resolve kept before resolved)) _ _ _
  | beginConnect source name task =>
      simp only [perform]
      split
      · exact before
      · next place after resolved =>
          exact kept.beginConnect place (kept_resolve kept before resolved)
  | disconnect => exact kept.disconnect before
  | notify task =>
      simp only [perform]
      split
      · exact before
      · next number line began => exact kept.beginRefresh began before
  | awaitTask task =>
      simp only [perform]
      split
      · exact before
      · next number known => exact kept.jumpUntil before _ _ _
  | release gate => exact kept.release gate before
  | advance milliseconds => exact kept.moveTo _ _ before
  | notifyWithoutBackground | complete | completions | candidates | options => exact before
  | isFinished | keep | kept =>
      simp only [perform]
      split <;> exact before
  | insertTable source schema table =>
      simp only [perform]
      split
      · exact before
      · exact kept.sources _ before
  | dropTable source schema table =>
      simp only [perform]
      split
      · exact before
      · split
        · exact before
        · exact kept.sources _ before

/-- Carry out commands one after the other. -/
def performAll (stage : Rehearsal) (commands : List Command) : Rehearsal :=
  commands.foldl (fun stage command => (stage.perform command).2) stage

theorem kept_performAll (kept : Timeline.Kept holds) (before : holds stage.line)
    (commands : List Command) : holds (stage.performAll commands).line := by
  induction commands generalizing stage with
  | nil => exact before
  | cons command commands ih => exact ih (kept_perform kept before command)

/-- **Rehearsals take the steps of an engine.** Whatever is commanded, the engine is one that calls
in some order can lead to. -/
theorem exists_reached (options : EngineOptions) (commands : List Command) :
    let stage := performAll { line := { options := options } } commands
    ∃ past s, Situation.Reached stage.line.options.standardKeywords past s ∧
      s.engine = stage.line.engine := by
  have new : Timeline.Follows { options := options } [] := ⟨[], {}, .refl, rfl, .nil _⟩
  obtain ⟨past, s, reached, agrees, _⟩ :=
    @kept_performAll { line := { options := options } } _ Timeline.kept_follows new commands
  exact ⟨past, s, reached, agrees⟩

end Rehearsal

end SqlAssist
