/-
# A connect on its own

A connect makes two fetches, one for keywords and one for names, and each of them is given up when
its time is over. As long as no other task waits, nothing but the clock can bring a fetch on that
does not have its answer at once, so what a fetch comes to is known when it begins. This module
follows the clock from deadline to deadline and finds what the connect has done to the engine when
it has ended.

The clock stops once the result of the task is there. This needs the number of a new task to be
unused, which holds because a task that goes on ends no other.
-/

import SqlAssist.Proofs.Engine.Timeline

namespace SqlAssist

/-- What a fetch comes to under a time limit: its reply, or a timeout if there is none in time. -/
def EngineOptions.comesTo (options : EngineOptions) (reply : Option Answer) : Answer :=
  reply.getD (.error (.timeout options.fetchTimeout))

/-- What a call reports of its request. Only a failure is an error. -/
def BuildOutcome.result : BuildOutcome → Except Error Unit
  | failed cause => .error cause
  | published | superseded => .ok ()

namespace Timeline

variable {options : EngineOptions} {line middle after : Timeline} {task place jumps : Nat}
  {purpose : Purpose}

/-! ## Numbers of tasks -/

/-- In between, no other task than this one has begun to wait or has ended, and no task has
begun. -/
structure Touches (task : Nat) (line after : Timeline) : Prop where
  options : after.options = line.options
  begun : after.begun = line.begun
  waiting : ∀ entry ∈ after.waiting, entry ∈ line.waiting ∨ entry.task = task
  results : ∀ entry ∈ after.results, entry ∈ line.results ∨ entry.1 = task

theorem Touches.of_eq (options : after.options = line.options) (begun : after.begun = line.begun)
    (waiting : after.waiting = line.waiting) (results : after.results = line.results) :
    Touches task line after :=
  ⟨options, begun, fun _ member => .inl (waiting ▸ member), fun _ member => .inl (results ▸ member)⟩

theorem Touches.trans (first : Touches task line middle) (second : Touches task middle after) :
    Touches task line after where
  options := second.options.trans first.options
  begun := second.begun.trans first.begun
  waiting entry member := (second.waiting entry member).elim (first.waiting entry) .inr
  results entry member := (second.results entry member).elim (first.results entry) .inr

/-- The timeline once a fetch has begun: a gate that was open has closed behind it. -/
def entered (line : Timeline) (fetch : Fetch) : Timeline :=
  if line.passes fetch.gate then line.enter fetch.gate else line

/-- The reply of a fetch whose gate nobody opens later. -/
def reply (line : Timeline) (fetch : Fetch) : Option Answer :=
  if line.passes fetch.gate then fetch.answer else none

theorem entered_eq (line : Timeline) (fetch : Fetch) :
    line.entered fetch = { line with openGates := (line.entered fetch).openGates } := by
  unfold entered enter
  split
  · cases fetch.gate <;> rfl
  · rfl

@[simp]
theorem entered_options (line : Timeline) (fetch : Fetch) :
    (line.entered fetch).options = line.options := by
  rw [entered_eq]

@[simp]
theorem entered_engine (line : Timeline) (fetch : Fetch) :
    (line.entered fetch).engine = line.engine := by
  rw [entered_eq]

@[simp]
theorem entered_sources (line : Timeline) (fetch : Fetch) :
    (line.entered fetch).sources = line.sources := by
  rw [entered_eq]

@[simp]
theorem entered_waiting (line : Timeline) (fetch : Fetch) :
    (line.entered fetch).waiting = line.waiting := by
  rw [entered_eq]

@[simp]
theorem entered_results (line : Timeline) (fetch : Fetch) :
    (line.entered fetch).results = line.results := by
  rw [entered_eq]

@[simp]
theorem entered_begun (line : Timeline) (fetch : Fetch) :
    (line.entered fetch).begun = line.begun := by
  rw [entered_eq]

/-- A fetch has at once what it comes to, or it waits for an answer that it does not get. -/
theorem beginFetch_eq (line : Timeline) (task : Nat) (purpose : Purpose) (fetch : Fetch) :
    line.beginFetch task purpose fetch =
        (some (line.options.comesTo (line.reply fetch)), line.entered fetch) ∨
      line.reply fetch = none ∧ ∃ gate deadline, line.beginFetch task purpose fetch =
        (none, { line.entered fetch with
          waiting := line.waiting ++ [⟨task, purpose, gate, fetch.answer, deadline⟩] }) := by
  cases replied : line.reply fetch with
  | some answer =>
      left
      unfold reply at replied
      split at replied
      · next passed =>
          simp only [beginFetch, entered, passed, replied]
          rfl
      · cases replied
  | none =>
      have nothing : ∀ answer, ¬ (line.passes fetch.gate = true ∧ fetch.answer = some answer) := by
        rintro answer ⟨passed, answered⟩
        simp [reply, passed, answered] at replied
      simp only [beginFetch]
      split
      · next answer passed answered => exact absurd ⟨passed, answered⟩ (nothing answer)
      · split
        · exact .inl rfl
        · rw [← entered_waiting line fetch]
          exact .inr ⟨trivial, _, _, rfl⟩

theorem Touches.beginFetch (line : Timeline) (task : Nat) (purpose : Purpose) (fetch : Fetch) :
    Touches task line (line.beginFetch task purpose fetch).2 := by
  have entering : Touches task line (line.entered fetch) := .of_eq (by simp) (by simp) (by simp)
    (by simp)
  obtain began | ⟨_, gate, deadline, began⟩ := beginFetch_eq line task purpose fetch
  · rw [began]
    exact entering
  · rw [began]
    refine ⟨entering.options, entering.begun, fun entry member => ?_, entering.results⟩
    rcases List.mem_append.mp member with before | own
    · exact .inl before
    · exact .inr (by rw [List.mem_singleton.mp own])

/-- A fetch of names is that of its source; a source that is not there is closed. -/
theorem fetchNames_eq (line : Timeline) (task : Nat) (purpose : Purpose) (place : Nat) :
    ∃ fetch sources,
      (∀ source, line.sources[place]? = some source → fetch = source.nameFetch.1) ∧
        line.fetchNames task purpose place =
          { line with sources := sources }.beginFetch task purpose fetch := by
  unfold fetchNames
  cases line.sources[place]? with
  | none => exact ⟨{ answer := some (.error .closed) }, line.sources, by simp, rfl⟩
  | some source => exact ⟨source.nameFetch.1, _, by simp, rfl⟩

theorem Touches.fetchNames (line : Timeline) (task : Nat) (purpose : Purpose) (place : Nat) :
    Touches task line (line.fetchNames task purpose place).2 := by
  obtain ⟨fetch, sources, _, began⟩ := fetchNames_eq line task purpose place
  have placed : Touches task line { line with sources := sources } := .of_eq rfl rfl rfl rfl
  rw [began]
  exact placed.trans (.beginFetch ..)

theorem Touches.endTask (line : Timeline) (task : Nat) (engine : Engine Nat)
    (result : TaskResult) :
    Touches task line ({ line with engine := engine }.endTask task result) where
  options := rfl
  begun := rfl
  waiting _ member := .inl member
  results entry member := by
    rcases List.mem_cons.mp member with rfl | before
    · exact .inr rfl
    · exact .inl before

/-- Go on with a task whose fetch has its answer at once. -/
def goOn (next : Timeline → Answer → Timeline) (fetched : Option Answer × Timeline) : Timeline :=
  fetched.1.elim fetched.2 (next fetched.2)

theorem attach_eq (line : Timeline) (task place : Nat) {answer : Answer} {request : Request Nat}
    {engine : Engine Nat}
    (attached : line.engine.attach place
      (Vocabulary.collect line.options.standardKeywords answer) = (request, engine)) :
    ∃ fetch sources,
      (∀ source, line.sources[place]? = some source → fetch = source.nameFetch.1) ∧
        line.attach task place answer =
          goOn (·.endFirstBuild task request)
            ({ line with engine := engine, sources := sources }.beginFetch task
              (.firstBuild request) fetch) := by
  obtain ⟨fetch, sources, known, fetched⟩ :=
    fetchNames_eq { line with engine := engine } task (.firstBuild request) place
  refine ⟨fetch, sources, known, ?_⟩
  simp only [attach, attached, fetched]
  split
  · next began => simp [goOn, began]
  · next began => simp [goOn, began]

theorem beginConnect_eq (line : Timeline) (place : Nat) :
    ∃ fetch, (∀ source, line.sources[place]? = some source → fetch = source.keywordFetch) ∧
      line.beginConnect place =
        (line.begun, goOn (·.attach line.begun place)
          ({ line with begun := line.begun + 1 }.beginFetch line.begun (.keywords place)
            fetch)) := by
  cases known : line.sources[place]? with
  | none =>
      refine ⟨{ answer := some (.error .closed) }, by simp, ?_⟩
      simp only [beginConnect, known]
      split
      · next began => simp [goOn, began]
      · next began => simp [goOn, began]
  | some source =>
      refine ⟨source.keywordFetch, by simp, ?_⟩
      simp only [beginConnect, known]
      split
      · next began => simp [goOn, began]
      · next began => simp [goOn, began]

theorem Touches.goOn {fetched : Option Answer × Timeline} (fetching : Touches task line fetched.2)
    {next : Timeline → Answer → Timeline}
    (goes : ∀ after answer, Touches task after (next after answer)) :
    Touches task line (goOn next fetched) := by
  obtain ⟨answer, after⟩ := fetched
  cases answer with
  | none => exact fetching
  | some answer => exact fetching.trans (goes after answer)

theorem Touches.attach (line : Timeline) (task place : Nat) (answer : Answer) :
    Touches task line (line.attach task place answer) := by
  cases attached : line.engine.attach place
      (Vocabulary.collect line.options.standardKeywords answer) with
  | mk request engine =>
      obtain ⟨fetch, sources, _, began⟩ := attach_eq line task place attached
      have placed : Touches task line { line with engine := engine, sources := sources } :=
        .of_eq rfl rfl rfl rfl
      rw [began]
      exact (placed.trans (.beginFetch ..)).goOn fun after answer => .endTask ..

/-- Going on with a task touches no other. -/
theorem Touches.resume (line : Timeline) (task : Nat) (purpose : Purpose) (answer : Answer) :
    Touches task line (line.resume task purpose answer) := by
  cases purpose with
  | firstBuild request => exact .endTask ..
  | refresh request => exact .endTask ..
  | keywords source => exact .attach ..

/-- Every task that waits or has ended has a number that was given out, and the options are those
of the beginning. -/
structure Accounted (options : EngineOptions) (line : Timeline) : Prop where
  options : line.options = options
  waiting : ∀ entry ∈ line.waiting, entry.task < line.begun
  results : ∀ entry ∈ line.results, entry.1 < line.begun

theorem Accounted.touches (accounted : line.Accounted options) (given : task < line.begun)
    (touches : Touches task line after) : after.Accounted options where
  options := touches.options.trans accounted.options
  waiting entry member := by
    rw [touches.begun]
    rcases touches.waiting entry member with before | own
    · exact accounted.waiting entry before
    · exact own ▸ given
  results entry member := by
    rw [touches.begun]
    rcases touches.results entry member with before | own
    · exact accounted.results entry before
    · exact own ▸ given

theorem Accounted.begin (accounted : line.Accounted options) (engine : Engine Nat) :
    Accounted options { line with begun := line.begun + 1, engine := engine } where
  options := accounted.options
  waiting entry member := Nat.lt_succ_of_lt (accounted.waiting entry member)
  results entry member := Nat.lt_succ_of_lt (accounted.results entry member)

/-- The number of a new task has no result. -/
theorem Accounted.result?_begun (accounted : line.Accounted options) :
    line.result? line.begun = none := by
  rw [result?, List.lookup_eq_none_iff]
  intro entry member
  have := accounted.results entry member
  simp
  omega

theorem Accounted.beginConnect (accounted : line.Accounted options) (place : Nat) :
    (line.beginConnect place).2.Accounted options := by
  obtain ⟨fetch, _, began⟩ := beginConnect_eq line place
  rw [began]
  have fetching := Touches.beginFetch { line with begun := line.begun + 1 } line.begun
    (.keywords place) fetch
  exact (accounted.begin line.engine).touches (Nat.lt_succ_self _)
    (fetching.goOn fun after answer => .attach after line.begun place answer)

theorem Accounted.beginRefresh (accounted : line.Accounted options)
    (began : line.beginRefresh = some (task, after)) : after.Accounted options := by
  obtain ⟨⟨request, engine⟩, _, made⟩ := Option.map_eq_some_iff.mp began
  have goes : after = goOn (·.endRefresh line.begun request)
      ({ line with begun := line.begun + 1, engine := engine }.fetchNames line.begun
        (.refresh request) request.connection.source) := by
    dsimp only at made
    split at made
    · next fetched =>
        cases made
        simp [goOn, fetched]
    · next fetched =>
        cases made
        simp [goOn, fetched]
  rw [goes]
  have fetching := Touches.fetchNames { line with begun := line.begun + 1, engine := engine }
    line.begun (.refresh request) request.connection.source
  exact (accounted.begin engine).touches (Nat.lt_succ_self _)
    (fetching.goOn fun after answer => .endTask ..)

/-- Tasks that are taken out of the line go on one after the other. -/
theorem Accounted.resumeAll {answer : Answer} {tasks : List Waiting}
    (accounted : line.Accounted options) (given : ∀ entry ∈ tasks, entry.task < line.begun) :
    (tasks.foldl (fun after waiting => after.resume waiting.task waiting.purpose answer)
      line).Accounted options := by
  induction tasks generalizing line with
  | nil => exact accounted
  | cons entry tasks ih =>
      have touches := Touches.resume line entry.task entry.purpose answer
      refine ih (accounted.touches (given entry List.mem_cons_self) touches) ?_
      intro other member
      rw [touches.begun]
      exact given other (List.mem_cons_of_mem _ member)

theorem Accounted.moveTo (accounted : line.Accounted options) (foreground : Option Nat)
    (time : Nat) : (line.moveTo foreground time).Accounted options := by
  refine Accounted.resumeAll ⟨accounted.options, fun entry member => ?_, accounted.results⟩
    fun entry member => ?_
  · exact accounted.waiting entry (List.mem_of_mem_filter member)
  · simp only [due, List.partition_eq_filter_filter, List.mem_append, List.mem_filter] at member
    exact accounted.waiting entry (member.elim (·.1.1) (·.1.1))

theorem Accounted.release (accounted : line.Accounted options) (gate : String) :
    (line.release gate).Accounted options := by
  obtain ⟨options, waiting, results⟩ := accounted
  unfold Timeline.release
  split
  · exact ⟨options, waiting, results⟩
  · next place _ =>
      split
      · exact ⟨options, waiting, results⟩
      · next found stored =>
          have given := waiting found (List.mem_of_getElem? stored)
          split
          · have taken : Accounted _ { line with waiting := line.waiting.eraseIdx place } :=
              ⟨options, fun entry member => waiting entry (List.mem_of_mem_eraseIdx member),
                results⟩
            exact taken.touches given (.resume ..)
          · refine ⟨options, fun entry member => ?_, results⟩
            rcases List.mem_or_eq_of_mem_set member with before | rfl
            · exact waiting entry before
            · exact given

theorem kept_accounted (options : EngineOptions) : Kept (·.Accounted options) where
  sources _ accounted := ⟨accounted.options, accounted.waiting, accounted.results⟩
  beginConnect place accounted := accounted.beginConnect place
  beginRefresh began accounted := accounted.beginRefresh began
  disconnect accounted := ⟨accounted.options, accounted.waiting, accounted.results⟩
  release gate accounted := accounted.release gate
  moveTo foreground time accounted := accounted.moveTo foreground time

/-! ## A task that waits alone -/

section Alone

variable {entry : Waiting} {fetch : Fetch} {source : Source} {request : Request Nat}
  {foreground : Option Nat}

theorem jumpUntil_of_result (ended : (line.result? task).isSome = true) (jumps : Nat) :
    jumpUntil task foreground jumps line = line := by
  cases jumps with
  | zero => rfl
  | succ jumps => simp [jumpUntil, ended]

/-- A task that waits alone is given up at its deadline. -/
theorem jumpUntil_of_waiting (waits : line.waiting = [entry])
    (running : line.result? entry.task = none) (jumps : Nat) :
    jumpUntil entry.task (some entry.task) (jumps + 1) line =
      jumpUntil entry.task (some entry.task) jumps
        ({ line with clock := entry.deadline, waiting := [] }.resume entry.task entry.purpose
          line.timedOut) := by
  simp [jumpUntil, running, nextDeadline?, waits, moveTo, due]

theorem fetchesLeft_of_idle (idle : line.waiting = []) : line.fetchesLeft = 0 := by
  simp [fetchesLeft, idle]

theorem fetchesLeft_of_waiting (waits : line.waiting = [entry]) :
    line.fetchesLeft = entry.purpose.fetchesLeft := by
  simp [fetchesLeft, waits]

theorem fetchesLeft_goOn {next : Timeline → Answer → Timeline}
    (ends : ∀ {after : Timeline} {answer : Answer}, after.waiting = [] →
      (next after answer).waiting = []) (idle : line.waiting = []) (task : Nat)
    (purpose : Purpose) (fetch : Fetch) :
    (goOn next (line.beginFetch task purpose fetch)).fetchesLeft ≤ purpose.fetchesLeft := by
  obtain began | ⟨_, gate, deadline, began⟩ := beginFetch_eq line task purpose fetch
  · have idle₁ : (goOn next (line.beginFetch task purpose fetch)).waiting = [] := by
      rw [began]
      exact ends (by rw [entered_waiting, idle])
    rw [fetchesLeft_of_idle idle₁]
    exact Nat.zero_le _
  · rw [began]
    refine Nat.le_of_eq (@fetchesLeft_of_waiting _
      ⟨task, purpose, gate, fetch.answer, deadline⟩ ?_)
    simp [goOn, idle]

/-- A fetch that has ended is one fetch less to make. -/
theorem fetchesLeft_resume (idle : line.waiting = []) (task : Nat) (purpose : Purpose)
    (answer : Answer) : (line.resume task purpose answer).fetchesLeft < purpose.fetchesLeft := by
  cases purpose with
  | firstBuild request | refresh request => exact Nat.lt_one_iff.mpr (fetchesLeft_of_idle idle)
  | keywords place =>
      cases attached : line.engine.attach place
          (Vocabulary.collect line.options.standardKeywords answer) with
      | mk request engine =>
          obtain ⟨fetch, sources, _, began⟩ := attach_eq line task place attached
          rw [resume, began]
          refine Nat.lt_succ_of_le (fetchesLeft_goOn ?_ ?_ task (.firstBuild request) fetch)
          · exact fun idle => idle
          · exact idle

/-- The timeline after a fetch that was made with no other task waiting: only the clock and the
gate have moved. -/
structure Passed (line : Timeline) (fetch : Fetch) (after : Timeline) : Prop where
  options : after.options = line.options
  engine : after.engine = line.engine
  sources : after.sources = line.sources
  openGates : after.openGates = (line.entered fetch).openGates
  waiting : after.waiting = []
  results : after.results = line.results

theorem passes_congr (same : after.openGates = line.openGates) (gate : Option String) :
    after.passes gate = line.passes gate := by
  cases gate with
  | none => rfl
  | some gate => simp [passes, same]

theorem reply_congr (same : after.openGates = line.openGates) (fetch : Fetch) :
    after.reply fetch = line.reply fetch := by
  simp only [reply, passes_congr same]

theorem openGates_entered_congr (same : after.openGates = line.openGates) (fetch : Fetch) :
    (after.entered fetch).openGates = (line.entered fetch).openGates := by
  unfold entered enter
  rw [passes_congr same]
  split
  · cases fetch.gate <;> simp [same]
  · exact same

/-- A task that waits alone has what its fetch comes to, at once or at its deadline, and goes on
from there. -/
theorem exists_jumpUntil_goOn (idle : line.waiting = []) (running : line.result? task = none)
    {next : Timeline → Answer → Timeline}
    (resumes : ∀ after answer, after.resume task purpose answer = next after answer)
    (enough : (goOn next (line.beginFetch task purpose fetch)).fetchesLeft ≤ jumps) :
    ∃ after jumps₁, line.Passed fetch after ∧
      let resumed := next after (line.options.comesTo (line.reply fetch))
      jumpUntil task (some task) jumps (goOn next (line.beginFetch task purpose fetch)) =
          jumpUntil task (some task) jumps₁ resumed ∧
        resumed.fetchesLeft ≤ jumps₁ := by
  obtain began | ⟨unanswered, gate, deadline, began⟩ := beginFetch_eq line task purpose fetch
  · rw [began] at enough ⊢
    exact ⟨line.entered fetch, jumps, ⟨by simp, by simp, by simp, rfl, by simp [idle], by simp⟩,
      rfl, enough⟩
  · -- The clock jumps to the deadline of the only task that waits.
    let held : Timeline := { line.entered fetch with
      waiting := line.waiting ++ [⟨task, purpose, gate, fetch.answer, deadline⟩] }
    have goes : goOn next (line.beginFetch task purpose fetch) = held := by
      rw [began]
      rfl
    have waits : held.waiting = [⟨task, purpose, gate, fetch.answer, deadline⟩] := by
      simp [held, idle]
    have running₁ : held.result? task = none := by
      simpa [held, result?] using running
    have givenUp : held.timedOut = line.options.comesTo (line.reply fetch) := by
      simp [held, timedOut, unanswered, EngineOptions.comesTo]
    have fewer : (next { held with clock := deadline, waiting := [] } held.timedOut).fetchesLeft <
        purpose.fetchesLeft := by
      rw [← resumes]
      exact fetchesLeft_resume rfl ..
    rw [goes] at enough ⊢
    have bound : purpose.fetchesLeft ≤ jumps := fetchesLeft_of_waiting waits ▸ enough
    obtain ⟨jumps, rfl⟩ : ∃ before, jumps = before + 1 := ⟨jumps - 1, by omega⟩
    refine ⟨{ held with clock := deadline, waiting := [] }, jumps, ?_, ?_, ?_⟩
    · exact ⟨by simp [held], by simp [held], by simp [held], rfl, rfl, by simp [held]⟩
    · rw [jumpUntil_of_waiting waits running₁, givenUp, resumes]
    · rw [← givenUp]
      exact Nat.le_of_lt_succ (Nat.lt_of_lt_of_le fewer bound)

theorem endFirstBuild_eq {request : Request Nat} {answer : Answer} {outcome : BuildOutcome}
    {engine : Engine Nat} (finishes : line.engine.finish request answer = (outcome, engine)) :
    line.endFirstBuild task request answer =
      { line with engine := engine }.endTask task (.connect outcome.result) := by
  simp only [endFirstBuild, finishes]
  cases outcome <;> rfl

theorem result?_endTask (line : Timeline) (task : Nat) (result : TaskResult) :
    (line.endTask task result).result? task = some result := by
  simp [result?, endTask]

/-- The first build of a connect that waits alone ends with what its fetch comes to. -/
theorem jumpUntil_attach {answer : Answer} {first : Request Nat} {attached ended : Engine Nat}
    {outcome : BuildOutcome} (idle : line.waiting = []) (running : line.result? task = none)
    (known : line.sources[place]? = some source)
    (attaches : line.engine.attach place
      (Vocabulary.collect line.options.standardKeywords answer) = (first, attached))
    (finishes : attached.finish first
      (line.options.comesTo (line.reply source.nameFetch.1)) = (outcome, ended))
    (enough : (line.attach task place answer).fetchesLeft ≤ jumps) :
    let final := jumpUntil task (some task) jumps (line.attach task place answer)
    final.engine = ended ∧ final.result? task = some (.connect outcome.result) := by
  obtain ⟨fetch, sources, same, began⟩ := attach_eq line task place attaches
  obtain rfl := same source known
  let reading : Timeline := { line with engine := attached, sources := sources }
  rw [began] at enough ⊢
  obtain ⟨after, jumps₁, passed, read, _⟩ := @exists_jumpUntil_goOn reading task jumps
    (.firstBuild first) source.nameFetch.1 idle running (·.endFirstBuild task first)
    (fun _ _ => rfl) enough
  have replied : reading.reply source.nameFetch.1 = line.reply source.nameFetch.1 :=
    reply_congr rfl _
  have finishes₁ : after.engine.finish first
      (reading.options.comesTo (line.reply source.nameFetch.1)) = (outcome, ended) := by
    rw [passed.engine]
    exact finishes
  rw [read, replied, endFirstBuild_eq finishes₁]
  have result := result?_endTask { after with engine := ended } task (.connect outcome.result)
  rw [jumpUntil_of_result (Option.isSome_iff_exists.mpr ⟨_, result⟩)]
  exact ⟨rfl, result⟩

/-- If no other task waits, a connect attaches its source with the keywords that the first fetch
comes to, and its result tells how the request for what the second fetch comes to has ended. -/
theorem connect_alone {first : Request Nat} {attached ended : Engine Nat}
    {outcome : BuildOutcome} (idle : line.waiting = [])
    (unused : line.result? line.begun = none) (known : line.sources[place]? = some source)
    (attaches : line.engine.attach place (Vocabulary.collect line.options.standardKeywords
      (line.options.comesTo (line.reply source.keywordFetch))) = (first, attached))
    (finishes : attached.finish first (line.options.comesTo
      ((line.entered source.keywordFetch).reply source.nameFetch.1)) = (outcome, ended)) :
    (line.connect place).2.engine = ended ∧
      (line.connect place).2.result? (line.connect place).1 = some (.connect outcome.result) := by
  obtain ⟨fetch, same, began⟩ := beginConnect_eq line place
  obtain rfl := same source known
  let started : Timeline := { line with begun := line.begun + 1 }
  obtain ⟨after, jumps, passed, gathered, enough⟩ := @exists_jumpUntil_goOn
    started line.begun _ (.keywords place) source.keywordFetch idle unused
    (·.attach line.begun place) (fun _ _ => rfl) (Nat.le_refl _)
  have replied : started.reply source.keywordFetch = line.reply source.keywordFetch :=
    reply_congr rfl _
  have gates : after.openGates = (line.entered source.keywordFetch).openGates :=
    passed.openGates.trans (@openGates_entered_congr line started rfl _)
  have running : after.result? line.begun = none := by
    rw [result?, passed.results]
    exact unused
  have attaches₁ : after.engine.attach place (Vocabulary.collect after.options.standardKeywords
      (line.options.comesTo (line.reply source.keywordFetch))) = (first, attached) := by
    rw [passed.engine, passed.options]
    exact attaches
  have finishes₁ : attached.finish first
      (after.options.comesTo (after.reply source.nameFetch.1)) = (outcome, ended) := by
    rw [passed.options, reply_congr gates]
    exact finishes
  simp only [connect, began]
  rw [gathered]
  rw [replied] at enough ⊢
  exact jumpUntil_attach passed.waiting running (passed.sources ▸ known) attaches₁ finishes₁ enough

end Alone

end Timeline

end SqlAssist
