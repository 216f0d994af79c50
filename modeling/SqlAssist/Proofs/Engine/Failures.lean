/-
# What makes connecting and refreshing fail

A call fails for the names it asks for and for nothing else: the fetch fails, or gives nothing in
time, or gives an empty name. Keywords are help that may be missing, and whatever a server lists as
keywords leaves no empty word behind.

A failure leaves the engine as it was. After a connect has failed its connection is therefore still
attached, and the first refresh of it that builds a set makes the engine serve. Sources that read a
catalog never give an empty name, so their calls can only fail because the source did.
-/

import SqlAssist.Proofs.Engine.Connecting
import SqlAssist.Proofs.Engine.Isolation
import SqlAssist.Proofs.Engine.Overtaking
import SqlAssist.Proofs.Session.Reflection

namespace SqlAssist

variable {reply : Option Answer}

/-! ## Replies -/

/-- No set can be built from what a fetch of names gives: it fails, gives nothing in time, or gives
an empty name. -/
def Unusable (reply : Option Answer) : Prop :=
  (∃ cause, reply = some (.error cause)) ∨ reply = none ∨
    ∃ names, reply = some (.ok names) ∧ "" ∈ names

/-- A word is a keyword of a connection whose fetch of keywords got this reply in time. -/
def EngineOptions.IsKeyword (options : EngineOptions) (reply : Option Answer) (word : String) :
    Prop :=
  options.standardKeywords = true ∧ word ∈ Vocabulary.standard ∨
    ∃ words, reply = some (.ok words) ∧ ∃ own ∈ words, own ≠ "" ∧ Text.upperCase own = word

/-- What sources that read a catalog reply to a fetch of names: a catalog in memory at once, and a
server unless it fails. Either can be too late. -/
inductive CatalogReply : Option Answer → Prop
  | late : CatalogReply none
  | memory (database : Database) (keywords : NameSet) :
      CatalogReply (Source.catalog database keywords).nameFetch.1.answer
  | server (reflection : Reflection) (server : Server) :
      CatalogReply (some (Reflection.perform (reflection.fetchNames server)).1)

theorem BuildOutcome.result_eq_error_iff {outcome : BuildOutcome} {cause : Error} :
    outcome.result = .error cause ↔ outcome = .failed cause := by
  cases outcome <;> simp [result]

theorem unusable_iff (options : EngineOptions) :
    Unusable reply ↔ (∃ cause, options.comesTo reply = .error cause) ∨
      ∃ names, options.comesTo reply = .ok names ∧ "" ∈ names := by
  cases reply <;> simp [Unusable, EngineOptions.comesTo]

theorem EngineOptions.mem_collect_iff (options : EngineOptions) {word : String} :
    word ∈ Vocabulary.collect options.standardKeywords (options.comesTo reply) ↔
      options.IsKeyword reply word := by
  rw [Vocabulary.mem_collect]
  cases reply <;> simp [IsKeyword, comesTo]

/-- A server that answers gives the names of a catalog. -/
theorem Reflection.exists_database_of_fetchNames {reflection : Reflection} {server : Server}
    {names : NameSet} (read : (perform (reflection.fetchNames server)).1 = .ok names) :
    ∃ database : Database, names = database.objectNames := by
  rw [perform_fetchNames] at read
  cases done : (perform (reflection.fetchDatabase server)).1 with
  | error cause =>
      rw [done] at read
      cases read
  | ok database =>
      rw [done] at read
      cases read
      exact ⟨database, rfl⟩

theorem CatalogReply.empty_notMem (catalog : CatalogReply reply) (options : EngineOptions)
    {names : NameSet} (given : options.comesTo reply = .ok names) : "" ∉ names := by
  cases catalog with
  | late => cases given
  | memory database keywords =>
      cases given
      exact database.empty_notMem_objectNames
  | server reflection server =>
      obtain ⟨database, rfl⟩ := Reflection.exists_database_of_fetchNames given
      exact database.empty_notMem_objectNames

/-! ## Requests -/

namespace Engine

variable {σ : Type} {engine after : Engine σ} {request : Request σ} {answer : Answer}
  {outcome : BuildOutcome}

theorem failed_iff_of_finish (finished : engine.finish request answer = (outcome, after))
    (cause : Error) : outcome = .failed cause ↔ build request answer = .error cause := by
  obtain ⟨cause, fails, rfl, _⟩ | ⟨snapshot, builds, _, rfl, _⟩ | ⟨snapshot, builds, _, rfl, _⟩ :=
    finish_cases finished
  · simp [fails]
  · simp [(built?_eq_some_iff.mp builds).1]
  · simp [(built?_eq_some_iff.mp builds).1]

/-- A request reports an error exactly if the reply to it is unusable. -/
theorem result_eq_error_iff (options : EngineOptions)
    (nonEmpty : "" ∉ request.connection.keywords)
    (finished : engine.finish request (options.comesTo reply) = (outcome, after)) :
    (∃ cause, outcome.result = .error cause) ↔ Unusable reply := by
  rw [unusable_iff options, ← build_eq_error_iff nonEmpty]
  simp only [BuildOutcome.result_eq_error_iff, failed_iff_of_finish finished]

/-- A request over the names of a catalog is not refused. -/
theorem ne_invalidArgument_of_catalog (options : EngineOptions)
    (nonEmpty : "" ∉ request.connection.keywords) (catalog : CatalogReply reply)
    (finished : engine.finish request (options.comesTo reply) = (outcome, after))
    (cause : ArgumentError) : outcome ≠ .failed (.invalidArgument cause) := by
  rw [ne_eq, failed_iff_of_finish finished]
  cases given : options.comesTo reply with
  | error failure => simp [build]
  | ok names =>
      obtain ⟨set, made⟩ := CandidateSet.exists_build_eq_ok_iff.mpr
        ⟨nonEmpty, catalog.empty_notMem options given⟩
      rw [build_ok_eq_ok_iff.mpr made]
      simp

end Engine

namespace Situation

variable {options : EngineOptions} {standard : Bool} {past later earlier : List Event}
  {event : Event} {s : Situation} {call : Nat} {request first : Request Nat} {answer : Answer}
  {outcome : BuildOutcome}

/-! ## Requests that have ended -/

theorem Reached.exists_step (reached : Reached standard past s) (member : event ∈ past) :
    ∃ before t u, Reached standard before t ∧ Step standard t event u := by
  obtain ⟨later, before, rfl⟩ := List.append_of_mem member
  obtain ⟨u, reached, _⟩ := reached.split
  cases reached with
  | @step _ t _ _ reached step => exact ⟨before, t, u, reached, step⟩

theorem Reached.finish_of_ended (reached : Reached standard past s)
    (ended : .ended call request answer outcome ∈ past) :
    "" ∉ request.connection.keywords ∧
      ∃ engine after : Engine Nat, engine.finish request answer = (outcome, after) := by
  have asked := (reached.tracked.of_ended ended).1
  obtain ⟨_, t, u, _, step⟩ := reached.exists_step ended
  exact ⟨reached.empty_notMem_keywords asked, t.engine, u.engine, (step.finish_eq rfl).2⟩

theorem Reached.ne_invalidArgument (reached : Reached standard past s)
    (ended : .ended call request (options.comesTo reply) outcome ∈ past)
    (catalog : CatalogReply reply) (cause : ArgumentError) :
    outcome ≠ .failed (.invalidArgument cause) := by
  obtain ⟨nonEmpty, _, _, finished⟩ := reached.finish_of_ended ended
  exact Engine.ne_invalidArgument_of_catalog options nonEmpty catalog finished cause

/-! ## Recovery -/

/-- A request is numbered above the reset of its connection. -/
theorem Reached.connection_number_lt (reached : Reached standard past s)
    (member : (call, request) ∈ requested past) : request.connection.number < request.number := by
  induction reached with
  | refl => simp [requested] at member
  | @step past middle t event before step ih =>
      have numbered := Reached.numbered before
      rcases requested_cons.mp member with asks | older
      · cases step with
        | attach gathering attached =>
            rw [Engine.attach_of_published_le numbered.published_le] at attached
            cases attached
            cases asks
            exact Nat.lt_succ_self _
        | beginRefresh started =>
            obtain ⟨connected, number, rfl⟩ := Engine.startRefresh_eq_some_iff.mp started
            cases asks
            have := Reached.connection_number before connected
            have := numbered.reset_le
            have := numbered.published_le
            omega
        | beginConnect | disconnect | ignoreRefresh | finish =>
            simp [Event.requested?] at asks
      · exact ih older

/-- Once a request of the current connection has built a set, a set is served. -/
theorem Reached.fresh_of_ended (reached : Reached standard past s)
    (ended : .ended call request answer outcome ∈ past)
    (connected : s.engine.connection = some request.connection)
    (succeeded : outcome.result = .ok ()) : s.engine.state = .fresh := by
  have above := reached.connection_number_lt (reached.tracked.of_ended ended).1
  have reset := reached.connection_number connected
  obtain ⟨_, _, _, finished⟩ := reached.finish_of_ended ended
  obtain ⟨snapshot, builds⟩ : ∃ snapshot, Engine.built? request answer = some snapshot := by
    rw [← Option.ne_none_iff_exists', ne_eq, Engine.built?_eq_none_iff]
    rintro ⟨cause, fails⟩
    rw [(Engine.failed_iff_of_finish finished cause).mpr fails] at succeeded
    cases succeeded
  have number := (Engine.built?_eq_some_iff.mp builds).2.1
  cases serves : s.engine.snapshot with
  | some snapshot => exact Engine.state_eq_fresh_iff.mpr ⟨snapshot, serves⟩
  | none =>
      have below := reached.snapshot_eq_none_iff.mp serves snapshot
        (mem_built.mpr ⟨call, request, answer, outcome, ended, builds⟩)
      omega

/-- A connected engine can be refreshed, and names without the empty one are served then. -/
theorem Reached.exists_refresh (reached : Reached standard past s) {connection : Connection Nat}
    (connected : s.engine.connection = some connection) {names : NameSet} (named : "" ∉ names) :
    ∃ request t u, request.connection = connection ∧
      Step standard s (.refreshBegan s.begun request) t ∧
      Step standard t (.ended s.begun request (.ok names) .published) u ∧
      u.engine.state = .fresh := by
  let request : Request Nat := ⟨s.engine.drawn + 1, connection⟩
  obtain ⟨t, begun, published⟩ : ∃ t, Step standard s (.refreshBegan s.begun request) t ∧
      t.engine.publishedNumber = s.engine.publishedNumber :=
    ⟨_, .beginRefresh (Engine.startRefresh_eq_some_iff.mpr ⟨connected, rfl, rfl⟩), rfl⟩
  have building : t.building s.begun = some request := begun.building_call reached.tracked.idle
  have nonEmpty : "" ∉ connection.keywords :=
    Reached.empty_notMem_keywords (.step reached begun) (requested_cons.mpr (.inl rfl))
  have newer : t.engine.publishedNumber < request.number := by
    rw [published]
    exact Nat.lt_succ_of_le reached.numbered.published_le
  cases finished : t.engine.finish request (.ok names) with
  | mk outcome after =>
      have ended : Step standard t _ _ := .finish building finished
      obtain ⟨cause, fails, _⟩ | ⟨snapshot, _, _, rfl, rfl⟩ | ⟨_, _, older, _⟩ :=
        Engine.finish_cases finished
      · have given := (Engine.build_eq_error_iff nonEmpty).mp ⟨cause, fails⟩
        simp [named] at given
      · exact ⟨request, t, _, rfl, begun, ended, Engine.state_eq_fresh_iff.mpr ⟨snapshot, rfl⟩⟩
      · omega

/-- A connection stays attached until the next reset. -/
theorem Reached.connection_of_attached
    (reached : Reached standard (later ++ .attached call answer first :: earlier) s)
    (keeps : ∀ event ∈ later, event.reset? = none) :
    s.engine.connection = some first.connection := by
  have member : (call, first) ∈ requested (later ++ .attached call answer first :: earlier) :=
    mem_requested.mpr (.inl ⟨answer, by simp⟩)
  apply reached.connection_of_reset_lt member
  rw [lastReset_append keeps, lastReset_cons_of_reset rfl]
  exact reached.connection_number_lt member

/-- The step in which a call fails leaves the engine as it was. -/
theorem Reached.of_failed (reached : Reached standard
      (later ++ .ended call first answer outcome :: past) s) {cause : Error}
    (failed : outcome.result = .error cause) :
    ∃ t u, Reached standard past t ∧ Step standard t (.ended call first answer outcome) u ∧
      Leads standard u later s ∧ u.engine = t.engine := by
  obtain ⟨u, ended, leads⟩ := reached.split
  cases ended with
  | @step _ t _ _ before step =>
      have same := (step.outcome_iff rfl).2.2.2 ⟨cause, BuildOutcome.result_eq_error_iff.mp failed⟩
      exact ⟨t, u, before, step, leads, same⟩

end Situation

/-! ## A connect on its own -/

/-- What the engine and the caller have after a connect during which no other task waits. -/
theorem Timeline.connect_outcome {line : Timeline} {place : Nat} {source : Source}
    (bounded : line.engine.publishedNumber ≤ line.engine.drawn) (idle : line.waiting = [])
    (unused : line.result? line.begun = none) (known : line.sources[place]? = some source) :
    let words := line.reply source.keywordFetch
    let names := (line.entered source.keywordFetch).reply source.nameFetch.1
    let final := (line.connect place).2
    ∃ result connection, final.result? (line.connect place).1 = some (.connect result) ∧
      ((∃ cause, result = .error cause) ↔ Unusable names) ∧
      final.engine.connection = some connection ∧ connection.source = place ∧
      (∀ word, word ∈ connection.keywords ↔ line.options.IsKeyword words word) ∧
      (final.engine.state = .stale ↔ Unusable names) ∧
      (CatalogReply names → ∀ cause, result ≠ .error (.invalidArgument cause)) := by
  intro words names final
  let keywords := Vocabulary.collect line.options.standardKeywords (line.options.comesTo words)
  let connection : Connection Nat := ⟨place, keywords, line.engine.drawn + 1⟩
  let first : Request Nat := ⟨line.engine.drawn + 2, connection⟩
  let attached : Engine Nat :=
    { connection := some connection
      drawn := line.engine.drawn + 2
      publishedNumber := line.engine.drawn + 1 }
  have nonEmpty : "" ∉ first.connection.keywords := Vocabulary.empty_notMem_collect _ _
  cases finished : attached.finish first (line.options.comesTo names) with
  | mk outcome ended =>
      obtain ⟨engine, result⟩ := connect_alone idle unused known
        (Engine.attach_of_published_le bounded place keywords) finished
      have fails := Engine.result_eq_error_iff line.options nonEmpty finished
      have ends : ended.connection = some connection ∧
          (ended.state = .stale ↔ ∃ cause, outcome.result = .error cause) := by
        obtain ⟨cause, _, rfl, rfl⟩ | ⟨snapshot, _, _, rfl, rfl⟩ | ⟨_, _, older, _⟩ :=
          Engine.finish_cases finished
        · exact ⟨rfl, by simp [Engine.state_eq_stale_iff, BuildOutcome.result, attached]⟩
        · exact ⟨rfl, by simp [Engine.state_eq_stale_iff, BuildOutcome.result]⟩
        · -- Nothing is published under the number of the first build before it ends.
          simp only [first, attached] at older
          omega
      rw [← engine] at ends
      refine ⟨outcome.result, connection, result, fails, ends.1, rfl, ?_, ends.2.trans fails, ?_⟩
      · exact fun word => line.options.mem_collect_iff
      · intro catalog cause
        rw [ne_eq, BuildOutcome.result_eq_error_iff]
        exact Engine.ne_invalidArgument_of_catalog line.options nonEmpty catalog finished cause

/-- **What can make connecting and refreshing fail.** A connect that has ended has failed if and
only if its fetch of names failed, gave nothing in time or gave an empty name, whatever became of
its fetch of keywords. Its keywords are the standard vocabulary, if that is wanted, and the words
that came in time. A failed connect changes nothing as it ends, and if nothing has replaced its
connection since, the connection is still attached, a refresh of it that has built a set makes the
engine fresh, and such a refresh is possible. With names read from a catalog no connect and no
refresh is refused for an empty name. The same is said of the result of a connect on any timeline
on which no other task waits. -/
theorem Situation.fails_only_for_names (options : EngineOptions) :
    (∀ later since earlier s call first words names outcome,
      Reached options.standardKeywords
          (later ++ .ended call first (options.comesTo names) outcome ::
            (since ++ .attached call (options.comesTo words) first :: earlier)) s →
        ((∃ cause, outcome.result = .error cause) ↔ Unusable names) ∧
        (∀ word, word ∈ first.connection.keywords ↔ options.IsKeyword words word) ∧
        (Unusable names → ∃ t u,
          Reached options.standardKeywords
            (since ++ .attached call (options.comesTo words) first :: earlier) t ∧
          Step options.standardKeywords t
            (.ended call first (options.comesTo names) outcome) u ∧
          Leads options.standardKeywords u later s ∧ u.engine = t.engine) ∧
        ((∀ event ∈ later ++ since, event.reset? = none) →
          s.engine.connection = some first.connection ∧
          (∀ call₁ request answer outcome₁, .ended call₁ request answer outcome₁ ∈ later →
            request.connection = first.connection → outcome₁.result = .ok () →
              s.engine.state = .fresh) ∧
          ∀ found, "" ∉ found → ∃ request t u, request.connection = first.connection ∧
            Step options.standardKeywords s (.refreshBegan s.begun request) t ∧
            Step options.standardKeywords t
              (.ended s.begun request (.ok found) .published) u ∧
            u.engine.state = .fresh)) ∧
    (∀ past s call request reply outcome, Reached options.standardKeywords past s →
      .ended call request (options.comesTo reply) outcome ∈ past → CatalogReply reply →
        ∀ cause, outcome ≠ .failed (.invalidArgument cause)) ∧
    ∀ commands place source,
      let line := (Rehearsal.performAll { line := { options := options } } commands).line
      line.waiting = [] → line.sources[place]? = some source →
        let words := line.reply source.keywordFetch
        let names := (line.entered source.keywordFetch).reply source.nameFetch.1
        let final := (line.connect place).2
        ∃ result connection, final.result? (line.connect place).1 = some (.connect result) ∧
          ((∃ cause, result = .error cause) ↔ Unusable names) ∧
          final.engine.connection = some connection ∧ connection.source = place ∧
          (∀ word, word ∈ connection.keywords ↔ options.IsKeyword words word) ∧
          (final.engine.state = .stale ↔ Unusable names) ∧
          (CatalogReply names → ∀ cause, result ≠ .error (.invalidArgument cause)) := by
  refine ⟨?_, ?_, ?_⟩
  · intro later since earlier s call first words names outcome reached
    obtain ⟨nonEmpty, _, _, finished⟩ := reached.finish_of_ended
      (List.mem_append_right _ List.mem_cons_self)
    have fails := Engine.result_eq_error_iff options nonEmpty finished
    refine ⟨fails, fun word => ?_, fun unusable => ?_, fun keeps => ?_⟩
    · rw [reached.keywords_of_attached
        (List.mem_append_right _ (List.mem_cons_of_mem _ List.mem_append_cons_self))]
      exact options.mem_collect_iff
    · obtain ⟨cause, failed⟩ := fails.mpr unusable
      exact reached.of_failed failed
    · have connected : s.engine.connection = some first.connection := by
        rw [← List.cons_append, ← List.append_assoc] at reached
        refine reached.connection_of_attached fun event member => ?_
        rcases List.mem_append.mp member with recent | own
        · exact keeps event (List.mem_append_left _ recent)
        · rcases List.mem_cons.mp own with rfl | older
          · rfl
          · exact keeps event (List.mem_append_right _ older)
      refine ⟨connected, ?_, fun found named => reached.exists_refresh connected named⟩
      intro call₁ request answer outcome₁ ended same succeeded
      exact reached.fresh_of_ended (List.mem_append_left _ ended) (same ▸ connected) succeeded
  · intro past s call request reply outcome reached ended catalog cause
    exact reached.ne_invalidArgument ended catalog cause
  · intro commands place source line idle known
    have accounted : line.Accounted options :=
      @Rehearsal.kept_performAll { line := { options := options } } _
        (Timeline.kept_accounted options) ⟨rfl, by simp, by simp⟩ commands
    obtain ⟨past, s, reached, agrees⟩ := Rehearsal.exists_reached options commands
    have bounded : line.engine.publishedNumber ≤ line.engine.drawn :=
      agrees ▸ reached.numbered.published_le
    have ends := Timeline.connect_outcome bounded idle accounted.result?_begun known
    rwa [accounted.options] at ends

/-- A connect that has no names in time fails, and a refresh that was under way then still brings
the names of its connection. -/
theorem Situation.fails_only_for_names_recovered :
    let options : EngineOptions := { standardKeywords := false }
    ∃ later since earlier s outcome,
      Reached false
          (later ++ .ended 0 ⟨2, plainConnection⟩ (options.comesTo none) outcome ::
            (since ++ .attached 0 (.error .closed) ⟨2, plainConnection⟩ :: earlier)) s ∧
        (∃ cause, outcome.result = .error cause) ∧
        s.engine.connection = some plainConnection ∧ s.engine.state = .fresh := by
  intro options
  have late : Reached false (.ended 0 ⟨2, plainConnection⟩ (options.comesTo none) _ :: _) _ :=
    .step reached_twoRequests (.finish rfl rfl)
  have served : Reached false
      (.ended 1 ⟨3, plainConnection⟩ (.ok (NameSet.ofList ["orders"])) .published :: _) _ :=
    .step late (.finish rfl rfl)
  obtain ⟨fails, _, _, keeps⟩ := (fails_only_for_names options).1 [_]
    [.refreshBegan 1 ⟨3, plainConnection⟩] [.connectBegan 0 7] _ 0 _ (some (.error .closed)) none _
    served
  obtain ⟨attached, fresh, _⟩ := keeps (by simp [Event.reset?])
  exact ⟨[_], [_], [_], _, _, served, fails.mpr (.inr (.inl rfl)), attached,
    fresh 1 _ _ _ List.mem_cons_self rfl rfl⟩

end SqlAssist
