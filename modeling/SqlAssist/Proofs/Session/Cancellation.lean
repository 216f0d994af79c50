/-
# Cancels, ends and refreshes

Whatever happens on a session, and in whatever order, the past tells how each statement stands and
with what it can end. A cancel counts for the statements that began before it and have not ended,
and for no others; cancelling at once ends just these. A statement changes the engine only by ending
with an update count that its trigger wants a refresh for, and then starts one refresh of the
current connection; so completions survive every statement.
-/

import SqlAssist.Proofs.Session.Rehearsal

namespace SqlAssist.Traffic

variable {σ : Type} {first : Session σ} {past : List Event} {event : Event} {s t : Traffic σ}
  {id : Nat}

/-! ## How statements end -/

/-- Every end in the past was one that the past up to then allowed. -/
theorem Reached.of_ended {later earlier : List Event} {result : Except Error Outcome}
    (reached : Reached first (later ++ .ran id (some result) :: earlier) s) :
    Told id earlier ∧ result = .error .cancelled ∨
      answer? first.maxResult (sent id earlier) = some result ∧ result ≠ .error .cancelled := by
  obtain ⟨middle, after, before, step⟩ := reached.of_split
  have consistent := before.consistent
  obtain ⟨_, ⟨told, cancelled⟩ | ⟨answered, _⟩⟩ :=
    (consistent.tracked id).exists_ran_iff.mp ⟨after, step⟩
  · exact .inl ⟨told, Option.some.inj cancelled⟩
  · rw [consistent.setup.maxResult] at answered
    refine .inr ⟨answered.symm, ?_⟩
    rintro rfl
    exact answer?_ne_cancelled _ _ answered.symm

/-! ## What statements do to the engine -/

/-- A statement ended with an update count, and the trigger wants a refresh after such a
statement. -/
def CallsForRefresh (trigger : Sql.RefreshTrigger) (past : List Event) (event : Event) : Prop :=
  ∃ id sql affected, event = .ran id (some (.ok (.updateCount affected))) ∧
    .began id sql ∈ past ∧ trigger.shouldRefresh sql = true

theorem callsForRefresh_ran_iff {session : Session σ} {sql : String}
    {result : Option (Except Error Outcome)}
    (began : ∀ other, .began id other ∈ past ↔ other = sql) :
    CallsForRefresh session.trigger past (.ran id result) ↔
      session.callsForRefresh sql result = true := by
  constructor
  · rintro ⟨own, text, affected, same, written, wanted⟩
    cases same
    rwa [(began text).mp written] at wanted
  · intro calls
    match result with
    | some (.ok (.updateCount affected)) =>
        exact ⟨id, sql, affected, rfl, (began sql).mpr rfl, calls⟩
    | some (.ok (.resultSet _ _)) | some (.error _) | none => cases calls

theorem Reached.refreshed_or_untouched_of_ran (reached : Reached first past s)
    {result : Option (Except Error Outcome)} (step : Step s (.ran id result) t) :
    (CallsForRefresh first.trigger past (.ran id result) → s.session.Refreshed t.session) ∧
      (¬ CallsForRefresh first.trigger past (.ran id result) →
        s.session.Untouched t.session) := by
  have consistent := reached.consistent
  obtain ⟨⟨sql, began, effect⟩, _⟩ := (consistent.tracked id).of_ran step
  rw [← consistent.setup.trigger, callsForRefresh_ran_iff began, Bool.not_eq_true]
  exact ⟨effect.refreshed, effect.untouched⟩

/-- A step changes the engine only to start the refresh that it calls for. -/
theorem Reached.refreshed_or_untouched (reached : Reached first past s) (step : Step s event t)
    (own : event ≠ .elsewhere) :
    (CallsForRefresh first.trigger past event → s.session.Refreshed t.session) ∧
      (¬ CallsForRefresh first.trigger past event → s.session.Untouched t.session) := by
  cases step with
  | begin | come | cancel =>
      refine ⟨?_, fun _ => ⟨rfl, rfl⟩⟩
      rintro ⟨_, _, _, same, _⟩
      cases same
  | read running heard ends =>
      exact reached.refreshed_or_untouched_of_ran (.read running heard ends)
  | stop running told => exact reached.refreshed_or_untouched_of_ran (.stop running told)
  | elsewhere => exact absurd rfl own

/-- No statement has any effect on completions, not even one that starts a refresh. -/
theorem Reached.complete_eq (reached : Reached first past s) (step : Step s event t)
    (own : event ≠ .elsewhere) (buffer : String) (cursor : Nat) :
    t.session.complete buffer cursor = s.session.complete buffer cursor := by
  obtain ⟨refreshed, untouched⟩ := reached.refreshed_or_untouched step own
  have matching : t.session.matching = s.session.matching := by
    have after := (reached.consistent.step step).setup
    rw [after.matching, reached.consistent.setup.matching]
  have snapshot : t.session.engine.snapshot = s.session.engine.snapshot := by
    by_cases calls : CallsForRefresh first.trigger past event
    · exact (refreshed calls).snapshot
    · rw [(untouched calls).engine]
  simp only [Session.complete, Engine.complete, Engine.candidates, matching, snapshot]

/-! ## All together -/

/-- **Statements, cancels and refreshes.** On every session and after every past, a statement is
running if it began and has not ended, and the result of an ended one is final. What a running
statement can get when it is run next depends on what was sent to it and on the cancels since it
began alone: if there was one, it ends, either cancelled or with the result that was sent; if there
was none, it gets what was sent, which is never that it is cancelled. Every end in the past was of
that kind. The engine and its refreshes are left alone by all of this, except that a statement that
calls for a refresh starts one of the current connection; completions never change.

Cancelling at once ends the running statements as cancelled and changes nothing else, and it is one
way in which a cancel can go: it is called, and each running statement ends. The session of every
rehearsal is one that can be reached, with a past in which just what its commands asked for was
asked, in their order. A statement that runs when a rehearsal cancels is a cancelled one from then
on. -/
theorem statements_end_and_refresh :
    (∀ (first : Session σ) past s, Reached first past s →
      (∀ id,
        (s.session.running? id ≠ none ↔
          (∃ sql, .began id sql ∈ past) ∧ ∀ result, .ran id (some result) ∉ past) ∧
        (∀ result, s.session.result? id = some result ↔ .ran id (some result) ∈ past) ∧
        (∀ result, (∃ t, Step s (.ran id result) t) ↔
          s.session.running? id ≠ none ∧
            (Told id past ∧ result = some (.error .cancelled) ∨
              result = answer? first.maxResult (sent id past) ∧
                (Told id past → result ≠ none))) ∧
        ∀ later earlier result, past = later ++ .ran id (some result) :: earlier →
          Told id earlier ∧ result = .error .cancelled ∨
            answer? first.maxResult (sent id earlier) = some result ∧
              result ≠ .error .cancelled) ∧
      (∀ event t, Step s event t → event ≠ .elsewhere →
        (CallsForRefresh first.trigger past event → s.session.Refreshed t.session) ∧
        (¬ CallsForRefresh first.trigger past event → s.session.Untouched t.session) ∧
        ∀ buffer cursor,
          t.session.complete buffer cursor = s.session.complete buffer cursor) ∧
      s.session.Cancelled s.session.cancel ∧
      ∃ t, Leads s (s.session.running.map Event.stopped ++ [.cancelCalled]) t ∧
        t.session = s.session.cancel) ∧
    ∀ config source server (commands : List SessionRehearsal.Command),
      let opened := SessionRehearsal.connect config source server
      (∃ past s, Reached opened.session past s ∧
        s.session = (opened.performAll commands).session ∧
        calls past = commands.filterMap SessionRehearsal.Command.call?) ∧
      ∀ before after, commands = before ++ .cancel :: after →
        ∀ id, (opened.performAll before).session.running? id ≠ none →
          (opened.performAll commands).session.result? id = some (.error .cancelled) := by
  refine ⟨fun first past s reached => ⟨fun id => ?_, ?_, s.session.cancelled_cancel, ?_⟩, ?_⟩
  · refine ⟨reached.running?_ne_none_iff, fun _ => reached.result?_eq_some_iff, ?_, ?_⟩
    · intro result
      rw [← reached.consistent.setup.maxResult]
      exact (reached.consistent.tracked id).exists_ran_iff
    · rintro later earlier result rfl
      exact reached.of_ended
  · intro event t step own
    obtain ⟨refreshed, untouched⟩ := reached.refreshed_or_untouched step own
    exact ⟨refreshed, untouched, reached.complete_eq step own⟩
  · obtain ⟨t, leads, session, _⟩ := reached.leads_cancel
    exact ⟨t, leads, session⟩
  · intro config source server commands opened
    have start := SessionRehearsal.followed_connect config source server
    constructor
    · obtain ⟨past, ⟨s, reached, session, _⟩, asked⟩ := start.performAll commands
      rw [List.append_nil] at reached
      exact ⟨past, s, reached, session, asked⟩
    · rintro before after rfl id running
      obtain ⟨past, followed, _⟩ := start.performAll before
      rw [SessionRehearsal.performAll_append]
      exact followed.result?_of_cancel running after

/-- The first statement fails on the server just after a cancel, so it can end in two ways. The
second began after the cancel: it can only end as it was answered, and calls for a refresh. To
cancel at once ends these two and no other. And a rehearsed statement that the server never answers
is a cancelled one after the cancel, whatever the rehearsal goes on with. -/
theorem statements_end_and_refresh_dropped :
    let first : Session Nat :=
      { engine := { connection := some ⟨7, ∅, 1⟩, drawn := 2, publishedNumber := 1 } }
    let opened := SessionRehearsal.connect {} { dialect := .postgres } {}
    (∃ past s, Reached first past s ∧
      (∀ result, (∃ t, Step s (.ran 0 result) t) ↔
        result = some (.error .cancelled) ∨
          result = some (.error (.database .poolTimedOut))) ∧
      (∀ result, (∃ t, Step s (.ran 1 result) t) ↔ result = some (.ok (.updateCount 3))) ∧
      (∀ t, Step s (.ran 1 (some (.ok (.updateCount 3)))) t → s.session.Refreshed t.session) ∧
      ∀ id, s.session.cancel.result? id = some (.error .cancelled) ↔ id = 0 ∨ id = 1) ∧
    ∀ later,
      (opened.performAll ([.start "slow" { sql := "SELECT 1", stall := some .prepare }] ++
        .cancel :: later)).session.result? 0 = some (.error .cancelled) := by
  intro first opened
  constructor
  · -- Only the past of the run matters from here on, so the session it leads to gets a name.
    obtain ⟨s, reached⟩ : ∃ s : Traffic Nat, Reached first
        [.came 1 (.done 3), .came 1 (.prepared []), .came 0 (.failed .poolTimedOut),
          .began 1 "DROP TABLE orders", .cancelCalled, .began 0 "SELECT 1"] s := by
      have started : Leads { session := first } [.began 0 "SELECT 1"] _ :=
        .step .refl (.begin _ _)
      have dropping := Leads.step (.step started (.cancel _)) (.begin _ "DROP TABLE orders")
      have failed := Leads.step dropping (@Step.come _ _ 0 (by simp) (.failed .poolTimedOut))
      have prepared := Leads.step failed (@Step.come _ _ 1 (by simp) (.prepared []))
      exact ⟨_, rfl, rfl, .step prepared (@Step.come _ _ 1 (by simp) (.done 3))⟩
    obtain ⟨ends, effects, cancelled, _⟩ := statements_end_and_refresh.1 first _ s reached
    refine ⟨_, s, reached, fun result => ?_, fun result => ?_, fun t step => ?_, fun id => ?_⟩
    · have running := (ends 0).1.mpr ⟨⟨"SELECT 1", by simp⟩, by simp⟩
      refine ((ends 0).2.2.1 result).trans ⟨?_, ?_⟩
      · rintro ⟨_, ⟨_, rfl⟩ | ⟨rfl, _⟩⟩
        · exact .inl rfl
        · exact .inr rfl
      · rintro (rfl | rfl)
        · exact ⟨running, .inl ⟨by simp [told_cons_iff, not_told_nil], rfl⟩⟩
        · exact ⟨running, .inr ⟨rfl, by simp⟩⟩
    · have running := (ends 1).1.mpr ⟨⟨"DROP TABLE orders", by simp⟩, by simp⟩
      refine ((ends 1).2.2.1 result).trans ⟨?_, ?_⟩
      · rintro ⟨_, ⟨told, _⟩ | ⟨rfl, _⟩⟩
        · simp [told_cons_iff, not_told_nil] at told
        · rfl
      · rintro rfl
        exact ⟨running, .inr ⟨rfl, by simp⟩⟩
    · exact (effects _ t step (by simp)).1 ⟨1, "DROP TABLE orders", 3, rfl, by simp, rfl⟩
    · have running : s.session.running? id ≠ none ↔ id = 0 ∨ id = 1 := by
        rw [(ends id).1]
        simp [or_comm, exists_or]
      constructor
      · intro result
        by_contra other
        have gone := not_not.mp (mt running.mp other)
        rw [cancelled.others id gone, (ends id).2.1] at result
        simp at result
      · exact fun own => cancelled.ended id (running.mpr own)
  · intro later
    have slow : (opened.performAll
        [.start "slow" { sql := "SELECT 1", stall := some .prepare }]).session.running? 0 =
          some ⟨0, "SELECT 1", .preparing⟩ := by decide
    refine ((@statements_end_and_refresh Nat).2 {} { dialect := .postgres } {} _).2 _ later rfl 0 ?_
    rw [slow]
    exact Option.some_ne_none _

end SqlAssist.Traffic
