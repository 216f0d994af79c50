/-
# Statements and cancels in any order

Statements run at the same time on one session, servers send messages to them, and the session is
told to cancel; all this comes in any order. A message is taken up only when its statement is run
again, and a statement that was told to stop ends at the latest then. So a message and a cancel can
both be there when the statement is run, and either may win.

The past of a session is the list of what has happened to it, the latest first. What is proved here
is said in terms of the past alone: which statements are running, with what result a statement can
end, and when the engine is touched.
-/

import Mathlib.Data.List.Induction
import Mathlib.Data.List.Nodup
import Mathlib.Logic.Function.Basic
import SqlAssist.Proofs.Session.Answers

namespace SqlAssist

variable {σ : Type}

/-- A session with what has come for its statements. -/
structure Traffic (σ : Type) where
  session : Session σ
  /-- The number of statements begun; a statement is known by how many began before it. -/
  begun : Nat := 0
  /-- The messages that a statement has not taken up, in order. -/
  unread : Nat → List ServerMessage := fun _ => []
  /-- The rows that a statement has counted. -/
  rows : Nat → List Row := fun _ => []
  /-- Whether a statement was told to stop. -/
  told : Nat → Bool := fun _ => false

namespace Traffic

/-- What happens to a session. -/
inductive Event where
  | began (id : Nat) (sql : String)
  | came (id : Nat) (message : ServerMessage)
  | cancelCalled
  /-- A statement was run as far as it goes; the result is there if it ended. -/
  | ran (id : Nat) (result : Option (Except Error Outcome))
  /-- Something happened to the engine that was no statement's doing. -/
  | elsewhere

/-- What is asked of a session. -/
inductive Call where
  | begin (sql : String)
  | cancel

/-- The call that has happened, if the event is one. -/
def Event.call? : Event → Option Call
  | .began _ sql => some (.begin sql)
  | .cancelCalled => some .cancel
  | .came _ _ | .ran _ _ | .elsewhere => none

/-- A statement has ended as cancelled. -/
def Event.stopped (statement : Running) : Event :=
  .ran statement.id (some (.error .cancelled))

/-- The steps that can follow. -/
inductive Step : Traffic σ → Event → Traffic σ → Prop
  | begin (s : Traffic σ) (sql : String) :
      Step s (.began s.begun sql)
        { s with
          session := s.session.begin s.begun sql
          begun := s.begun + 1 }
  | come {s : Traffic σ} {id : Nat} (known : id < s.begun) (message : ServerMessage) :
      Step s (.came id message)
        { s with unread := Function.update s.unread id (s.unread id ++ [message]) }
  | cancel (s : Traffic σ) :
      Step s .cancelCalled
        { s with told := fun id => s.told id || (s.session.running? id).isSome }
  | read {s : Traffic σ} {id : Nat} {session : Session σ} {rows : List Row}
      (running : s.session.running? id ≠ none)
      (heard : s.session.hearAll id (s.rows id) (s.unread id) = (session, rows))
      (ends : s.told id = true → session.result? id ≠ none) :
      Step s (.ran id (session.result? id))
        { s with
          session := session
          unread := Function.update s.unread id []
          rows := Function.update s.rows id rows }
  | stop {s : Traffic σ} {id : Nat} (running : s.session.running? id ≠ none)
      (told : s.told id = true) :
      Step s (.ran id (some (.error .cancelled)))
        { s with session := s.session.conclude id (.error .cancelled) }
  | elsewhere (s : Traffic σ) (engine : Engine σ) (refreshes : List (Request σ)) :
      Step s .elsewhere
        { s with session := { s.session with engine := engine, refreshes := refreshes } }

/-- Any number of steps, with their events, the latest first. -/
inductive Leads (s : Traffic σ) : List Event → Traffic σ → Prop
  | refl : Leads s [] s
  | step {past : List Event} {middle t : Traffic σ} {event : Event}
      (before : Leads s past middle) (step : Step middle event t) : Leads s (event :: past) t

/-- What a session can come to on which nothing has been run. -/
def Reached (first : Session σ) (past : List Event) (s : Traffic σ) : Prop :=
  first.running = [] ∧ first.ended = [] ∧ Leads { session := first } past s

/-! ## What was asked of a session -/

/-- What was asked of the session, in order. -/
def calls (past : List Event) : List Call :=
  (past.filterMap Event.call?).reverse

theorem calls_append (later earlier : List Event) :
    calls (later ++ earlier) = calls earlier ++ calls later := by
  simp [calls]

theorem calls_cons_of_none {event : Event} (quiet : event.call? = none) (past : List Event) :
    calls (event :: past) = calls past := by
  simp [calls, quiet]

theorem calls_map_stopped (running : List Running) : calls (running.map Event.stopped) = [] := by
  induction running with
  | nil => rfl
  | cons statement rest ih => exact (calls_cons_of_none rfl _).trans ih

/-! ## What a past says about a statement -/

/-- The messages that have come for a statement, in order. -/
def sent (id : Nat) : List Event → List ServerMessage
  | [] => []
  | .came other message :: past =>
    if other = id then sent id past ++ [message] else sent id past
  | .began _ _ :: past | .cancelCalled :: past | .ran _ _ :: past | .elsewhere :: past =>
    sent id past

/-- There was a cancel since the statement began. -/
def Told (id : Nat) (past : List Event) : Prop :=
  ∃ since earlier sql, past = since ++ .began id sql :: earlier ∧ .cancelCalled ∈ since

variable {id other : Nat} {sql : String} {past : List Event} {event : Event}
  {result : Option (Except Error Outcome)}

theorem not_told_nil : ¬ Told id [] := by
  simp [Told]

theorem told_cons_iff :
    Told id (event :: past) ↔
      Told id past ∨ event = .cancelCalled ∧ ∃ sql, .began id sql ∈ past := by
  constructor
  · rintro ⟨since, earlier, sql, split, called⟩
    cases since with
    | nil => cases called
    | cons latest since =>
        rw [List.cons_append, List.cons.injEq] at split
        obtain ⟨rfl, rfl⟩ := split
        rcases List.mem_cons.mp called with rfl | called
        · exact .inr ⟨rfl, sql, List.mem_append_cons_self⟩
        · exact .inl ⟨since, earlier, sql, rfl, called⟩
  · rintro (⟨since, earlier, sql, rfl, called⟩ | ⟨rfl, sql, began⟩)
    · exact ⟨event :: since, earlier, sql, rfl, List.mem_cons_of_mem _ called⟩
    · obtain ⟨since, earlier, rfl⟩ := List.append_of_mem began
      exact ⟨.cancelCalled :: since, earlier, sql, rfl, List.mem_cons_self⟩

theorem Told.began (told : Told id past) : ∃ sql, .began id sql ∈ past := by
  obtain ⟨since, earlier, sql, rfl, _⟩ := told
  exact ⟨sql, List.mem_append_cons_self⟩

/-- Whether an event can change how a statement stands. -/
def Event.concerns (id : Nat) : Event → Bool
  | .began other _ | .came other _ | .ran other _ => other = id
  | .cancelCalled => true
  | .elsewhere => false

section
variable (aside : event.concerns id = false)
include aside

theorem began_mem_cons_iff : .began id sql ∈ event :: past ↔ .began id sql ∈ past := by
  rw [List.mem_cons, or_iff_right]
  rintro rfl
  simp [Event.concerns] at aside

theorem ran_mem_cons_iff : .ran id result ∈ event :: past ↔ .ran id result ∈ past := by
  rw [List.mem_cons, or_iff_right]
  rintro rfl
  simp [Event.concerns] at aside

theorem sent_cons_of_aside : sent id (event :: past) = sent id past := by
  cases event with
  | came other message => simp_all [sent, Event.concerns]
  | began | cancelCalled | ran | elsewhere => rfl

theorem told_cons_iff_of_aside : Told id (event :: past) ↔ Told id past := by
  rw [told_cons_iff, or_iff_left]
  rintro ⟨rfl, _⟩
  simp [Event.concerns] at aside

end

/-! ## What a session keeps of its past -/

/-- The statement has not begun. -/
structure Awaited (past : List Event) (s : Traffic σ) (id : Nat) : Prop where
  notYet : s.begun ≤ id
  began : ∀ sql, .began id sql ∉ past
  ran : ∀ result, .ran id result ∉ past
  sent : sent id past = []
  gone : s.session.running? id = none
  pending : s.session.result? id = none
  unread : s.unread id = []
  rows : s.rows id = []
  told : s.told id = false

/-- The statement has begun and not ended. The messages that it has not taken up bring it from
where it stands to where all messages would. -/
structure UnderWay (past : List Event) (s : Traffic σ) (id : Nat) (sql : String)
    (standing : Standing) : Prop where
  known : id < s.begun
  began : ∀ other, .began id other ∈ past ↔ other = sql
  ran : ∀ result, .ran id (some result) ∉ past
  stands : s.session.Stands id sql (s.rows id) standing
  pending : standing.result? = none
  heard : (s.unread id).foldl (Standing.hear s.session.maxResult) standing =
    (sent id past).foldl (Standing.hear s.session.maxResult) .preparing
  told : s.told id = true ↔ Told id past

/-- The statement has ended, and only once. -/
structure Ended (past : List Event) (s : Traffic σ) (id : Nat)
    (result : Except Error Outcome) : Prop where
  known : id < s.begun
  began : ∃ sql, .began id sql ∈ past
  ran : ∀ other, .ran id (some other) ∈ past ↔ other = result
  gone : s.session.running? id = none
  concluded : s.session.result? id = some result

/-- A session stands with a statement where the past says. -/
inductive Tracked (past : List Event) (s : Traffic σ) (id : Nat) : Prop
  | awaited (awaited : Awaited past s id)
  | underWay {sql : String} {standing : Standing} (underWay : UnderWay past s id sql standing)
  | ended {result : Except Error Outcome} (ended : Ended past s id result)

variable {s t : Traffic σ} {standing : Standing}

theorem UnderWay.running (underWay : UnderWay past s id sql standing) :
    s.session.running? id ≠ none :=
  underWay.stands.running?_ne_none_iff.mpr underWay.pending

theorem Tracked.underWay_of_running (tracked : Tracked past s id)
    (running : s.session.running? id ≠ none) : ∃ sql standing, UnderWay past s id sql standing := by
  cases tracked with
  | awaited awaited => exact absurd awaited.gone running
  | underWay underWay => exact ⟨_, _, underWay⟩
  | ended ended => exact absurd ended.gone running

theorem Tracked.awaited_of_begun_le (tracked : Tracked past s id) (notYet : s.begun ≤ id) :
    Awaited past s id := by
  cases tracked with
  | awaited awaited => exact awaited
  | underWay underWay => exact absurd underWay.known (Nat.not_lt.mpr notYet)
  | ended ended => exact absurd ended.known (Nat.not_lt.mpr notYet)

/-- Nothing that belongs to a statement has changed. -/
structure SameFor (id : Nat) (s t : Traffic σ) : Prop where
  begun : t.begun ≤ id ↔ s.begun ≤ id
  running : t.session.running? id = s.session.running? id
  result : t.session.result? id = s.session.result? id
  maxResult : t.session.maxResult = s.session.maxResult
  unread : t.unread id = s.unread id
  rows : t.rows id = s.rows id
  told : t.told id = s.told id

/-- A statement that has ended stays so. -/
theorem Ended.later {result : Except Error Outcome} (ended : Ended past s id result)
    (unlike : ∀ other, event ≠ .ran id (some other)) (known : id < t.begun)
    (running : t.session.running? id = s.session.running? id)
    (same : t.session.result? id = s.session.result? id) : Ended (event :: past) t id result where
  known := known
  began := ended.began.imp fun _ began => List.mem_cons_of_mem _ began
  ran other := by simp [ended.ran, Ne.symm (unlike other)]
  gone := running.trans ended.gone
  concluded := same.trans ended.concluded

theorem Tracked.aside (tracked : Tracked past s id) (same : SameFor id s t)
    (aside : event.concerns id = false) : Tracked (event :: past) t id := by
  have known : id < s.begun → id < t.begun := by
    have := same.begun
    omega
  cases tracked with
  | awaited awaited =>
      exact .awaited
        { notYet := same.begun.mpr awaited.notYet
          began := fun sql => mt (began_mem_cons_iff aside).mp (awaited.began sql)
          ran := fun result => mt (ran_mem_cons_iff aside).mp (awaited.ran result)
          sent := (sent_cons_of_aside aside).trans awaited.sent
          gone := same.running.trans awaited.gone
          pending := same.result.trans awaited.pending
          unread := same.unread.trans awaited.unread
          rows := same.rows.trans awaited.rows
          told := same.told.trans awaited.told }
  | underWay underWay =>
      exact .underWay
        { known := known underWay.known
          began := fun other => (began_mem_cons_iff aside).trans (underWay.began other)
          ran := fun result => mt (ran_mem_cons_iff aside).mp (underWay.ran result)
          stands := same.rows ▸ underWay.stands.congr same.running same.result same.maxResult
          pending := underWay.pending
          heard := by rw [same.unread, same.maxResult, sent_cons_of_aside aside, underWay.heard]
          told := by rw [same.told, underWay.told, told_cons_iff_of_aside aside] }
  | ended ended =>
      refine .ended (ended.later ?_ (known ended.known) same.running same.result)
      rintro result rfl
      simp [Event.concerns] at aside

theorem Awaited.begin (awaited : Awaited past s s.begun) (sql : String) :
    UnderWay (.began s.begun sql :: past)
      { s with
        session := s.session.begin s.begun sql
        begun := s.begun + 1 } s.begun sql .preparing where
  known := Nat.lt_succ_self _
  began := by simp [awaited.began]
  ran := by simp [awaited.ran]
  stands := by
    rw [awaited.rows]
    exact .preparing (Session.running?_begin_self awaited.gone) awaited.pending
  pending := rfl
  heard := by rw [awaited.unread, Traffic.sent, awaited.sent]
  told := by
    have notTold : ¬ Told s.begun past := fun told => told.began.elim awaited.began
    simp [awaited.told, told_cons_iff, notTold]

theorem Tracked.come (tracked : Tracked past s id) (known : id < s.begun)
    (message : ServerMessage) :
    Tracked (.came id message :: past)
      { s with unread := Function.update s.unread id (s.unread id ++ [message]) } id := by
  cases tracked with
  | awaited awaited => exact absurd known (Nat.not_lt.mpr awaited.notYet)
  | underWay underWay =>
      exact .underWay
        { underWay with
          began := by simp [underWay.began]
          ran := by simp [underWay.ran]
          heard := by simp [Traffic.sent, underWay.heard]
          told := by simp [told_cons_iff, underWay.told] }
  | ended ended => exact .ended (ended.later (by simp) ended.known rfl rfl)

theorem Tracked.cancel (tracked : Tracked past s id) :
    Tracked (.cancelCalled :: past)
      { s with told := fun id => s.told id || (s.session.running? id).isSome } id := by
  cases tracked with
  | awaited awaited =>
      exact .awaited
        { awaited with
          began := by simp [awaited.began]
          ran := by simp [awaited.ran]
          told := by simp [awaited.told, awaited.gone] }
  | underWay underWay =>
      have since : ∃ sql, .began id sql ∈ past := ⟨_, (underWay.began _).mpr rfl⟩
      exact .underWay
        { underWay with
          began := by simp [underWay.began]
          ran := by simp [underWay.ran]
          told := by
            simp [told_cons_iff, since, Option.isSome_iff_ne_none, underWay.running] }
  | ended ended => exact .ended (ended.later (by simp) ended.known rfl rfl)

/-! ## Running a statement -/

/-- The messages that a statement takes up bring it to where all that was sent to it would. -/
theorem UnderWay.read (underWay : UnderWay past s id sql standing) {session : Session σ}
    {rows : List Row} (heard : s.session.hearAll id (s.rows id) (s.unread id) = (session, rows)) :
    session.Stands id sql rows
        ((sent id past).foldl (Standing.hear s.session.maxResult) .preparing) ∧
      session.result? id = answer? s.session.maxResult (sent id past) ∧
      s.session.Effect id sql session (answer? s.session.maxResult (sent id past)) := by
  obtain ⟨stands, effect⟩ := underWay.stands.hearAll underWay.running (s.unread id)
  rw [heard, underWay.heard] at stands effect
  exact ⟨stands, stands.result?_eq, effect⟩

/-- **With what a statement can end.** A running statement that is run gets what the messages that
have come for it amount to, and one that was told to stop may be cancelled instead and does not go
on. -/
theorem Tracked.exists_ran_iff (tracked : Tracked past s id) :
    (∃ t, Step s (.ran id result) t) ↔
      s.session.running? id ≠ none ∧
        (Told id past ∧ result = some (.error .cancelled) ∨
          result = answer? s.session.maxResult (sent id past) ∧
            (Told id past → result ≠ none)) := by
  constructor
  · rintro ⟨t, step⟩
    cases step with
    | read running heard ends =>
        obtain ⟨sql, standing, underWay⟩ := tracked.underWay_of_running running
        obtain ⟨_, answered, _⟩ := underWay.read heard
        exact ⟨running, .inr ⟨answered, fun told => ends (underWay.told.mpr told)⟩⟩
    | stop running told =>
        obtain ⟨sql, standing, underWay⟩ := tracked.underWay_of_running running
        exact ⟨running, .inl ⟨underWay.told.mp told, rfl⟩⟩
  · rintro ⟨running, possible⟩
    obtain ⟨sql, standing, underWay⟩ := tracked.underWay_of_running running
    obtain ⟨told, rfl⟩ | ⟨rfl, ends⟩ := possible
    · exact ⟨_, .stop running (underWay.told.mpr told)⟩
    · obtain ⟨_, answered, _⟩ := underWay.read rfl
      rw [← answered] at ends ⊢
      exact ⟨_, .read running rfl fun told => ends (underWay.told.mp told)⟩

theorem UnderWay.goesOn (underWay : UnderWay past s id sql standing) {session : Session σ}
    {rows : List Row} (heard : s.session.hearAll id (s.rows id) (s.unread id) = (session, rows))
    (pending : session.result? id = none) :
    UnderWay (.ran id none :: past)
      { s with
        session := session
        unread := Function.update s.unread id []
        rows := Function.update s.rows id rows }
      id sql ((sent id past).foldl (Standing.hear s.session.maxResult) .preparing) := by
  obtain ⟨stands, answered, effect⟩ := underWay.read heard
  exact
    { known := underWay.known
      began := by simp [underWay.began]
      ran := by simp [underWay.ran]
      stands := by simpa using stands
      pending := answered.symm.trans pending
      heard := by simp [Traffic.sent, effect.setup.maxResult]
      told := by simp [told_cons_iff, underWay.told] }

theorem UnderWay.ends (underWay : UnderWay past s id sql standing)
    {result : Except Error Outcome} (begun : t.begun = s.begun)
    (gone : t.session.running? id = none) (concluded : t.session.result? id = some result) :
    Ended (.ran id (some result) :: past) t id result where
  known := begun ▸ underWay.known
  began := ⟨sql, by simp [underWay.began]⟩
  ran := by simp [underWay.ran]
  gone := gone
  concluded := concluded

/-- Running a statement has the effect of its result, and concerns no other statement. -/
theorem Tracked.of_ran (tracked : Tracked past s id) (step : Step s (.ran id result) t) :
    (∃ sql, (∀ other, .began id other ∈ past ↔ other = sql) ∧
        s.session.Effect id sql t.session result) ∧
      Tracked (.ran id result :: past) t id ∧ ∀ other, other ≠ id → SameFor other s t := by
  cases step with
  | @read _ session rows running heard ends =>
      obtain ⟨sql, standing, underWay⟩ := tracked.underWay_of_running running
      obtain ⟨stands, answered, effect⟩ := underWay.read heard
      rw [← answered] at effect
      refine ⟨⟨sql, underWay.began, effect⟩, ?_, fun other differs => ?_⟩
      · cases ended : session.result? id with
        | none => exact .underWay (underWay.goesOn heard ended)
        | some result =>
            have gone : session.running? id = none := by
              have not := mt stands.running?_ne_none_iff.mp (by simp [← stands.result?_eq, ended])
              simpa using not
            exact .ended (underWay.ends rfl gone ended)
      · exact
          { begun := .rfl
            running := effect.running_of_ne other differs
            result := effect.result_of_ne other differs
            maxResult := effect.setup.maxResult
            unread := Function.update_of_ne differs _ _
            rows := Function.update_of_ne differs _ _
            told := rfl }
  | stop running told =>
      obtain ⟨sql, standing, underWay⟩ := tracked.underWay_of_running running
      -- A cancelled statement calls for no refresh.
      have effect : s.session.Effect id sql (s.session.conclude id (.error .cancelled))
          (some (.error .cancelled)) :=
        s.session.effect_endStatement id sql (.error .cancelled)
      refine ⟨⟨sql, underWay.began, effect⟩, ?_, fun other differs => ?_⟩
      · exact .ended
          (underWay.ends rfl Session.running?_conclude_self Session.result?_conclude_self)
      · exact
          { begun := .rfl
            running := effect.running_of_ne other differs
            result := effect.result_of_ne other differs
            maxResult := rfl
            unread := rfl
            rows := rfl
            told := rfl }

/-! ## Every run -/

/-- A session agrees with its past. -/
structure Consistent (first : Session σ) (past : List Event) (s : Traffic σ) : Prop where
  tracked : ∀ id, Tracked past s id
  setup : first.SameSetup s.session
  /-- Two running statements never have the same number. -/
  distinct : (s.session.running.map (·.id)).Nodup

variable {first : Session σ}

theorem Consistent.ran (consistent : Consistent first past s) (step : Step s (.ran id result) t) :
    Consistent first (.ran id result :: past) t := by
  obtain ⟨⟨sql, _, effect⟩, own, others⟩ := (consistent.tracked id).of_ran step
  refine ⟨fun other => ?_, consistent.setup.trans effect.setup, ?_⟩
  · by_cases same : id = other
    · exact same ▸ own
    · refine (consistent.tracked other).aside (others other (Ne.symm same)) ?_
      simpa [Event.concerns] using same
  · exact consistent.distinct.sublist effect.ids

theorem Consistent.step (consistent : Consistent first past s) (step : Step s event t) :
    Consistent first (event :: past) t := by
  have tracked := consistent.tracked
  have setup := consistent.setup
  cases step with
  | begin sql =>
      have awaited := (tracked s.begun).awaited_of_begun_le (Nat.le_refl _)
      refine ⟨fun id => ?_, ⟨setup.trigger, setup.maxResult, setup.matching⟩, ?_⟩
      · by_cases own : id = s.begun
        · subst own
          exact .underWay (awaited.begin sql)
        · refine (tracked id).aside ?_ (by simpa [Event.concerns] using Ne.symm own)
          exact ⟨by dsimp only; omega, Session.running?_begin_of_ne own, rfl, rfl, rfl, rfl, rfl⟩
      · have unused := Session.running?_eq_none_iff.mp awaited.gone
        simpa [Session.begin] using consistent.distinct.concat unused
  | @come id known message =>
      refine ⟨fun other => ?_, setup, consistent.distinct⟩
      by_cases own : id = other
      · exact own ▸ (tracked id).come known message
      · refine (tracked other).aside ?_ (by simpa [Event.concerns] using own)
        exact ⟨.rfl, rfl, rfl, rfl, Function.update_of_ne (Ne.symm own) _ _, rfl, rfl⟩
  | cancel => exact ⟨fun id => (tracked id).cancel, setup, consistent.distinct⟩
  | read running heard ends => exact consistent.ran (.read running heard ends)
  | stop running told => exact consistent.ran (.stop running told)
  | elsewhere engine refreshes =>
      refine ⟨fun id => ?_, ⟨setup.trigger, setup.maxResult, setup.matching⟩, consistent.distinct⟩
      exact (tracked id).aside ⟨.rfl, rfl, rfl, rfl, rfl, rfl, rfl⟩ rfl

theorem Reached.consistent (reached : Reached first past s) : Consistent first past s := by
  obtain ⟨idle, unended, leads⟩ := reached
  induction leads with
  | refl =>
      refine ⟨fun id => .awaited ?_, ⟨rfl, rfl, rfl⟩, ?_⟩
      · exact
          { notYet := Nat.zero_le _
            began := by simp
            ran := by simp
            sent := rfl
            gone := by simp [Session.running?, idle]
            pending := by simp [Session.result?, unended]
            unread := rfl
            rows := rfl
            told := rfl }
      · simp [idle]
  | step _ step ih => exact ih.step step

theorem Leads.trans {later : List Event} {middle : Traffic σ} (before : Leads s past middle)
    (after : Leads middle later t) : Leads s (later ++ past) t := by
  induction after with
  | refl => exact before
  | step _ step ih => exact .step ih step

theorem Reached.trans {later : List Event} (reached : Reached first past s)
    (leads : Leads s later t) : Reached first (later ++ past) t :=
  ⟨reached.1, reached.2.1, reached.2.2.trans leads⟩

/-- Every event of a past was a step out of what was reached before it. -/
theorem Reached.of_split {later earlier : List Event}
    (reached : Reached first (later ++ event :: earlier) s) :
    ∃ middle after, Reached first earlier middle ∧ Step middle event after := by
  obtain ⟨idle, unended, leads⟩ := reached
  induction later generalizing s with
  | nil =>
      cases leads with
      | step before step => exact ⟨_, _, ⟨idle, unended, before⟩, step⟩
  | cons latest later ih =>
      cases leads with
      | step before step => exact ih before

theorem Reached.running?_ne_none_iff (reached : Reached first past s) :
    s.session.running? id ≠ none ↔
      (∃ sql, .began id sql ∈ past) ∧ ∀ result, .ran id (some result) ∉ past := by
  cases reached.consistent.tracked id with
  | awaited awaited => simp [awaited.gone, awaited.began]
  | underWay underWay =>
      exact ⟨fun _ => ⟨⟨_, (underWay.began _).mpr rfl⟩, underWay.ran⟩, fun _ => underWay.running⟩
  | ended ended => simp [ended.gone, ended.ran]

theorem Reached.result?_eq_some_iff (reached : Reached first past s)
    {result : Except Error Outcome} :
    s.session.result? id = some result ↔ .ran id (some result) ∈ past := by
  cases reached.consistent.tracked id with
  | awaited awaited => simp [awaited.pending, awaited.ran]
  | underWay underWay =>
      simp [underWay.stands.result?_eq, underWay.pending, underWay.ran]
  | ended ended => simp [ended.concluded, ended.ran, eq_comm]

/-! ## Cancelling at once -/

/-- If all running statements were told to stop, they can be cancelled one after the other. -/
theorem leads_cancel_of_told (told : ∀ statement ∈ s.session.running, s.told statement.id = true)
    (distinct : (s.session.running.map (·.id)).Nodup) :
    ∃ t, Leads s (s.session.running.map Event.stopped) t ∧ t.session = s.session.cancel ∧
      t.begun = s.begun := by
  generalize listed : s.session.running = running at told distinct ⊢
  -- The last one goes first, since results are kept with the latest in front.
  induction running using List.reverseRecOn generalizing s with
  | nil =>
      refine ⟨s, .refl, ?_, rfl⟩
      rw [Session.cancel, listed, List.map_nil, List.nil_append, ← listed]
  | append_singleton running statement ih =>
      rw [List.map_append, List.map_singleton, List.nodup_append] at distinct
      obtain ⟨distinct, _, apart⟩ := distinct
      have runs : s.session.running? statement.id ≠ none := by
        simp [ne_eq, Session.running?_eq_none_iff, listed]
      have step := Step.stop runs (told statement (by simp))
      have left : (s.session.conclude statement.id (.error .cancelled)).running = running := by
        have others : running.filter (·.id ≠ statement.id) = running := by
          rw [List.filter_eq_self]
          intro other member
          simpa using apart other.id (List.mem_map_of_mem member) statement.id (by simp)
        simp only [Session.conclude, listed, List.filter_append, others]
        simp
      obtain ⟨t, leads, session, begun⟩ :=
        @ih { s with session := s.session.conclude statement.id (.error .cancelled) } left
          (fun other member => told other (List.mem_append_left _ member)) distinct
      refine ⟨t, ?_, ?_, begun⟩
      · rw [List.map_append, List.map_singleton]
        exact .trans (.step .refl step) leads
      · rw [session, Session.cancel, left]
        simp [Session.cancel, Session.conclude, listed]

/-- Cancelling all running statements at once is one of the ways in which a cancel can go. -/
theorem Reached.leads_cancel (reached : Reached first past s) :
    ∃ t, Leads s (s.session.running.map Event.stopped ++ [.cancelCalled]) t ∧
      t.session = s.session.cancel ∧ t.begun = s.begun := by
  have step := Step.cancel s
  obtain ⟨t, leads, same⟩ := @leads_cancel_of_told σ
    { s with told := fun id => s.told id || (s.session.running? id).isSome }
    (fun statement member => by
      simp [Option.isSome_iff_ne_none, Session.running?_eq_none_iff, List.mem_map_of_mem member])
    reached.consistent.distinct
  exact ⟨t, .trans (.step .refl step) leads, same⟩

end Traffic

end SqlAssist
