/-
# Calls that take effect after a later call

A call takes effect when it attaches its connection, when it disconnects, or when its snapshot is
published. One would like a call that began earlier to leave the engine alone once a later one
has taken effect. For refreshes and for first builds this holds, because their numbers were drawn
before.

A connect draws its numbers only when its keywords have been answered. As long as it waits for
them it is ahead of every other call, and it will replace the connection of calls that began, and
took effect, long after it. That is the only way in which an earlier call can still change an
engine.
-/

import SqlAssist.Proofs.Engine.Precedence

namespace SqlAssist.Situation

variable {standard : Bool} {past later : List Event} {event effect : Event} {s t : Situation}
  {call first : Nat} {request : Request Nat}

/-- The step attaches, disconnects or publishes. -/
def Event.takesEffect : Event → Bool
  | attached _ _ _ | disconnected _ _ | ended _ _ _ .published => true
  | _ => false

/-! ## Numbers and the order in which calls began -/

/-- The latest reset only rises. -/
theorem Step.lastReset_le (step : Step standard s event t) (reached : Reached standard past s) :
    lastReset past ≤ lastReset (event :: past) := by
  have bounded := reached.numbered.published_le
  have above := reached.numbered.reset_le
  cases resets : event.reset? with
  | none => exact Nat.le_of_eq (lastReset_cons_of_not_reset resets).symm
  | some number =>
      rw [lastReset_cons_of_reset resets, (step.change bounded).reset_number resets]
      omega

/-- A first build has the number after the reset of its connection. -/
theorem Reached.number_of_firstBuild (reached : Reached standard past s)
    (waits : s.waiting call = some (.firstBuild request)) :
    request.number = request.connection.number + 1 ∧
      request.connection.number ≤ lastReset past := by
  induction reached with
  | refl => simp at waits
  | @step past middle t event before step ih =>
      by_cases own : call = event.call
      · subst own
        have fresh := (Reached.tracked before).idle middle.begun (Nat.le_refl _)
        cases step with
        | attach gathering attached =>
            rw [Engine.attach_of_published_le (Reached.numbered before).published_le] at attached
            cases attached
            simp only [Event.call, Function.update_self, Option.some.injEq,
              Timeline.Purpose.firstBuild.injEq] at waits
            subst waits
            exact ⟨rfl, Nat.le_of_eq (lastReset_cons_of_reset rfl).symm⟩
        | beginConnect | beginRefresh | finish => simp [Event.call] at waits
        | disconnect | ignoreRefresh => simp [Event.call, fresh] at waits
      · rw [step.waiting_of_ne own] at waits
        obtain ⟨number, below⟩ := ih waits
        exact ⟨number, Nat.le_trans below (step.lastReset_le before)⟩

/-- A refresh draws its number as it begins, so calls that begin later draw higher ones. -/
theorem Reached.number_lt_of_refresh (reached : Reached standard past s)
    (waits : s.waiting call = some (.refresh request)) {call₁ : Nat} {request₁ : Request Nat}
    (member : (call₁, request₁) ∈ requested past) (later : call < call₁) :
    request.number < request₁.number := by
  induction reached with
  | refl => simp at waits
  | @step past middle t event before step ih =>
      have tracked := Reached.tracked before
      have numbered := Reached.numbered before
      by_cases own : call = event.call
      · subst own
        exfalso
        have fresh := tracked.idle middle.begun (Nat.le_refl _)
        have begun := (tracked.step step).requested_lt member
        cases step with
        | beginRefresh started =>
            simp only [Event.call] at later begun
            omega
        | beginConnect | attach | finish => simp [Event.call] at waits
        | disconnect | ignoreRefresh => simp [Event.call, fresh] at waits
      · rw [step.waiting_of_ne own] at waits
        rcases requested_cons.mp member with asks | older
        · have building := building_eq_some_iff.mpr (.inr waits)
          have := numbered.requested_le (tracked.mem_requested building)
          have := (step.number_of_requested numbered.published_le asks).1
          omega
        · exact ih waits older

/-! ## Settled calls -/

/-- A call that can no longer change the engine: it has ended, or it waits for names that come
too late. -/
structure Settled (first : Nat) (s : Situation) : Prop where
  begun : first < s.begun
  late : s.waiting first = none ∨
    ∃ request, s.building first = some request ∧ request.number ≤ s.engine.publishedNumber

/-- A settled call stays settled, and its own steps leave the engine alone. -/
theorem Settled.step (settled : Settled first s) (reached : Reached standard past s)
    (step : Step standard s event t) :
    Settled first t ∧ (event.call = first → t.engine = s.engine) := by
  have bounded := reached.numbered.published_le
  have begun := Nat.lt_of_lt_of_le settled.begun step.begun_le
  by_cases own : event.call = first
  · subst own
    have waits : s.waiting event.call ≠ none := by
      rcases step.begins_or_waits with ⟨begins, _⟩ | waits
      · exact absurd begins (Nat.ne_of_lt settled.begun)
      · exact waits
    obtain ⟨request, building, old⟩ := settled.late.resolve_left waits
    obtain ⟨answer, outcome, ended⟩ := step.eq_ended reached.tracked.idle building
    obtain ⟨_, finished⟩ := step.finish_eq ended
    have same := (Engine.finish_of_number_le s.engine answer old).1
    rw [finished] at same
    refine ⟨⟨begun, .inl ?_⟩, fun _ => same⟩
    exact ((reached.tracked.step step).of_ended
      (List.mem_cons.mpr (.inl ended.symm))).2
  · refine ⟨⟨begun, ?_⟩, fun same => absurd same own⟩
    have other : first ≠ event.call := fun same => own same.symm
    rw [step.waiting_of_ne other, step.building_of_ne other]
    rcases settled.late with idle | ⟨request, building, old⟩
    · exact .inl idle
    · exact .inr ⟨request, building,
        Nat.le_trans old ((step.change bounded).published_mono bounded)⟩

theorem Settled.leads (settled : Settled first s) (reached : Reached standard past s)
    (leads : Leads standard s later t) : Settled first t := by
  induction leads with
  | refl => exact settled
  | step before step ih => exact (ih.step (reached.trans before) step).1

/-- What takes effect is published above the requests of all calls that began earlier. -/
theorem Step.number_le_of_takesEffect (step : Step standard s effect t)
    (reached : Reached standard past s) (effective : effect.takesEffect = true)
    (earlier : first < effect.call) (building : s.building first = some request) :
    request.number ≤ t.engine.publishedNumber := by
  have bounded := reached.numbered.published_le
  have drawn : request.number ≤ s.engine.drawn :=
    reached.numbered.requested_le (reached.tracked.mem_requested building)
  cases step with
  | beginConnect | beginRefresh | ignoreRefresh => simp [Event.takesEffect] at effective
  | attach gathering attached =>
      rw [Engine.attach_of_published_le bounded] at attached
      cases attached
      exact Nat.le_succ_of_le drawn
  | disconnect =>
      rw [Engine.disconnect_of_published_le bounded]
      exact Nat.le_succ_of_le drawn
  | @finish second overtaking answer outcome engine underWay finished =>
      obtain ⟨_, _, rfl, _⟩ | ⟨_, _, newer, _, rfl⟩ | ⟨_, _, _, rfl, _⟩ :=
        Engine.finish_cases finished
      · simp [Event.takesEffect] at effective
      · show request.number ≤ overtaking.number
        rcases building_eq_some_iff.mp building with waits | waits
        · obtain ⟨number, below⟩ := reached.number_of_firstBuild waits
          have := reached.numbered.reset_le
          omega
        · have member := reached.tracked.mem_requested underWay
          exact Nat.le_of_lt (reached.number_lt_of_refresh waits member earlier)
      · simp [Event.takesEffect] at effective

/-- When a call takes effect, every call that began before it is settled, unless it still waits
for keywords. -/
theorem Reached.settled_of_takesEffect (reached : Reached standard (effect :: past) s)
    (effective : effect.takesEffect = true) (earlier : first < effect.call)
    (answered : ∀ source, s.waiting first ≠ some (.keywords source)) : Settled first s := by
  cases reached with
  | @step _ middle _ _ before step =>
      have tracked := Reached.tracked before
      have other : first ≠ effect.call := Nat.ne_of_lt earlier
      have begun : first < middle.begun := by
        rcases step.begins_or_waits with ⟨begins, _⟩ | waits
        · omega
        · by_contra late
          exact waits (tracked.idle _ (by omega))
      refine ⟨Nat.lt_of_lt_of_le begun step.begun_le, ?_⟩
      rw [step.waiting_of_ne other] at answered ⊢
      rw [step.building_of_ne other]
      cases waits : middle.waiting first with
      | none => exact .inl rfl
      | some purpose =>
          right
          cases purpose with
          | keywords source => exact absurd waits (answered source)
          | firstBuild request | refresh request =>
              have building : middle.building first = some request := by
                simp [Situation.building, waits, Timeline.Purpose.request?]
              exact ⟨request, building,
                step.number_le_of_takesEffect before effective earlier building⟩

/-! ## Calls that still wait for keywords -/

/-- The number of the current connection is that of the latest reset. -/
theorem Reached.connection_number (reached : Reached standard past s)
    {connection : Connection Nat} (connected : s.engine.connection = some connection) :
    connection.number = lastReset past := by
  obtain ⟨later, call, answer, first, earlier, rfl, keeps, rfl⟩ :=
    reached.exists_attachment connected
  rw [lastReset_append keeps, lastReset_cons_of_reset rfl]

/-- A call that waits for keywords can attach at once. The connection is then another one, and
nothing is served. -/
theorem Reached.exists_attach (reached : Reached standard past s) {source : Nat}
    (gathering : s.waiting call = some (.keywords source)) (answer : Answer) :
    ∃ first t, Step standard s (.attached call answer first) t ∧
      t.engine.connection ≠ s.engine.connection ∧ t.engine.snapshot = none := by
  have bounded := reached.numbered.published_le
  refine ⟨_, _, .attach gathering (Engine.attach_of_published_le bounded ..), ?_, rfl⟩
  intro same
  have number : s.engine.drawn + 1 = lastReset past := reached.connection_number same.symm
  have := reached.numbered.reset_le
  omega

/-- **When an earlier call changes the engine after a later one has taken effect.** It can do so
if and only if it still waits for keywords when the later one takes effect. -/
theorem changes_after_effect_iff (reached : Reached standard (effect :: past) s)
    (effective : effect.takesEffect = true) (earlier : first < effect.call) :
    (∃ later middle event t, Leads standard s later middle ∧ Step standard middle event t ∧
      event.call = first ∧ (t.engine.connection ≠ middle.engine.connection ∨
        t.engine.snapshot ≠ middle.engine.snapshot)) ↔
      ∃ source, s.waiting first = some (.keywords source) := by
  constructor
  · rintro ⟨later, middle, event, t, leads, step, own, changes⟩
    by_contra none_waits
    have answered : ∀ source, s.waiting first ≠ some (.keywords source) := fun source waits =>
      none_waits ⟨source, waits⟩
    have settled := (reached.settled_of_takesEffect effective earlier answered).leads reached leads
    have same := (settled.step (reached.trans leads) step).2 own
    simp [same] at changes
  · rintro ⟨source, gathering⟩
    obtain ⟨request, t, step, changed, _⟩ := reached.exists_attach gathering (.error .closed)
    exact ⟨[], s, _, t, .refl, step, rfl, .inl changed⟩

/-- A disconnect can be undone by a connect that began before it. -/
theorem changes_after_effect_iff_disconnected :
    ∃ s, Reached true [.disconnected 1 1, .connectBegan 0 7] s ∧ s.engine.connection = none ∧
      ∃ later middle event t, Leads true s later middle ∧ Step true middle event t ∧
        event.call = 0 ∧ (t.engine.connection ≠ middle.engine.connection ∨
          t.engine.snapshot ≠ middle.engine.snapshot) := by
  have begun : Reached true [.connectBegan 0 7] _ := .step .refl (.beginConnect {} 7)
  have disconnected : Reached true (.disconnected 1 1 :: _) _ := .step begun (.disconnect _)
  exact ⟨_, disconnected, rfl,
    (changes_after_effect_iff disconnected rfl Nat.zero_lt_one).mpr ⟨7, rfl⟩⟩

/-- Call `0` begins to connect source `7`, and then call `1` connects source `8` and its names are
served. The keywords of source `7` come last, and nothing of source `8` is left. -/
theorem served_names_lost_to_earlier_connect :
    ¬ ∀ past effect s first later middle event t, Reached false (effect :: past) s →
      effect.takesEffect = true → first < effect.call → Leads false s later middle →
        Step false middle event t → event.call = first →
          t.engine.connection = middle.engine.connection ∧
            t.engine.snapshot = middle.engine.snapshot := by
  intro claim
  have first : Reached false [.connectBegan 0 7] _ := .step .refl (.beginConnect {} 7)
  have second : Reached false (.connectBegan 1 8 :: _) _ := .step first (.beginConnect _ 8)
  have attached : Reached false (.attached 1 (.error .closed) _ :: _) _ :=
    .step second (.attach rfl rfl)
  have served : Reached false (.ended 1 _ (.ok (NameSet.ofList ["customers"])) .published :: _) _ :=
    .step attached (.finish rfl rfl)
  obtain ⟨request, t, late, _, nothing⟩ :=
    @Reached.exists_attach _ _ _ 0 served 7 rfl (.error .closed)
  obtain ⟨_, kept⟩ := claim _ _ _ _ _ _ _ _ served rfl Nat.zero_lt_one .refl late rfl
  have lost : false = true := congrArg Option.isSome (nothing.symm.trans kept)
  exact Bool.noConfusion lost

end SqlAssist.Situation
