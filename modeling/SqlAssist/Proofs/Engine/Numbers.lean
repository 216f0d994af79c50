/-
# The order of request numbers

A past shows which requests were drawn, which of them have built a snapshot and when the
connection was last replaced. This module ties those readings of the past to the numbers an
engine keeps: requests are numbered in the order in which they were drawn, the number of the last
reset lies between the requests before it and those after it, and what is published is never
below that reset.
-/

import SqlAssist.Proofs.Engine.Steps
import SqlAssist.Proofs.Vocabulary

namespace SqlAssist.Situation

variable {standard : Bool} {past later : List Event} {event : Event} {s t : Situation}

/-! ## Readings of a past -/

/-- The number of the latest reset, zero if there was none. -/
def lastReset (past : List Event) : Nat :=
  (past.findSome? Event.reset?).getD 0

/-- The calls that asked for names with their requests, the latest first. -/
def requested (past : List Event) : List (Nat × Request Nat) :=
  past.filterMap Event.requested?

/-- The snapshots that were built, served or not, the latest first. -/
def built (past : List Event) : List Snapshot :=
  past.filterMap Event.built?

@[simp]
theorem lastReset_nil : lastReset [] = 0 := rfl

theorem lastReset_cons_of_reset {number : Nat} (resets : event.reset? = some number) :
    lastReset (event :: past) = number := by
  simp [lastReset, resets]

theorem lastReset_cons_of_not_reset (keeps : event.reset? = none) :
    lastReset (event :: past) = lastReset past := by
  simp [lastReset, keeps]

/-- Steps that leave the connection alone do not move the latest reset. -/
theorem lastReset_append (keeps : ∀ event ∈ later, event.reset? = none) :
    lastReset (later ++ past) = lastReset past := by
  induction later with
  | nil => rfl
  | cons event later ih =>
      rw [List.cons_append, lastReset_cons_of_not_reset (keeps event List.mem_cons_self)]
      exact ih fun other member => keeps other (List.mem_cons_of_mem _ member)

theorem mem_requested {call : Nat} {request : Request Nat} :
    (call, request) ∈ requested past ↔
      (∃ answer, .attached call answer request ∈ past) ∨ .refreshBegan call request ∈ past := by
  simp only [requested, List.mem_filterMap]
  constructor
  · rintro ⟨event, member, asks⟩
    cases event <;> simp only [Event.requested?, Option.some.injEq, Prod.mk.injEq,
      reduceCtorEq] at asks
    · obtain ⟨rfl, rfl⟩ := asks
      exact .inl ⟨_, member⟩
    · obtain ⟨rfl, rfl⟩ := asks
      exact .inr member
  · rintro (⟨answer, member⟩ | member)
    · exact ⟨_, member, rfl⟩
    · exact ⟨_, member, rfl⟩

theorem mem_built {snapshot : Snapshot} :
    snapshot ∈ built past ↔
      ∃ call request answer outcome, .ended call request answer outcome ∈ past ∧
        Engine.built? request answer = some snapshot := by
  simp only [built, List.mem_filterMap]
  constructor
  · rintro ⟨event, member, builds⟩
    cases event <;> simp only [Event.built?, reduceCtorEq] at builds
    exact ⟨_, _, _, _, member, builds⟩
  · rintro ⟨call, request, answer, outcome, member, builds⟩
    exact ⟨_, member, builds⟩

theorem building_eq_some_iff {call : Nat} {request : Request Nat} :
    s.building call = some request ↔
      s.waiting call = some (.firstBuild request) ∨ s.waiting call = some (.refresh request) := by
  unfold building
  cases s.waiting call with
  | none => simp
  | some purpose => cases purpose <;> simp [Timeline.Purpose.request?]

/-! ## Who moves in a step -/

theorem Event.call_of_requested? {call : Nat} {request : Request Nat}
    (asks : event.requested? = some (call, request)) : event.call = call := by
  cases event <;> simp_all [Event.requested?, Event.call]

/-- A step changes what its own call waits for and nothing else. -/
theorem Step.waiting_of_ne (step : Step standard s event t) {call : Nat}
    (other : call ≠ event.call) : t.waiting call = s.waiting call := by
  cases step with
  | disconnect | ignoreRefresh => rfl
  | beginConnect | attach | beginRefresh | finish => exact Function.update_of_ne other _ _

theorem Step.building_of_ne (step : Step standard s event t) {call : Nat}
    (other : call ≠ event.call) : t.building call = s.building call := by
  simp only [building, step.waiting_of_ne other]

theorem Step.begun_le (step : Step standard s event t) : s.begun ≤ t.begun := by
  cases step <;> simp

/-- A step begins a call or goes on with one that waits. -/
theorem Step.begins_or_waits (step : Step standard s event t) :
    event.call = s.begun ∧ s.begun < t.begun ∨ s.waiting event.call ≠ none := by
  cases step with
  | beginConnect | disconnect | beginRefresh | ignoreRefresh =>
      exact .inl ⟨rfl, Nat.lt_succ_self _⟩
  | attach gathering attached => exact .inr (by simp [Event.call, gathering])
  | finish building finished =>
      refine .inr fun idle => ?_
      rw [Event.call] at idle
      simp [Situation.building, idle] at building

/-- A call that waits for names takes no step but its last. -/
theorem Step.eq_ended (step : Step standard s event t) {request : Request Nat}
    (idle : ∀ call, s.begun ≤ call → s.waiting call = none)
    (building : s.building event.call = some request) :
    ∃ answer outcome, event = .ended event.call request answer outcome := by
  have fresh := idle s.begun (Nat.le_refl _)
  cases step with
  | beginConnect | disconnect | beginRefresh | ignoreRefresh =>
      simp [Event.call, Situation.building, fresh] at building
  | attach gathering attached =>
      simp [Event.call, Situation.building, gathering, Timeline.Purpose.request?] at building
  | finish same finished =>
      cases same.symm.trans building
      exact ⟨_, _, rfl⟩

/-- After a step its call waits for the names it has just asked for, if it has. -/
theorem Step.building_call (step : Step standard s event t)
    (idle : ∀ call, s.begun ≤ call → s.waiting call = none) :
    t.building event.call = event.requested?.map (·.2) := by
  have fresh := idle s.begun (Nat.le_refl _)
  cases step with
  | beginConnect | attach | beginRefresh | finish =>
      simp [Situation.building, Event.call, Event.requested?, Timeline.Purpose.request?]
  | disconnect | ignoreRefresh =>
      simp [Situation.building, Event.call, Event.requested?, fresh]

/-! ## Calls under way and their past -/

/-- What calls wait for agrees with what the past says of them. -/
structure Tracked (past : List Event) (s : Situation) : Prop where
  idle : ∀ call, s.begun ≤ call → s.waiting call = none
  requested_lt : ∀ {call request}, (call, request) ∈ requested past → call < s.begun
  mem_requested : ∀ {call request}, s.building call = some request →
    (call, request) ∈ requested past
  /-- A request is under way until it has ended. -/
  building_or_ended : ∀ {call request}, (call, request) ∈ requested past →
    s.building call = some request ∨
      ∃ answer outcome, .ended call request answer outcome ∈ past
  /-- A request ends once. -/
  of_ended : ∀ {call request answer outcome}, .ended call request answer outcome ∈ past →
    (call, request) ∈ requested past ∧ s.waiting call = none

theorem requested_cons {entry : Nat × Request Nat} :
    entry ∈ requested (event :: past) ↔
      event.requested? = some entry ∨ entry ∈ requested past := by
  cases asks : event.requested? <;> simp [requested, asks, eq_comm]

theorem Tracked.step (tracked : Tracked past s) (step : Step standard s event t) :
    Tracked (event :: past) t where
  idle call late := by
    have own : call ≠ event.call := by
      rcases step.begins_or_waits with ⟨begins, _⟩ | waits
      · omega
      · intro same
        subst same
        exact waits (tracked.idle _ (Nat.le_trans step.begun_le late))
    rw [step.waiting_of_ne own]
    exact tracked.idle call (Nat.le_trans step.begun_le late)
  requested_lt := by
    intro call request member
    rcases requested_cons.mp member with asks | older
    · have own := Event.call_of_requested? asks
      subst own
      rcases step.begins_or_waits with ⟨begins, grows⟩ | waits
      · omega
      · by_contra late
        exact waits (tracked.idle _ (by have := step.begun_le; omega))
    · exact Nat.lt_of_lt_of_le (tracked.requested_lt older) step.begun_le
  mem_requested := by
    intro call request building
    by_cases own : call = event.call
    · subst own
      rw [step.building_call tracked.idle, Option.map_eq_some_iff] at building
      obtain ⟨⟨call, request⟩, asks, rfl⟩ := building
      rw [Event.call_of_requested? asks]
      exact requested_cons.mpr (.inl asks)
    · rw [step.building_of_ne own] at building
      exact requested_cons.mpr (.inr (tracked.mem_requested building))
  building_or_ended := by
    intro call request member
    rcases requested_cons.mp member with asks | older
    · left
      rw [← Event.call_of_requested? asks, step.building_call tracked.idle, asks]
      rfl
    · rcases tracked.building_or_ended older with building | ⟨answer, outcome, ended⟩
      · by_cases own : call = event.call
        · subst own
          obtain ⟨answer, outcome, same⟩ := step.eq_ended tracked.idle building
          exact .inr ⟨answer, outcome, List.mem_cons.mpr (.inl same.symm)⟩
        · exact .inl (by rw [step.building_of_ne own, building])
      · exact .inr ⟨answer, outcome, List.mem_cons_of_mem _ ended⟩
  of_ended := by
    intro call request answer outcome member
    rcases List.mem_cons.mp member with rfl | older
    · cases step with
      | finish building finished =>
          exact ⟨requested_cons.mpr (.inr (tracked.mem_requested building)),
            Function.update_self ..⟩
    · obtain ⟨asked, idle⟩ := tracked.of_ended older
      have own : call ≠ event.call := by
        rintro rfl
        rcases step.begins_or_waits with ⟨begins, _⟩ | waits
        · exact Nat.ne_of_lt (tracked.requested_lt asked) begins
        · exact waits idle
      exact ⟨requested_cons.mpr (.inr asked), by rw [step.waiting_of_ne own, idle]⟩

theorem Reached.tracked (reached : Reached standard past s) : Tracked past s := by
  induction reached with
  | refl =>
      exact ⟨fun _ _ => rfl, by simp [requested], by simp [building], by simp [requested],
        by simp⟩
  | step before step ih => exact ih.step step

/-! ## The order of numbers -/

/-- How the numbers in a past and in the engine it led to are ordered. -/
structure Numbered (past : List Event) (s : Situation) : Prop where
  reset_le : lastReset past ≤ s.engine.publishedNumber
  published_le : s.engine.publishedNumber ≤ s.engine.drawn
  requested_le : ∀ {call request}, (call, request) ∈ requested past →
    request.number ≤ s.engine.drawn
  /-- A number names one request. -/
  number_injective : ∀ {call request call₁ request₁}, (call, request) ∈ requested past →
    (call₁, request₁) ∈ requested past → request.number = request₁.number →
      call = call₁ ∧ request = request₁

/-- What a step can do to an engine. -/
inductive Change (before : Engine Nat) (event : Event) (after : Engine Nat) : Prop
  /-- At most a number is drawn. -/
  | quiet (keeps : event.reset? = none) (builds : event.built? = none)
      (drawn : before.drawn ≤ after.drawn) (same : after = { before with drawn := after.drawn })
  /-- The connection is replaced and nothing is served. -/
  | reset (resets : event.reset? = some (before.drawn + 1)) (builds : event.built? = none)
      (snapshot : after.snapshot = none) (published : after.publishedNumber = before.drawn + 1)
      (drawn : after.drawn = before.drawn + 2)
  /-- A request above all that is published ends with a snapshot. -/
  | publish {snapshot : Snapshot} (keeps : event.reset? = none)
      (builds : event.built? = some snapshot) (newer : before.publishedNumber < snapshot.number)
      (published : after =
        { before with publishedNumber := snapshot.number, snapshot := some snapshot })
  /-- A request ends with a snapshot, but too late. -/
  | late {snapshot : Snapshot} (keeps : event.reset? = none)
      (builds : event.built? = some snapshot) (older : snapshot.number ≤ before.publishedNumber)
      (same : after = before)

theorem Change.drawn_le {before after : Engine Nat} (change : Change before event after) :
    before.drawn ≤ after.drawn := by
  cases change with
  | quiet keeps builds drawn same => exact drawn
  | reset resets builds snapshot published drawn => omega
  | publish keeps builds newer published => exact Nat.le_of_eq (by rw [published])
  | late keeps builds older same => exact Nat.le_of_eq (by rw [same])

theorem Change.published_mono {before after : Engine Nat} (change : Change before event after)
    (bounded : before.publishedNumber ≤ before.drawn) :
    before.publishedNumber ≤ after.publishedNumber := by
  cases change with
  | quiet keeps builds drawn same => exact Nat.le_of_eq (by rw [same])
  | reset resets builds snapshot published drawn => omega
  | publish keeps builds newer published => exact published ▸ Nat.le_of_lt newer
  | late keeps builds older same => exact Nat.le_of_eq (by rw [same])

theorem Change.connection_of_not_reset {before after : Engine Nat}
    (change : Change before event after) (keeps : event.reset? = none) :
    after.connection = before.connection := by
  cases change with
  | quiet keeps builds drawn same => rw [same]
  | reset resets builds snapshot published drawn => simp [resets] at keeps
  | publish keeps builds newer published => rw [published]
  | late keeps builds older same => rw [same]

theorem Change.reset_number {before after : Engine Nat} (change : Change before event after)
    {number : Nat} (resets : event.reset? = some number) : number = before.drawn + 1 := by
  cases change with
  | reset same => exact Option.some.inj (resets.symm.trans same)
  | quiet keeps | publish keeps | late keeps => simp [resets] at keeps

theorem Step.change (step : Step standard s event t)
    (bounded : s.engine.publishedNumber ≤ s.engine.drawn) : Change s.engine event t.engine := by
  cases step with
  | beginConnect | ignoreRefresh => exact .quiet rfl rfl (Nat.le_refl _) rfl
  | attach gathering attached =>
      rw [Engine.attach_of_published_le bounded] at attached
      cases attached
      exact .reset rfl rfl rfl rfl rfl
  | disconnect =>
      rw [Engine.disconnect_of_published_le bounded]
      exact .reset rfl rfl rfl rfl rfl
  | beginRefresh started =>
      obtain ⟨_, _, rfl⟩ := Engine.startRefresh_eq_some_iff.mp started
      exact .quiet rfl rfl (Nat.le_succ _) rfl
  | finish building finished =>
      obtain ⟨cause, fails, rfl, rfl⟩ | ⟨snapshot, builds, newer, rfl, rfl⟩ |
          ⟨snapshot, builds, older, rfl, rfl⟩ := Engine.finish_cases finished
      · exact .quiet rfl (Engine.built?_eq_none_iff.mpr ⟨cause, fails⟩) (Nat.le_refl _) rfl
      · have number := (Engine.built?_eq_some_iff.mp builds).2.1
        exact .publish rfl builds (number ▸ newer) (by rw [number])
      · have number := (Engine.built?_eq_some_iff.mp builds).2.1
        exact .late rfl builds (number ▸ older) rfl

/-- A snapshot comes from a request that was under way. -/
theorem Step.request_of_built (step : Step standard s event t) {snapshot : Snapshot}
    (builds : event.built? = some snapshot) :
    ∃ call request, s.building call = some request ∧ request.number = snapshot.number := by
  cases step with
  | finish building finished =>
      exact ⟨_, _, building, (Engine.built?_eq_some_iff.mp builds).2.1.symm⟩
  | beginConnect | attach | disconnect | beginRefresh | ignoreRefresh =>
      simp [Event.built?] at builds

/-- A request is given the last number drawn, above all that were drawn before its step. -/
theorem Step.number_of_requested (step : Step standard s event t)
    (bounded : s.engine.publishedNumber ≤ s.engine.drawn) {call : Nat} {request : Request Nat}
    (asks : event.requested? = some (call, request)) :
    s.engine.drawn < request.number ∧ request.number = t.engine.drawn := by
  cases step with
  | attach gathering attached =>
      rw [Engine.attach_of_published_le bounded] at attached
      cases attached
      cases asks
      exact ⟨Nat.lt_add_of_pos_right (by decide), rfl⟩
  | beginRefresh started =>
      obtain ⟨_, number, rfl⟩ := Engine.startRefresh_eq_some_iff.mp started
      cases asks
      exact ⟨by omega, number⟩
  | beginConnect | disconnect | ignoreRefresh | finish => simp [Event.requested?] at asks

theorem Numbered.step (numbered : Numbered past s) (tracked : Tracked past s)
    (step : Step standard s event t) : Numbered (event :: past) t := by
  have bounded := numbered.published_le
  have above := numbered.reset_le
  have change := step.change bounded
  refine ⟨?_, ?_, ?_, ?_⟩
  · cases change with
    | quiet keeps builds drawn same =>
        rw [lastReset_cons_of_not_reset keeps, same]
        exact above
    | reset resets builds snapshot published drawn =>
        exact Nat.le_of_eq (by rw [lastReset_cons_of_reset resets, published])
    | publish keeps builds newer published =>
        rw [lastReset_cons_of_not_reset keeps, published]
        exact Nat.le_trans above (Nat.le_of_lt newer)
    | late keeps builds older same =>
        rw [lastReset_cons_of_not_reset keeps, same]
        exact above
  · cases change with
    | quiet keeps builds drawn same =>
        rw [same]
        exact Nat.le_trans bounded drawn
    | reset resets builds snapshot published drawn => omega
    | publish keeps builds newer published =>
        obtain ⟨call, request, building, number⟩ := step.request_of_built builds
        rw [published, ← number]
        exact numbered.requested_le (tracked.mem_requested building)
    | late keeps builds older same => exact same ▸ bounded
  · intro call request member
    rcases requested_cons.mp member with asks | older
    · exact Nat.le_of_eq (step.number_of_requested bounded asks).2
    · exact Nat.le_trans (numbered.requested_le older) change.drawn_le
  · intro call request call₁ request₁ member member₁ same
    rcases requested_cons.mp member with asks | older <;>
      rcases requested_cons.mp member₁ with asks₁ | older₁
    · cases asks.symm.trans asks₁
      exact ⟨rfl, rfl⟩
    · have := (step.number_of_requested bounded asks).1
      have := numbered.requested_le older₁
      omega
    · have := (step.number_of_requested bounded asks₁).1
      have := numbered.requested_le older
      omega
    · exact numbered.number_injective older older₁ same

theorem Reached.numbered (reached : Reached standard past s) : Numbered past s := by
  induction reached with
  | refl =>
      exact ⟨Nat.le_refl _, Nat.le_refl _, by simp [requested], by simp [requested]⟩
  | step before step ih => exact ih.step (Reached.tracked before) step

/-- A request numbered above the latest reset is one of the current connection. -/
theorem Reached.connection_of_reset_lt (reached : Reached standard past s) {call : Nat}
    {request : Request Nat} (member : (call, request) ∈ requested past)
    (since : lastReset past < request.number) :
    s.engine.connection = some request.connection := by
  induction reached with
  | refl => simp [requested] at member
  | @step past middle t event before step ih =>
      have numbered := Reached.numbered before
      rcases requested_cons.mp member with asks | older
      · cases step with
        | attach gathering attached =>
            rw [Engine.attach_of_published_le numbered.published_le] at attached
            cases attached
            cases asks
            rfl
        | beginRefresh started =>
            obtain ⟨connected, _, rfl⟩ := Engine.startRefresh_eq_some_iff.mp started
            cases asks
            exact connected
        | beginConnect | disconnect | ignoreRefresh | finish =>
            simp [Event.requested?] at asks
      · cases resets : event.reset? with
        | none =>
            rw [lastReset_cons_of_not_reset resets] at since
            rw [(step.change numbered.published_le).connection_of_not_reset resets]
            exact ih older since
        | some number =>
            have := numbered.requested_le older
            have := (step.change numbered.published_le).reset_number resets
            rw [lastReset_cons_of_reset resets] at since
            omega

theorem Reached.trans (reached : Reached standard past s) (leads : Leads standard s later t) :
    Reached standard (later ++ past) t := by
  induction leads with
  | refl => exact reached
  | step before step ih => exact .step ih step

/-- Numbers that are published only rise. -/
theorem Leads.published_mono (leads : Leads standard s later t)
    (reached : Reached standard past s) :
    s.engine.publishedNumber ≤ t.engine.publishedNumber := by
  induction leads with
  | refl => exact Nat.le_refl _
  | step before step ih =>
      have bounded := (reached.trans before).numbered.published_le
      exact Nat.le_trans ih ((step.change bounded).published_mono bounded)

/-! ## Attachments in the past -/

/-- The keywords of a connection are those gathered by the call that attached it. -/
theorem Reached.keywords_of_attached (reached : Reached standard past s) {call : Nat}
    {answer : Answer} {first : Request Nat} (member : .attached call answer first ∈ past) :
    first.connection.keywords = Vocabulary.collect standard answer := by
  induction reached with
  | refl => simp at member
  | step before step ih =>
      rcases List.mem_cons.mp member with rfl | older
      · cases step with
        | attach gathering attached =>
            rw [Engine.attach_of_published_le (Reached.numbered before).published_le] at attached
            cases attached
            rfl
      · exact ih older

/-- The current connection is the one attached last. -/
theorem Reached.exists_attachment (reached : Reached standard past s)
    {connection : Connection Nat} (connected : s.engine.connection = some connection) :
    ∃ later call answer first earlier,
      past = later ++ .attached call answer first :: earlier ∧
        (∀ event ∈ later, event.reset? = none) ∧ first.connection = connection := by
  induction reached with
  | refl => simp at connected
  | @step past middle t event before step ih =>
      have bounded := (Reached.numbered before).published_le
      cases resets : event.reset? with
      | none =>
          rw [(step.change bounded).connection_of_not_reset resets] at connected
          obtain ⟨later, call, answer, first, earlier, rfl, keeps, same⟩ := ih connected
          refine ⟨event :: later, call, answer, first, earlier, rfl, ?_, same⟩
          intro other member
          rcases List.mem_cons.mp member with rfl | older
          · exact resets
          · exact keeps other older
      | some number =>
          cases step with
          | attach gathering attached =>
              rw [Engine.attach_of_published_le bounded] at attached
              cases attached
              exact ⟨[], _, _, _, past, rfl, by simp, Option.some.inj connected⟩
          | disconnect =>
              rw [Engine.disconnect_of_published_le bounded] at connected
              simp at connected
          | beginConnect | beginRefresh | ignoreRefresh | finish =>
              simp [Event.reset?] at resets

/-- Every request is made for a connection that was attached before. -/
theorem Reached.attached_of_requested (reached : Reached standard past s) {call : Nat}
    {request : Request Nat} (member : (call, request) ∈ requested past) :
    ∃ call answer first, .attached call answer first ∈ past ∧
      first.connection = request.connection := by
  induction reached with
  | refl => simp [requested] at member
  | @step past middle t event before step ih =>
      rcases requested_cons.mp member with asks | older
      · cases step with
        | attach gathering attached =>
            cases asks
            exact ⟨_, _, _, List.mem_cons_self, rfl⟩
        | beginRefresh started =>
            cases asks
            obtain ⟨connected, _, rfl⟩ := Engine.startRefresh_eq_some_iff.mp started
            obtain ⟨later, call, answer, first, earlier, rfl, _, same⟩ :=
              Reached.exists_attachment before connected
            exact ⟨call, answer, first, by simp, same⟩
        | beginConnect | disconnect | ignoreRefresh | finish =>
            simp [Event.requested?] at asks
      · obtain ⟨call, answer, first, member, same⟩ := ih older
        exact ⟨call, answer, first, List.mem_cons_of_mem _ member, same⟩

/-- No connection has the empty word among its keywords. -/
theorem Reached.empty_notMem_keywords (reached : Reached standard past s) {call : Nat}
    {request : Request Nat} (member : (call, request) ∈ requested past) :
    "" ∉ request.connection.keywords := by
  obtain ⟨call, answer, first, attached, same⟩ := reached.attached_of_requested member
  rw [← same, reached.keywords_of_attached attached]
  exact Vocabulary.empty_notMem_collect standard answer

end SqlAssist.Situation
