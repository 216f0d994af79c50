/-
# The newest request is served

What an engine serves is a matter of numbers alone. Among the requests numbered after the latest
reset, those that have built a snapshot are compared, and the one with the highest number is
served, no matter in which order they ended. Failures change nothing, so a slow success still
counts when a newer request has failed.

The last section compares two runs that make the same calls and get the same answers but in which
the requests end in different orders and at different moments. Once every request has ended, both
serve the same snapshot.
-/

import Mathlib.Tactic.MkIffOfInductiveProp
import SqlAssist.Proofs.Engine.Numbers

namespace SqlAssist.Situation

variable {standard : Bool} {past past₁ later : List Event} {event : Event} {s s₁ t : Situation}

/-! ## The newest snapshot -/

/-- Of all that the requests since the latest reset have built, `snapshot` has the highest
number. -/
@[mk_iff isNewest_iff]
structure IsNewest (past : List Event) (snapshot : Snapshot) : Prop where
  mem_built : snapshot ∈ built past
  reset_lt : lastReset past < snapshot.number
  number_le : ∀ other ∈ built past, lastReset past < other.number →
    other.number ≤ snapshot.number

/-- What is served is the newest snapshot, and its number is the one that is published. -/
structure Served (past : List Event) (s : Situation) : Prop where
  number_injective : ∀ first ∈ built past, ∀ second ∈ built past,
    first.number = second.number → first = second
  of_some : ∀ snapshot, s.engine.snapshot = some snapshot →
    IsNewest past snapshot ∧ s.engine.publishedNumber = snapshot.number
  of_none : s.engine.snapshot = none →
    s.engine.publishedNumber = lastReset past ∧
      ∀ snapshot ∈ built past, snapshot.number ≤ lastReset past

theorem built_cons {snapshot : Snapshot} :
    snapshot ∈ built (event :: past) ↔ event.built? = some snapshot ∨ snapshot ∈ built past := by
  cases builds : event.built? <;> simp [built, builds, eq_comm]

/-- A snapshot in the past carries the number of a request that has ended. -/
theorem Tracked.request_of_mem_built (tracked : Tracked past s) {snapshot : Snapshot}
    (member : snapshot ∈ built past) :
    ∃ call request, (call, request) ∈ requested past ∧ s.waiting call = none ∧
      request.number = snapshot.number := by
  obtain ⟨call, request, answer, outcome, ended, builds⟩ := mem_built.mp member
  obtain ⟨asked, idle⟩ := tracked.of_ended ended
  exact ⟨call, request, asked, idle, (Engine.built?_eq_some_iff.mp builds).2.1.symm⟩

theorem Reached.built_le (reached : Reached standard past s) {snapshot : Snapshot}
    (member : snapshot ∈ built past) : snapshot.number ≤ s.engine.drawn := by
  obtain ⟨call, request, asked, _, number⟩ := reached.tracked.request_of_mem_built member
  exact number ▸ reached.numbered.requested_le asked

/-- A request ends once, so its snapshot has a number that no earlier snapshot has. -/
theorem Step.built_number_ne (step : Step standard s event t) (reached : Reached standard past s)
    {snapshot other : Snapshot} (builds : event.built? = some snapshot)
    (member : other ∈ built past) : snapshot.number ≠ other.number := by
  intro same
  obtain ⟨call, request, building, number⟩ := step.request_of_built builds
  obtain ⟨call₁, request₁, asked, idle, number₁⟩ := reached.tracked.request_of_mem_built member
  obtain ⟨rfl, rfl⟩ := reached.numbered.number_injective (reached.tracked.mem_requested building)
    asked (by omega)
  simp [Situation.building, idle] at building

/-- No snapshot in the past has a higher number than what is published. -/
theorem Served.built_le_published (served : Served past s) {snapshot : Snapshot}
    (member : snapshot ∈ built past) : snapshot.number ≤ s.engine.publishedNumber := by
  cases serves : s.engine.snapshot with
  | none =>
      obtain ⟨number, all⟩ := served.of_none serves
      exact number ▸ all snapshot member
  | some current =>
      obtain ⟨newest, number⟩ := served.of_some current serves
      by_cases since : lastReset past < snapshot.number
      · exact number ▸ newest.number_le snapshot member since
      · have := newest.reset_lt
        omega

theorem Served.number_injective_cons (served : Served past s)
    (reached : Reached standard past s) (step : Step standard s event t) :
    ∀ first ∈ built (event :: past), ∀ second ∈ built (event :: past),
      first.number = second.number → first = second := by
  intro first member second member₁ same
  rcases built_cons.mp member with builds | older <;>
    rcases built_cons.mp member₁ with builds₁ | older₁
  · exact Option.some.inj (builds.symm.trans builds₁)
  · exact absurd same (step.built_number_ne reached builds older₁)
  · exact absurd same.symm (step.built_number_ne reached builds₁ older)
  · exact served.number_injective first older second older₁ same

/-- A step that neither resets nor publishes leaves the newest snapshot the newest, as what it
builds itself is not above what is published. -/
theorem Served.keep (served : Served past s)
    (injective : ∀ first ∈ built (event :: past), ∀ second ∈ built (event :: past),
      first.number = second.number → first = second)
    (keeps : event.reset? = none) (snapshot : t.engine.snapshot = s.engine.snapshot)
    (published : t.engine.publishedNumber = s.engine.publishedNumber)
    (older : ∀ made, event.built? = some made → made.number ≤ s.engine.publishedNumber) :
    Served (event :: past) t := by
  refine ⟨injective, ?_, ?_⟩
  · intro current serves
    rw [snapshot] at serves
    obtain ⟨newest, number⟩ := served.of_some current serves
    refine ⟨⟨built_cons.mpr (.inr newest.mem_built), ?_, ?_⟩, published.trans number⟩
    · rw [lastReset_cons_of_not_reset keeps]
      exact newest.reset_lt
    · intro other member since
      rw [lastReset_cons_of_not_reset keeps] at since
      rcases built_cons.mp member with builds | before
      · exact number ▸ older other builds
      · exact newest.number_le other before since
  · intro nothing
    rw [snapshot] at nothing
    obtain ⟨number, all⟩ := served.of_none nothing
    rw [lastReset_cons_of_not_reset keeps]
    refine ⟨published.trans number, fun other member => ?_⟩
    rcases built_cons.mp member with builds | before
    · exact number ▸ older other builds
    · exact all other before

theorem Served.step (served : Served past s) (reached : Reached standard past s)
    (step : Step standard s event t) : Served (event :: past) t := by
  have injective := served.number_injective_cons reached step
  cases step.change reached.numbered.published_le with
  | quiet keeps builds drawn same =>
      exact served.keep injective keeps (by rw [same]) (by rw [same]) (by simp [builds])
  | reset resets builds snapshot published drawn =>
      refine ⟨injective, by simp [snapshot], fun _ => ?_⟩
      rw [lastReset_cons_of_reset resets]
      refine ⟨published, fun other member => ?_⟩
      rcases built_cons.mp member with builds₁ | before
      · simp [builds] at builds₁
      · exact Nat.le_succ_of_le (reached.built_le before)
  | @publish made keeps builds newer published =>
      refine ⟨injective, ?_, by simp [published]⟩
      intro snapshot serves
      have above := reached.numbered.reset_le
      obtain rfl : made = snapshot := by simpa [published] using serves
      refine ⟨⟨built_cons.mpr (.inl builds), ?_, ?_⟩, by rw [published]⟩
      · rw [lastReset_cons_of_not_reset keeps]
        exact Nat.lt_of_le_of_lt above newer
      · intro other member _
        rcases built_cons.mp member with builds₁ | older
        · cases builds.symm.trans builds₁
          exact Nat.le_refl _
        · exact Nat.le_of_lt (Nat.lt_of_le_of_lt (served.built_le_published older) newer)
  | @late made keeps builds older same =>
      apply served.keep injective keeps (by rw [same]) (by rw [same])
      intro other builds₁
      cases builds.symm.trans builds₁
      exact older

theorem Reached.served (reached : Reached standard past s) : Served past s := by
  induction reached with
  | refl => exact ⟨by simp [built], by simp, by simp [built]⟩
  | step before step ih => exact ih.step before step

/-- The snapshot that is served is the newest one. -/
theorem Reached.snapshot_eq_some_iff (reached : Reached standard past s) {snapshot : Snapshot} :
    s.engine.snapshot = some snapshot ↔ IsNewest past snapshot := by
  refine ⟨fun serves => (reached.served.of_some snapshot serves).1, fun newest => ?_⟩
  cases serves : s.engine.snapshot with
  | none =>
      have below := (reached.served.of_none serves).2 snapshot newest.mem_built
      exact absurd newest.reset_lt (Nat.not_lt.mpr below)
  | some current =>
      have other := (reached.served.of_some current serves).1
      have same : current.number = snapshot.number :=
        Nat.le_antisymm (newest.number_le current other.mem_built other.reset_lt)
          (other.number_le snapshot newest.mem_built newest.reset_lt)
      rw [reached.served.number_injective current other.mem_built snapshot newest.mem_built same]

/-- Nothing is served as long as no request since the latest reset has built a snapshot. -/
theorem Reached.snapshot_eq_none_iff (reached : Reached standard past s) :
    s.engine.snapshot = none ↔ ∀ snapshot ∈ built past, snapshot.number ≤ lastReset past := by
  refine ⟨fun nothing => (reached.served.of_none nothing).2, fun all => ?_⟩
  cases serves : s.engine.snapshot with
  | none => rfl
  | some current =>
      have newest := (reached.served.of_some current serves).1
      exact absurd newest.reset_lt (Nat.not_lt.mpr (all current newest.mem_built))

/-! ## How requests end -/

theorem Step.finish_eq (step : Step standard s event t) {call : Nat} {request : Request Nat}
    {answer : Answer} {outcome : BuildOutcome}
    (ended : event = .ended call request answer outcome) :
    s.building call = some request ∧
      s.engine.finish request answer = (outcome, t.engine) := by
  subst ended
  cases step with
  | finish building finished => exact ⟨building, finished⟩

/-- A request reports a failure if it has built nothing, and then the engine is as before. It is
published if it is above what is published, and superseded if it is not. -/
theorem Step.outcome_iff (step : Step standard s event t) {call : Nat} {request : Request Nat}
    {answer : Answer} {outcome : BuildOutcome}
    (ended : event = .ended call request answer outcome) :
    ((∃ cause, outcome = .failed cause) ↔ ∃ cause, Engine.build request answer = .error cause) ∧
      (outcome = .published ↔ (∃ set, Engine.build request answer = .ok set) ∧
        s.engine.publishedNumber < request.number) ∧
      (outcome = .superseded ↔ (∃ set, Engine.build request answer = .ok set) ∧
        request.number ≤ s.engine.publishedNumber) ∧
      ((∃ cause, outcome = .failed cause) → t.engine = s.engine) := by
  obtain ⟨_, finished⟩ := step.finish_eq ended
  obtain ⟨cause, fails, rfl, same⟩ | ⟨snapshot, builds, newer, rfl, _⟩ |
      ⟨snapshot, builds, older, rfl, _⟩ := Engine.finish_cases finished
  · simp [fails, same]
  · have made := (Engine.built?_eq_some_iff.mp builds).1
    simp [made, newer]
  · have made := (Engine.built?_eq_some_iff.mp builds).1
    simp [made, older, Nat.not_lt.mpr older]

/-- Only a reset takes away what is served. -/
theorem Step.reset_of_fresh_of_stale (step : Step standard s event t)
    (reached : Reached standard past s) (fresh : s.engine.state = .fresh)
    (stale : t.engine.state = .stale) : event.reset? ≠ none := by
  rw [Engine.state_eq_stale_iff] at stale
  obtain ⟨snapshot, serves⟩ := Engine.state_eq_fresh_iff.mp fresh
  cases step.change reached.numbered.published_le with
  | quiet keeps builds drawn same =>
      rw [same] at stale
      simp [serves] at stale
  | reset resets => simp [resets]
  | publish keeps builds newer published => simp [published] at stale
  | late keeps builds older same => simp [same, serves] at stale

/-- Only a request of the current connection that has built a snapshot makes an engine serve. -/
theorem Step.published_of_stale_of_fresh (step : Step standard s event t)
    (reached : Reached standard past s) (stale : s.engine.state = .stale)
    (fresh : t.engine.state = .fresh) :
    ∃ call request answer, event = .ended call request answer .published ∧
      s.engine.connection = some request.connection := by
  rw [Engine.state_eq_stale_iff] at stale
  obtain ⟨snapshot, serves⟩ := Engine.state_eq_fresh_iff.mp fresh
  cases step with
  | finish building finished =>
      obtain ⟨_, _, rfl, rfl⟩ | ⟨_, builds, newer, rfl, rfl⟩ | ⟨_, _, _, rfl, rfl⟩ :=
        Engine.finish_cases finished
      · simp [stale] at serves
      · refine ⟨_, _, _, rfl, ?_⟩
        apply reached.connection_of_reset_lt (reached.tracked.mem_requested building)
        exact Nat.lt_of_le_of_lt reached.numbered.reset_le newer
      · simp [stale] at serves
  | beginConnect | ignoreRefresh => simp [stale] at serves
  | attach gathering attached =>
      rw [Engine.attach_of_published_le reached.numbered.published_le] at attached
      cases attached
      simp at serves
  | disconnect =>
      simp [Engine.disconnect_of_published_le reached.numbered.published_le] at serves
  | beginRefresh started =>
      obtain ⟨_, _, rfl⟩ := Engine.startRefresh_eq_some_iff.mp started
      simp [stale] at serves

/-! ## Requests that end in another order -/

/-- The step ends a request. -/
def Event.endsRequest : Event → Bool
  | ended _ _ _ _ => true
  | _ => false

/-- The past without the ends of requests: which calls were made, what they asked for and what
keywords they were answered. -/
def asked (past : List Event) : List Event :=
  past.filter (!·.endsRequest)

/-- Requests are answered by their numbers. -/
def AnsweredBy (answers : Nat → Answer) (past : List Event) : Prop :=
  ∀ call request answer outcome, .ended call request answer outcome ∈ past →
    answer = answers request.number

/-- Readings that take nothing from the end of a request are readings of what was asked. -/
theorem filterMap_asked {α : Type} {reading : Event → Option α}
    (nothing : ∀ event, event.endsRequest = true → reading event = none) (past : List Event) :
    (asked past).filterMap reading = past.filterMap reading := by
  rw [asked, List.filterMap_filter]
  congr
  funext event
  cases ends : event.endsRequest with
  | false => rfl
  | true => simp [nothing event ends]

theorem requested_asked (past : List Event) : requested (asked past) = requested past := by
  apply filterMap_asked
  intro event ends
  cases event <;> simp [Event.endsRequest, Event.requested?] at ends ⊢

theorem lastReset_asked (past : List Event) : lastReset (asked past) = lastReset past := by
  simp only [lastReset, ← List.head?_filterMap]
  rw [filterMap_asked]
  intro event ends
  cases event <;> simp [Event.endsRequest, Event.reset?] at ends ⊢

/-- A run that has ended all its requests has built what any run with its requests and its
answers has built. -/
theorem Reached.built_subset (reached : Reached standard past s)
    (reached₁ : Reached standard past₁ s₁) (same : asked past = asked past₁)
    {answers : Nat → Answer} (answered : AnsweredBy answers past)
    (answered₁ : AnsweredBy answers past₁) (done : ∀ call, s₁.building call = none) :
    built past ⊆ built past₁ := by
  intro snapshot member
  obtain ⟨call, request, answer, outcome, ended, builds⟩ := mem_built.mp member
  have shared : (call, request) ∈ requested past₁ := by
    rw [← requested_asked past₁, ← same, requested_asked]
    exact (reached.tracked.of_ended ended).1
  rcases reached₁.tracked.building_or_ended shared with building | ⟨answer₁, outcome₁, ended₁⟩
  · simp [done call] at building
  · rw [answered _ _ _ _ ended, ← answered₁ _ _ _ _ ended₁] at builds
    exact mem_built.mpr ⟨call, request, answer₁, outcome₁, ended₁, builds⟩

/-- Once all requests have ended, the order in which they did no longer shows. -/
theorem Reached.snapshot_eq_of_asked_eq (reached : Reached standard past s)
    (reached₁ : Reached standard past₁ s₁) (same : asked past = asked past₁)
    {answers : Nat → Answer} (answered : AnsweredBy answers past)
    (answered₁ : AnsweredBy answers past₁) (done : ∀ call, s.building call = none)
    (done₁ : ∀ call, s₁.building call = none) :
    s.engine.snapshot = s₁.engine.snapshot := by
  have reset : lastReset past = lastReset past₁ := by
    rw [← lastReset_asked past, same, lastReset_asked]
  have member : ∀ snapshot, snapshot ∈ built past ↔ snapshot ∈ built past₁ := fun snapshot =>
    ⟨fun old => reached.built_subset reached₁ same answered answered₁ done₁ old,
      fun new => reached₁.built_subset reached same.symm answered₁ answered done new⟩
  apply Option.ext
  intro snapshot
  rw [reached.snapshot_eq_some_iff, reached₁.snapshot_eq_some_iff]
  simp only [isNewest_iff, reset, member]

/-- **What is served is decided by request numbers.** After any steps, the newest snapshot since
the latest reset is served, and nothing if there is none. Of the next step it is said when it can
stop or start the serving, how a request that ends reports, and that a failure changes nothing.
Of another run with the same calls and the same answers it is said that it serves the same once
both have ended all requests. -/
theorem served_by_request_number (reached : Reached standard past s) :
    (∀ snapshot, s.engine.snapshot = some snapshot ↔ IsNewest past snapshot) ∧
      (s.engine.snapshot = none ↔
        ∀ snapshot ∈ built past, snapshot.number ≤ lastReset past) ∧
      (∀ event t, Step standard s event t →
        (s.engine.state = .fresh → t.engine.state = .stale → event.reset? ≠ none) ∧
          (s.engine.state = .stale → t.engine.state = .fresh →
            ∃ call request answer, event = .ended call request answer .published ∧
              s.engine.connection = some request.connection)) ∧
      (∀ call request answer outcome t,
        Step standard s (.ended call request answer outcome) t →
          ((∃ cause, outcome = .failed cause) ↔
            ∃ cause, Engine.build request answer = .error cause) ∧
          ((∃ cause, Engine.build request answer = .error cause) ↔
            (∃ cause, answer = .error cause) ∨ ∃ names, answer = .ok names ∧ "" ∈ names) ∧
          (outcome = .published ↔ (∃ set, Engine.build request answer = .ok set) ∧
            s.engine.publishedNumber < request.number) ∧
          (outcome = .superseded ↔ (∃ set, Engine.build request answer = .ok set) ∧
            request.number ≤ s.engine.publishedNumber) ∧
          ((∃ cause, outcome = .failed cause) → t.engine = s.engine)) ∧
      ∀ past₁ s₁ answers, Reached standard past₁ s₁ → asked past = asked past₁ →
        AnsweredBy answers past → AnsweredBy answers past₁ →
          (∀ call, s.building call = none) → (∀ call, s₁.building call = none) →
            s.engine.snapshot = s₁.engine.snapshot := by
  refine ⟨fun snapshot => reached.snapshot_eq_some_iff, reached.snapshot_eq_none_iff,
    fun event t step => ⟨?_, ?_⟩, fun call request answer outcome t step => ?_, ?_⟩
  · exact step.reset_of_fresh_of_stale reached
  · exact step.published_of_stale_of_fresh reached
  · obtain ⟨failed, published, superseded, keeps⟩ := step.outcome_iff rfl
    obtain ⟨building, _⟩ := step.finish_eq rfl
    have nonEmpty := reached.empty_notMem_keywords (reached.tracked.mem_requested building)
    exact ⟨failed, Engine.build_eq_error_iff nonEmpty, published, superseded, keeps⟩
  · intro past₁ s₁ answers reached₁ same answered answered₁ done done₁
    exact reached.snapshot_eq_of_asked_eq reached₁ same answered answered₁ done done₁

/-- The newer of two requests may end first or last; the same is served. -/
theorem served_by_request_number_overtaken :
    ∃ past past₁ s s₁, Reached false past s ∧ Reached false past₁ s₁ ∧ past ≠ past₁ ∧
      s.engine.publishedNumber = 3 ∧ s.engine.snapshot = s₁.engine.snapshot := by
  let answers : Nat → Answer := fun number =>
    .ok (NameSet.ofList [if number = 2 then "orders" else "customers"])
  have older : Reached false (.ended 0 _ (answers 2) .published :: _) _ :=
    .step reached_twoRequests (.finish rfl rfl)
  have both : Reached false (.ended 1 _ (answers 3) .published :: _) _ :=
    .step older (.finish rfl rfl)
  have newer : Reached false (.ended 1 _ (answers 3) .published :: _) _ :=
    .step reached_twoRequests (.finish rfl rfl)
  have both₁ : Reached false (.ended 0 _ (answers 2) .superseded :: _) _ :=
    .step newer (.finish rfl rfl)
  refine ⟨_, _, _, _, both, both₁, by simp, rfl, ?_⟩
  refine (served_by_request_number both).2.2.2.2 _ _ answers both₁ rfl ?_ ?_ ?_ ?_
  · intro call request answer outcome member
    simp only [List.mem_cons, Event.ended.injEq, reduceCtorEq, List.not_mem_nil,
      or_false] at member
    obtain ⟨_, rfl, rfl, _⟩ | ⟨_, rfl, rfl, _⟩ := member <;> rfl
  · intro call request answer outcome member
    simp only [List.mem_cons, Event.ended.injEq, reduceCtorEq, List.not_mem_nil,
      or_false] at member
    obtain ⟨_, rfl, rfl, _⟩ | ⟨_, rfl, rfl, _⟩ := member <;> rfl
  · intro call
    match call with
    | 0 | 1 | _ + 2 => rfl
  · intro call
    match call with
    | 0 | 1 | _ + 2 => rfl

end SqlAssist.Situation
