/-
# Connections do not leak into each other

Whatever is served belongs to the current attachment: its keywords are the ones gathered when
that attachment was made, and its schema names answer a fetch made for it, by the call that
attached or by a refresh begun since. Attaching the same source again makes a new attachment,
which shares nothing with the old one.

Attachments are told apart by their place in the past. The split of the past at the latest
attachment carries the proof: requests made before it are numbered below its reset, and requests
made after it are made for it.
-/

import SqlAssist.Proofs.Engine.Precedence

namespace SqlAssist.Situation

variable {standard : Bool} {past later earlier : List Event} {s t : Situation}
  {call call₁ : Nat} {answer : Answer} {first request : Request Nat}

/-- A run can be cut at any moment of its past. -/
theorem Reached.split (reached : Reached standard (later ++ past) s) :
    ∃ middle, Reached standard past middle ∧ Leads standard middle later s := by
  induction later generalizing s with
  | nil => exact ⟨s, reached, .refl⟩
  | cons event later ih =>
      cases reached with
      | step before step =>
          obtain ⟨middle, reached, leads⟩ := ih before
          exact ⟨middle, reached, .step leads step⟩

/-- Requests made before an attachment are numbered below its reset. -/
theorem Reached.number_lt_attachment
    (reached : Reached standard (later ++ .attached call answer first :: earlier) s)
    (member : (call₁, request) ∈ requested earlier) :
    request.number < first.connection.number := by
  obtain ⟨middle, attached, _⟩ := reached.split
  cases attached with
  | step before step =>
      have numbered := Reached.numbered before
      have reset := (step.change numbered.published_le).reset_number rfl
      have := numbered.requested_le member
      omega

/-- A request numbered above the reset of the latest attachment is the first build of that
attachment or a refresh begun since. -/
theorem Reached.request_of_attachment
    (reached : Reached standard (later ++ .attached call answer first :: earlier) s)
    (keeps : ∀ event ∈ later, event.reset? = none)
    (member : (call₁, request) ∈ requested (later ++ .attached call answer first :: earlier))
    (since : first.connection.number < request.number) :
    call₁ = call ∧ request = first ∨ .refreshBegan call₁ request ∈ later := by
  have not_earlier : (call₁, request) ∉ requested earlier := fun old =>
    Nat.lt_asymm since (reached.number_lt_attachment old)
  rcases mem_requested.mp member with ⟨other, attached⟩ | began
  · rcases List.mem_append.mp attached with recent | old
    · simpa [Event.reset?] using keeps _ recent
    · rcases List.mem_cons.mp old with same | old
      · cases same
        exact .inl ⟨rfl, rfl⟩
      · exact absurd (mem_requested.mpr (.inl ⟨other, old⟩)) not_earlier
  · rcases List.mem_append.mp began with recent | old
    · exact .inr recent
    · rcases List.mem_cons.mp old with same | old
      · cases same
      · exact absurd (mem_requested.mpr (.inr old)) not_earlier

/-- An end of a request numbered above that reset stands after the attachment. -/
theorem Reached.ended_since_attachment {outcome : BuildOutcome} {answer₁ : Answer}
    (reached : Reached standard (later ++ .attached call answer first :: earlier) s)
    (member : .ended call₁ request answer₁ outcome ∈
      later ++ .attached call answer first :: earlier)
    (since : first.connection.number < request.number) :
    .ended call₁ request answer₁ outcome ∈ later := by
  rcases List.mem_append.mp member with recent | old
  · exact recent
  · rcases List.mem_cons.mp old with same | old
    · cases same
    · obtain ⟨middle, attached, _⟩ := reached.split
      cases attached with
      | step before step =>
          have early := ((Reached.tracked before).of_ended old).1
          exact absurd (reached.number_lt_attachment early) (Nat.lt_asymm since)

/-- What is served was built by a request of the current connection. -/
theorem Reached.request_of_served (reached : Reached standard past s) {snapshot : Snapshot}
    (serves : s.engine.snapshot = some snapshot) :
    ∃ call request outcome,
      .ended call request (.ok snapshot.candidates.schemaNames) outcome ∈ past ∧
        snapshot.candidates.keywords = request.connection.keywords ∧
        request.number = snapshot.number ∧ lastReset past < request.number ∧
        s.engine.connection = some request.connection := by
  have newest := reached.snapshot_eq_some_iff.mp serves
  obtain ⟨call, request, answer, outcome, ended, builds⟩ := mem_built.mp newest.mem_built
  obtain ⟨made, number, _⟩ := Engine.built?_eq_some_iff.mp builds
  obtain ⟨rfl, words⟩ := Engine.build_eq_ok_iff.mp made
  have since : lastReset past < request.number := number ▸ newest.reset_lt
  exact ⟨call, request, outcome, ended, words, number.symm, since,
    reached.connection_of_reset_lt (reached.tracked.of_ended ended).1 since⟩

/-- A request of a former connection will never be published, however late it ends. -/
theorem Reached.finish_of_former (reached : Reached standard past s)
    (building : s.building call = some request)
    (former : s.engine.connection ≠ some request.connection) (leads : Leads standard s later t)
    (answer : Answer) :
    (t.engine.finish request answer).2 = t.engine ∧
      (t.engine.finish request answer).1 ≠ .published := by
  apply Engine.finish_of_number_le
  have below : request.number ≤ lastReset past := Nat.le_of_not_lt fun since =>
    former (reached.connection_of_reset_lt (reached.tracked.mem_requested building) since)
  calc
    request.number ≤ lastReset past := below
    _ ≤ s.engine.publishedNumber := reached.numbered.reset_le
    _ ≤ t.engine.publishedNumber := leads.published_mono reached

/-- **What is served belongs to the current attachment.** If a snapshot is served, the past splits
at the latest attachment, with no reset after it. The keywords of the snapshot are those gathered
for that attachment, and its schema names were answered to a request of it. Without a connection
nothing is served, and a request of a former connection changes nothing from then on. -/
theorem served_for_current_attachment (reached : Reached standard past s) :
    (∀ snapshot, s.engine.snapshot = some snapshot →
      ∃ later call answer first earlier,
        past = later ++ .attached call answer first :: earlier ∧
          (∀ event ∈ later, event.reset? = none) ∧
          s.engine.connection = some first.connection ∧
          snapshot.candidates.keywords = Vocabulary.collect standard answer ∧
          ∃ call₁ request outcome,
            .ended call₁ request (.ok snapshot.candidates.schemaNames) outcome ∈ later ∧
              request.connection = first.connection ∧
              (call₁ = call ∧ request = first ∨ .refreshBegan call₁ request ∈ later)) ∧
      (s.engine.connection = none → s.engine.state = .stale) ∧
      ∀ call request, s.building call = some request →
        s.engine.connection ≠ some request.connection →
          ∀ later t answer, Leads standard s later t →
            (t.engine.finish request answer).2 = t.engine ∧
              (t.engine.finish request answer).1 ≠ .published := by
  refine ⟨?_, ?_, ?_⟩
  · intro snapshot serves
    obtain ⟨call₁, request, outcome, ended, words, _, since, current⟩ :=
      reached.request_of_served serves
    obtain ⟨later, call, answer, first, earlier, rfl, keeps, same⟩ :=
      reached.exists_attachment current
    rw [lastReset_append keeps, lastReset_cons_of_reset rfl] at since
    have asked := (reached.tracked.of_ended ended).1
    refine ⟨later, call, answer, first, earlier, rfl, keeps, same ▸ current, ?_,
      call₁, request, outcome, reached.ended_since_attachment ended since, same.symm,
      reached.request_of_attachment keeps asked since⟩
    rw [words, ← same]
    exact reached.keywords_of_attached (List.mem_append_right _ List.mem_cons_self)
  · intro disconnected
    cases serves : s.engine.snapshot with
    | none => exact Engine.state_eq_stale_iff.mpr serves
    | some snapshot =>
        obtain ⟨_, _, _, _, _, _, _, current⟩ := reached.request_of_served serves
        simp [disconnected] at current
  · intro call request building former later t answer leads
    exact reached.finish_of_former building former leads answer

/-- After a refresh was published the past shows the fetch that named the table; after a
disconnect the same refresh, still under way, comes to nothing. -/
theorem served_for_current_attachment_refreshed :
    (∃ past s snapshot, Reached false past s ∧ s.engine.snapshot = some snapshot ∧
      ∃ call request outcome,
        .ended call request (.ok snapshot.candidates.schemaNames) outcome ∈ past) ∧
      ∃ past s, Reached false past s ∧ s.building 1 = some ⟨3, plainConnection⟩ ∧
        s.engine.state = .stale ∧
        ∀ answer, (s.engine.finish ⟨3, plainConnection⟩ answer).2 = s.engine := by
  constructor
  · have published : Reached false
        (.ended 1 _ (.ok (NameSet.ofList ["orders"])) .published :: _) _ :=
      .step reached_twoRequests (.finish rfl rfl)
    obtain ⟨_, _, _, _, _, split, _, _, _, call, request, outcome, ended, _⟩ :=
      (served_for_current_attachment published).1 _ rfl
    refine ⟨_, _, _, published, rfl, call, request, outcome, ?_⟩
    rw [split]
    exact List.mem_append_left _ ended
  · have released : Reached false (.disconnected 2 4 :: _) _ :=
      .step reached_twoRequests (.disconnect _)
    obtain ⟨_, stale, former⟩ := served_for_current_attachment released
    refine ⟨_, _, released, rfl, stale rfl, fun answer => ?_⟩
    exact (former 1 _ rfl (by simp [Engine.disconnect_of_published_le, twoRequests]) [] _ answer
      .refl).1

end SqlAssist.Situation
