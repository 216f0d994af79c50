/-
# Refreshes keep up with the catalog

Tables are put into a catalog and taken out of it at any moment, between any two steps of the
engine that reads it. A fetch sees the catalog as it was at one moment between the request and
the answer. When a refresh has ended with a new set of names, its own or that of a later request,
what is served from then on is a reading not older than the refresh itself: no change made before
the refresh began is missed.

Moments are ends of a past. The draw of a request's number marks one of them, and numbers tell
which of two such moments comes first.
-/

import SqlAssist.Proofs.Candidates.Completion
import SqlAssist.Proofs.Catalog.Database
import SqlAssist.Proofs.Engine.Isolation
import SqlAssist.Proofs.Sql.PartialToken

namespace SqlAssist.Situation

/-! ## A catalog that changes -/

/-- What can happen to an engine and to a catalog it reads. -/
inductive Happening where
  | engine (event : Event)
  | inserted (schema : String) (table : Table)
  | dropped (schema table : String)

namespace Happening

/-- The step of the engine, if it is one. -/
def event? : Happening → Option Event
  | engine event => some event
  | inserted _ _ | dropped _ _ => none

/-- An insertion adds the names of its schema, its table and its columns. -/
def Adds (name : String) : Happening → Prop
  | inserted schema table => name = schema ∨ name = table.name ∨ name ∈ table.columns
  | engine _ | dropped _ _ => False

end Happening

/-- The steps of the engine in a past. -/
def events (past : List Happening) : List Event :=
  past.filterMap Happening.event?

/-- What the catalog holds after a past. -/
def catalogAt (start : Database) : List Happening → Database
  | [] => start
  | .engine _ :: past => catalogAt start past
  | .inserted schema table :: past => (catalogAt start past).insertTable schema table
  | .dropped schema table :: past => ((catalogAt start past).dropTable schema table).2

/-- The names were those of the catalog at one moment since the request was made. -/
def ReadSince (start : Database) (past : List Happening) (call : Nat) (request : Request Nat)
    (names : NameSet) : Prop :=
  ∃ moment, moment <:+ past ∧ (call, request) ∈ requested (events moment) ∧
    names = (catalogAt start moment).objectNames

/-- Runs of an engine in which one source is a catalog that changes. If that source answers, it
answers what the catalog held since it was asked; other sources answer as they like. -/
inductive Watched (standard : Bool) (source : Nat) (start : Database) :
    List Happening → Situation → Prop
  | refl : Watched standard source start [] {}
  | insert {past : List Happening} {s : Situation} (before : Watched standard source start past s)
      (schema : String) (table : Table) :
      Watched standard source start (.inserted schema table :: past) s
  | drop {past : List Happening} {s : Situation} (before : Watched standard source start past s)
      (schema table : String) : Watched standard source start (.dropped schema table :: past) s
  | step {past : List Happening} {s t : Situation} {event : Event}
      (before : Watched standard source start past s) (step : Step standard s event t)
      (honest : ∀ call request names outcome, event = .ended call request (.ok names) outcome →
        request.connection.source = source → ReadSince start past call request names) :
      Watched standard source start (.engine event :: past) t

variable {standard : Bool} {source : Nat} {start : Database} {s : Situation}
  {past later middle earlier moment since : List Happening} {schema name : String}

theorem events_append (later past : List Happening) :
    events (later ++ past) = events later ++ events past :=
  List.filterMap_append

theorem mem_events {event : Event} : event ∈ events past ↔ .engine event ∈ past := by
  simp only [events, List.mem_filterMap]
  constructor
  · rintro ⟨happening, member, taken⟩
    cases happening <;> simp only [Happening.event?, Option.some.injEq, reduceCtorEq] at taken
    exact taken ▸ member
  · intro member
    exact ⟨_, member, rfl⟩

/-- What was asked at one moment had been asked at every later one. -/
theorem requested_subset_of_suffix (suffix : moment <:+ past) :
    requested (events moment) ⊆ requested (events past) := by
  obtain ⟨since, rfl⟩ := suffix
  intro entry member
  rw [events_append, requested, List.filterMap_append]
  exact List.mem_append_right _ member

theorem Watched.reached (watched : Watched standard source start past s) :
    Reached standard (events past) s := by
  induction watched with
  | refl => exact .refl
  | insert before schema table ih => exact ih
  | drop before schema table ih => exact ih
  | step before step honest ih => exact .step ih step

theorem ReadSince.mono {past₁ : List Happening} {call : Nat} {request : Request Nat}
    {names : NameSet} (read : ReadSince start past call request names) (later : past <:+ past₁) :
    ReadSince start past₁ call request names := by
  obtain ⟨moment, before, asked, held⟩ := read
  exact ⟨moment, before.trans later, asked, held⟩

/-- The watched source has only ever answered with what the catalog held. -/
theorem Watched.readSince (watched : Watched standard source start past s) {call : Nat}
    {request : Request Nat} {names : NameSet} {outcome : BuildOutcome}
    (member : .ended call request (.ok names) outcome ∈ events past)
    (ours : request.connection.source = source) : ReadSince start past call request names := by
  induction watched with
  | refl => simp [events] at member
  | insert before schema table ih => exact (ih member).mono (List.suffix_cons _ _)
  | drop before schema table ih => exact (ih member).mono (List.suffix_cons _ _)
  | step before step honest ih =>
      rcases List.mem_cons.mp member with same | older
      · exact (honest _ _ _ _ same.symm ours).mono (List.suffix_cons _ _)
      · exact (ih older).mono (List.suffix_cons _ _)

/-! ## What is served after a refresh -/

section Refresh

variable {past since earlier : List Event} {call : Nat} {request : Request Nat}
  {answer : Answer} {outcome : BuildOutcome}

/-- The number of a refresh is above all that were drawn before it began. -/
theorem Reached.lt_number_of_refresh
    (reached : Reached standard (since ++ .refreshBegan call request :: earlier) s) :
    lastReset earlier < request.number ∧
      ∀ {call₁ request₁}, (call₁, request₁) ∈ requested earlier →
        request₁.number < request.number := by
  obtain ⟨middle, began, _⟩ := reached.split
  cases began with
  | step before step =>
      have numbered := Reached.numbered before
      have above := (step.number_of_requested numbered.published_le rfl).1
      constructor
      · exact Nat.lt_of_le_of_lt (Nat.le_trans numbered.reset_le numbered.published_le) above
      · intro call₁ request₁ member
        exact Nat.lt_of_le_of_lt (numbered.requested_le member) above

/-- A request that has not failed leaves its own number published, or a higher one. -/
theorem Reached.number_le_published (reached : Reached standard past s)
    (ended : .ended call request answer outcome ∈ past)
    (done : outcome = .published ∨ outcome = .superseded) :
    request.number ≤ s.engine.publishedNumber := by
  induction reached with
  | refl => simp at ended
  | step before step ih =>
      rcases List.mem_cons.mp ended with same | older
      · obtain ⟨_, finished⟩ := step.finish_eq same.symm
        obtain ⟨_, _, rfl, _⟩ | ⟨_, _, _, _, after⟩ | ⟨_, _, old, _, after⟩ :=
          Engine.finish_cases finished
        · simp at done
        · exact Nat.le_of_eq (by rw [after])
        · exact after ▸ old
      · have bounded := (Reached.numbered before).published_le
        exact Nat.le_trans (ih older) ((step.change bounded).published_mono bounded)

/-- After a refresh that has not failed something is served, until the connection is replaced. It
answers a request of the same connection, and none from before the refresh. -/
theorem Reached.request_of_refresh
    (reached : Reached standard (since ++ .refreshBegan call request :: earlier) s)
    (ended : .ended call request answer outcome ∈ since)
    (done : outcome = .published ∨ outcome = .superseded)
    (kept : ∀ event ∈ since, event.reset? = none) :
    ∃ snapshot call₁ request₁ outcome₁, s.engine.snapshot = some snapshot ∧
      .ended call₁ request₁ (.ok snapshot.candidates.schemaNames) outcome₁ ∈
        since ++ .refreshBegan call request :: earlier ∧
      request₁.connection = request.connection ∧ (call₁, request₁) ∉ requested earlier := by
  have ended_past := List.mem_append_left (.refreshBegan call request :: earlier) ended
  have published := reached.number_le_published ended_past done
  have reset : lastReset (since ++ .refreshBegan call request :: earlier) = lastReset earlier := by
    rw [lastReset_append kept, lastReset_cons_of_not_reset rfl]
  obtain ⟨above, older⟩ := reached.lt_number_of_refresh
  cases serves : s.engine.snapshot with
  | none =>
      have number := (reached.served.of_none serves).1
      omega
  | some snapshot =>
      have number := (reached.served.of_some snapshot serves).2
      obtain ⟨call₁, request₁, outcome₁, built, _, same, _, connected⟩ :=
        reached.request_of_served serves
      have current := reached.connection_of_reset_lt (reached.tracked.of_ended ended_past).1
        (reset ▸ above)
      refine ⟨snapshot, call₁, request₁, outcome₁, rfl, built, ?_, ?_⟩
      · exact Option.some.inj (connected.symm.trans current)
      · intro early
        have := older early
        omega

end Refresh

/-- **Reading.** After a refresh that has not failed, and until the connection is replaced, the
schema names that are served are those of the catalog at one moment since the refresh began. -/
theorem Watched.moment_of_refresh {call : Nat} {request : Request Nat} {answer : Answer}
    {outcome : BuildOutcome}
    (watched : Watched standard source start
      (since ++ .engine (.refreshBegan call request) :: earlier) s)
    (ours : request.connection.source = source)
    (ended : .engine (.ended call request answer outcome) ∈ since)
    (done : outcome = .published ∨ outcome = .superseded)
    (kept : ∀ event, .engine event ∈ since → event.reset? = none) :
    ∃ snapshot recent old, since = recent ++ old ∧ s.engine.snapshot = some snapshot ∧
      snapshot.candidates.schemaNames =
        (catalogAt start (old ++ .engine (.refreshBegan call request) :: earlier)).objectNames := by
  have reached := watched.reached
  rw [events_append] at reached
  obtain ⟨snapshot, call₁, request₁, outcome₁, serves, built, same, notEarlier⟩ :=
    Reached.request_of_refresh reached (mem_events.mpr ended) done
      fun event member => kept event (mem_events.mp member)
  have answered : .ended call₁ request₁ (.ok snapshot.candidates.schemaNames) outcome₁ ∈
      events (since ++ .engine (.refreshBegan call request) :: earlier) := by
    rw [events_append]
    exact built
  obtain ⟨moment, before, asked, held⟩ := watched.readSince answered (same ▸ ours)
  rcases List.suffix_or_suffix_of_suffix before (List.suffix_append _ _) with inside | ⟨old, rfl⟩
  · rcases List.suffix_cons_iff.mp inside with rfl | early
    · exact ⟨snapshot, since, [], (List.append_nil since).symm, serves, held⟩
    · exact absurd (requested_subset_of_suffix early asked) notEarlier
  · obtain ⟨recent, whole⟩ := before
    rw [← List.append_assoc, List.append_left_inj] at whole
    exact ⟨snapshot, recent, old, whole.symm, serves, held⟩

/-! ## Changes before the refresh -/

theorem catalogAt_append (start : Database) (later past : List Happening) :
    catalogAt start (later ++ past) = catalogAt (catalogAt start past) later := by
  induction later with
  | nil => rfl
  | cons happening later ih => cases happening <;> simp [catalogAt, ih]

/-- A table stays under its name until it is dropped; it may be replaced meanwhile. -/
theorem exists_table?_catalogAt
    (present : ∃ table, start.table? schema name = some table ∧ table.name = name)
    (kept : .dropped schema name ∉ since) :
    ∃ table, (catalogAt start since).table? schema name = some table ∧ table.name = name := by
  induction since with
  | nil => exact present
  | cons happening since ih =>
      obtain ⟨table, stored, named⟩ := ih fun older => kept (List.mem_cons_of_mem _ older)
      cases happening with
      | engine event => exact ⟨table, stored, named⟩
      | inserted schema₁ table₁ =>
          rw [catalogAt, Database.table?_insertTable]
          by_cases same : schema₁ = schema ∧ table₁.name = name
          · exact ⟨table₁, if_pos same, same.2⟩
          · exact ⟨table, by rw [if_neg same, stored], named⟩
      | dropped schema₁ table₁ =>
          have other : ¬ (schema₁ = schema ∧ table₁ = name) := by
            rintro ⟨rfl, rfl⟩
            exact kept List.mem_cons_self
          rw [catalogAt, Database.table?_dropTable, if_neg other]
          exact ⟨table, stored, named⟩

/-- The name of an inserted table is offered until the table is dropped. -/
theorem mem_objectNames_of_inserted {table : Table} {older : List Happening}
    (kept : .dropped schema table.name ∉ since) (nonEmpty : table.name ≠ "") :
    table.name ∈ (catalogAt start (since ++ .inserted schema table :: older)).objectNames := by
  have inserted : (catalogAt start (.inserted schema table :: older)).table? schema table.name =
      some table := by
    rw [catalogAt, Database.table?_insertTable, if_pos ⟨rfl, rfl⟩]
  obtain ⟨found, stored, named⟩ := exists_table?_catalogAt ⟨table, inserted, rfl⟩ kept
  rw [catalogAt_append]
  apply Database.mem_objectNames_iff.mpr
  exact ⟨.inr (.inr ⟨schema, table.name, found, stored, .inl named.symm⟩), nonEmpty⟩

/-- A name that is not in the catalog comes into it by an insertion only. -/
theorem notMem_objectNames_catalogAt (absent : name ∉ start.objectNames)
    (notAdded : ∀ happening ∈ since, ¬ happening.Adds name) :
    name ∉ (catalogAt start since).objectNames := by
  induction since with
  | nil => exact absent
  | cons happening since ih =>
      have before := ih fun other older => notAdded other (List.mem_cons_of_mem _ older)
      cases happening with
      | engine event => exact before
      | inserted schema table =>
          intro offered
          rcases Database.mem_objectNames_of_insertTable offered with old | added
          · exact before old
          · exact notAdded _ List.mem_cons_self added
      | dropped schema table =>
          intro offered
          exact before (Database.mem_objectNames_of_dropTable offered)

end SqlAssist.Situation

/-! ## Completion from what is served -/

namespace SqlAssist.Engine

variable {σ : Type} {engine : Engine σ} {name : String}

/-- A name is offered wherever the word at the cursor is a beginning of it, case set aside. -/
def Completable (engine : Engine σ) (name : String) : Prop :=
  ∀ options buffer cursor token, Sql.PartialToken.atCursor buffer cursor = .ok token →
    startsFolded token.text name = true →
      ∃ found, engine.complete options buffer cursor = .ok found ∧ name ∈ found

theorem completable_of_mem_schemaNames {snapshot : Snapshot}
    (serves : engine.snapshot = some snapshot) (member : name ∈ snapshot.candidates.schemaNames) :
    engine.Completable name := by
  intro options buffer cursor token atCursor starts
  refine ⟨snapshot.candidates.completeToken options token, ?_, ?_⟩
  · simp [complete, candidates, serves, CandidateSet.complete, atCursor, Except.map]
  · apply CandidateSet.mem_completeToken_iff.mpr
    exact ⟨CandidateSet.mem_offered_of_mem_schemaNames member options token, starts⟩

/-- A name that is one word is offered when it is typed out. -/
theorem Completable.typed (completable : engine.Completable name)
    (isWord : ∀ c ∈ name.toList, Sql.isIdentChar c = true) (options : MatchOptions) :
    ∃ found, engine.complete options name (Text.byteLength name.toList) = .ok found ∧
      name ∈ found := by
  have atCursor := @Sql.PartialToken.atCursor_append "" name isWord (by simp) ""
  rw [String.empty_append, String.append_empty, ← Text.byteLength_toList] at atCursor
  apply completable options _ _ _ atCursor
  exact startsFolded_iff.mpr (List.prefix_refl _)

end SqlAssist.Engine

namespace SqlAssist.Situation

variable {standard : Bool} {source : Nat} {start : Database} {s : Situation}
  {since earlier : List Happening}

/-- **No change is lost by refreshes.** Let a refresh of the watched source end without a failure,
and let the connection not be replaced since it began. Then the schema view that is served is that
of the catalog at one moment since the refresh began. A table inserted before the refresh and not
dropped since is completable, unless its name is empty. A name that was gone before the refresh
and has not been added since is not in the view. -/
theorem served_view_since_refresh {call : Nat} {request : Request Nat} {answer : Answer}
    {outcome : BuildOutcome}
    (watched : Watched standard source start
      (since ++ .engine (.refreshBegan call request) :: earlier) s)
    (ours : request.connection.source = source)
    (ended : .engine (.ended call request answer outcome) ∈ since)
    (done : outcome = .published ∨ outcome = .superseded)
    (kept : ∀ event, .engine event ∈ since → event.reset? = none) :
    ∃ snapshot, s.engine.snapshot = some snapshot ∧
      (∃ recent old, since = recent ++ old ∧ snapshot.candidates.schemaOnly =
        View.ofNames (catalogAt start
          (old ++ .engine (.refreshBegan call request) :: earlier)).objectNames) ∧
      (∀ schema table newer older, earlier = newer ++ .inserted schema table :: older →
        .dropped schema table.name ∉ since ++ newer → table.name ≠ "" →
          s.engine.Completable table.name) ∧
      ∀ name newer older, earlier = newer ++ older →
        name ∉ (catalogAt start older).objectNames →
          (∀ happening ∈ since ++ newer, ¬ happening.Adds name) →
            name ∉ snapshot.candidates.schemaOnly.texts := by
  obtain ⟨snapshot, recent, old, rfl, serves, held⟩ :=
    watched.moment_of_refresh ours ended done kept
  have view := snapshot.candidates.schemaOnly_eq
  rw [held] at view
  -- What came between the reading and an earlier moment is a part of the past since that moment.
  have between : ∀ newer : List Happening,
      ∀ happening ∈ old ++ .engine (.refreshBegan call request) :: newer,
        happening = .engine (.refreshBegan call request) ∨ happening ∈ recent ++ old ++ newer := by
    intro newer happening member
    simp only [List.mem_append, List.mem_cons] at member ⊢
    rcases member with inside | same | before
    · exact .inr (.inl (.inr inside))
    · exact .inl same
    · exact .inr (.inr before)
  refine ⟨snapshot, serves, ⟨recent, old, rfl, view⟩, ?_, ?_⟩
  · rintro schema table newer older rfl notDropped nonEmpty
    apply Engine.completable_of_mem_schemaNames serves
    rw [held, ← List.cons_append, ← List.append_assoc]
    apply mem_objectNames_of_inserted _ nonEmpty
    intro member
    rcases between newer _ member with same | drops
    · cases same
    · exact notDropped drops
  · rintro name newer older rfl gone notAdded
    rw [view, View.mem_texts_ofNames, ← List.cons_append, ← List.append_assoc, catalogAt_append]
    apply notMem_objectNames_catalogAt gone
    intro happening member
    rcases between newer happening member with rfl | inside
    · exact id
    · exact notAdded happening inside

/-! ## A short run

Between the connect and the refresh of the short run, the one table of a catalog is dropped and
another one is inserted. -/

def shop : Database :=
  Database.insertTable ⟨"shop", ∅⟩ "public" ⟨"carts", ∅⟩

def connected : List Happening :=
  [.engine (.attached 0 (.error .closed) ⟨2, plainConnection⟩), .engine (.connectBegan 0 7)]

def replaced : List Happening :=
  .dropped "public" "carts" :: .inserted "public" ⟨"orders", ∅⟩ :: connected

theorem watched_twoRequests :
    Watched false 7 shop (.engine (.refreshBegan 1 ⟨3, plainConnection⟩) :: replaced)
      twoRequests := by
  have began : Watched false 7 shop [.engine (.connectBegan 0 7)] _ :=
    .step .refl (.beginConnect {} 7) (by simp)
  have attached : Watched false 7 shop connected _ := .step began (.attach rfl rfl) (by simp)
  have changed := (attached.insert "public" ⟨"orders", ∅⟩).drop "public" "carts"
  have refreshing := Watched.step changed (.beginRefresh rfl) (by simp)
  rwa [Function.update_idem] at refreshing

/-- The new table is offered when it is typed out, and the old one is gone. -/
theorem served_view_since_refresh_replaced :
    ∃ s snapshot, Watched false 7 shop
        ([.engine (.ended 1 ⟨3, plainConnection⟩ (.ok (catalogAt shop replaced).objectNames)
          .published)] ++ .engine (.refreshBegan 1 ⟨3, plainConnection⟩) :: replaced) s ∧
      s.engine.snapshot = some snapshot ∧
      (∃ found, s.engine.complete {} "orders" 6 = .ok found ∧ "orders" ∈ found) ∧
      "carts" ∉ snapshot.candidates.schemaOnly.texts := by
  obtain ⟨s, finishes⟩ : ∃ s, Step false twoRequests
      (.ended 1 ⟨3, plainConnection⟩ (.ok (catalogAt shop replaced).objectNames) .published) s :=
    ⟨_, .finish rfl rfl⟩
  have ended := watched_twoRequests.step finishes (by
    intro call request names outcome same _
    cases same
    exact ⟨_, List.suffix_rfl, List.mem_cons_self, rfl⟩)
  obtain ⟨snapshot, serves, _, inserted, dropped⟩ :=
    @served_view_since_refresh _ _ _ _ [_] _ _ _ _ _ ended rfl List.mem_cons_self (.inl rfl)
      (by simp [Event.reset?])
  refine ⟨s, snapshot, ended, serves, ?_, ?_⟩
  · have completable := inserted "public" ⟨"orders", ∅⟩ [.dropped "public" "carts"] connected rfl
      (by simp) (by simp)
    exact completable.typed (List.all_eq_true.mp (by decide +kernel)) {}
  · exact dropped "carts" [] replaced rfl (by decide +kernel) (by simp [Happening.Adds])

end SqlAssist.Situation
