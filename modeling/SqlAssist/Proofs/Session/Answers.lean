/-
# What a server's messages come to

A server answers a statement with one message after another: that it is prepared, that it is
carried out, a row, the end of the rows, or that it has failed. `Standing` follows a statement
through such messages without a session and is what the session is measured against. A session
takes up messages through its replies, and the rows of a result make one reply as soon as enough of
them have come to end the counting. The main statement is that both agree: the session has the
result that the messages come to, and touches its engine only to start the refresh that an update
count can call for.
-/

import SqlAssist.Session.Basic
import SqlAssist.Proofs.Session.RowCount

namespace SqlAssist

variable {σ : Type}

/-- A row, or why there is none. -/
abbrev Row := Except DatabaseError Unit

/-- What a server sends for a statement. -/
inductive ServerMessage where
  /-- The statement is prepared; without columns it returns no rows. -/
  | prepared (columns : List String)
  /-- A statement without rows was carried out. -/
  | done (affected : Nat)
  | row (row : Row)
  | endOfRows
  | failed (cause : DatabaseError)

/-! ## A statement on its own -/

/-- Where a statement stands with its server. -/
inductive Standing where
  | preparing
  /-- Under execution, without rows to come. -/
  | executing
  /-- Under execution, with so many rows counted; there is at least one column. -/
  | counting (first : String) (more : List String) (counted : Nat)
  | ended (result : Except Error Outcome)

namespace Standing

/-- What a message makes of a statement of which at most `limit` rows are counted. A message out of
place changes nothing. -/
def hear (limit : Nat) : Standing → ServerMessage → Standing
  | ended result, _ => ended result
  | _, .failed cause => ended (.error (.database cause))
  | preparing, .prepared [] => executing
  | preparing, .prepared (first :: more) => counting first more 0
  | executing, .done affected => ended (.ok (.updateCount affected))
  | counting _ _ _, .row (.error cause) => ended (.error (.database cause))
  | counting first more counted, .row (.ok _) =>
    if counted = limit then ended (.ok (.resultSet (first :: more) ⟨limit, true⟩))
    else counting first more (counted + 1)
  | counting first more counted, .endOfRows =>
    ended (.ok (.resultSet (first :: more) ⟨counted, false⟩))
  | standing, _ => standing

/-- The result of a statement that has ended. -/
def result? : Standing → Option (Except Error Outcome)
  | ended result => some result
  | preparing | executing | counting _ _ _ => none

theorem foldl_hear_ended (limit : Nat) (result : Except Error Outcome)
    (messages : List ServerMessage) :
    messages.foldl (hear limit) (ended result) = ended result := by
  induction messages with
  | nil => rfl
  | cons message rest ih => exact ih

theorem result?_hear_ne_cancelled {limit : Nat} {standing : Standing}
    (not : standing.result? ≠ some (.error .cancelled)) (message : ServerMessage) :
    (standing.hear limit message).result? ≠ some (.error .cancelled) := by
  cases standing with
  | ended result => exact not
  | preparing =>
      match message with
      | .prepared [] | .prepared (_ :: _) | .done _ | .row _ | .endOfRows | .failed _ =>
          simp [hear, result?]
  | executing => cases message <;> simp [hear, result?]
  | counting first more counted =>
      match message with
      | .row (.ok _) =>
          simp only [hear]
          split <;> simp [result?]
      | .row (.error _) | .prepared _ | .done _ | .endOfRows | .failed _ => simp [hear, result?]

end Standing

/-- The result that the messages for a statement come to, if they are enough for one. -/
def answer? (limit : Nat) (messages : List ServerMessage) : Option (Except Error Outcome) :=
  (messages.foldl (Standing.hear limit) .preparing).result?

/-- No server cancels a statement. -/
theorem answer?_ne_cancelled (limit : Nat) (messages : List ServerMessage) :
    answer? limit messages ≠ some (.error .cancelled) := by
  have start : Standing.preparing.result? ≠ some (.error .cancelled) := by simp [Standing.result?]
  unfold answer?
  generalize Standing.preparing = standing at start
  induction messages generalizing standing with
  | nil => exact start
  | cons message rest ih => exact ih _ (Standing.result?_hear_ne_cancelled start message)

/-! ## Counting rows as they come -/

/-- Counting ends like the rows after those that have been counted. -/
theorem countCapped_replicate_append {limit counted : Nat} (within : counted ≤ limit)
    (rows : List Row) :
    countCapped limit (List.replicate counted (.ok ()) ++ rows) = countFrom limit counted rows := by
  have good : ∀ row ∈ List.replicate counted (.ok () : Row), row.isOk = true := by
    intro row member
    rw [List.eq_of_mem_replicate member]
    rfl
  rw [countCapped_append good (by rwa [List.length_replicate]), List.length_replicate]

/-! ## Statements of a session -/

namespace Session

variable {session : Session σ} {id other : Nat} {statement : Running}
  {result : Except Error Outcome} {columns : List String} {reply : ServerReply}

/-- The statement with this number, if it is running. -/
def running? (session : Session σ) (id : Nat) : Option Running :=
  session.running.find? (·.id = id)

@[simp]
theorem running?_conclude_self : (session.conclude id result).running? id = none := by
  simp [running?, conclude]

theorem running?_conclude_of_ne (differs : other ≠ id) :
    (session.conclude id result).running? other = session.running? other := by
  simp only [running?, conclude, List.find?_filter]
  congr 1
  funext statement
  by_cases same : statement.id = other
  · simp [same, differs]
  · simp [same]

@[simp]
theorem result?_conclude_self : (session.conclude id result).result? id = some result := by
  simp [result?, conclude]

theorem result?_conclude_of_ne (differs : other ≠ id) :
    (session.conclude id result).result? other = session.result? other := by
  have unequal : (other == id) = false := beq_false_of_ne differs
  simp [result?, conclude, List.lookup_cons, unequal]

@[simp]
theorem running?_notify : session.notify.running? id = session.running? id := by
  unfold notify
  split <;> rfl

@[simp]
theorem result?_notify : session.notify.result? id = session.result? id := by
  unfold notify
  split <;> rfl

theorem id_of_running? (found : session.running? id = some statement) : statement.id = id := by
  simpa using List.find?_some found

theorem running?_eq_none_iff : session.running? id = none ↔ id ∉ session.running.map (·.id) := by
  simp [running?]

theorem running?_begin_self {sql : String} (unused : session.running? id = none) :
    (session.begin id sql).running? id = some ⟨id, sql, .preparing⟩ := by
  unfold running? at unused
  simp [running?, begin, List.find?_append, unused]

theorem running?_begin_of_ne {sql : String} (differs : other ≠ id) :
    (session.begin id sql).running? other = session.running? other := by
  simp [running?, begin, List.find?_append, differs.symm]

theorem running?_execute (session : Session σ) (id other : Nat) (columns : List String) :
    (session.execute id columns).running? other =
      (session.running? other).map fun statement =>
        if statement.id = id then { statement with stage := .executing columns }
        else statement := by
  simp only [running?, execute, List.find?_map]
  congr 2
  funext statement
  by_cases same : statement.id = id <;> simp [same]

theorem running?_execute_self (found : session.running? id = some statement) :
    (session.execute id columns).running? id =
      some { statement with stage := .executing columns } := by
  rw [running?_execute, found, Option.map_some, if_pos (id_of_running? found)]

theorem running?_execute_of_ne (differs : other ≠ id) :
    (session.execute id columns).running? other = session.running? other := by
  rw [running?_execute]
  cases found : session.running? other with
  | none => rfl
  | some statement =>
      have same := id_of_running? found
      rw [Option.map_some, if_neg (by omega)]

/-! ## Ends of statements -/

/-- Whether a statement calls for a refresh that has this result, or none yet. -/
def callsForRefresh (session : Session σ) (sql : String) : Option (Except Error Outcome) → Bool
  | some (.ok (.updateCount _)) => session.trigger.shouldRefresh sql
  | some (.ok (.resultSet _ _)) | some (.error _) | none => false

/-- End a running statement with a result, and start the refresh that the result calls for. -/
def endStatement (session : Session σ) (id : Nat) (sql : String)
    (result : Except Error Outcome) : Session σ :=
  if session.callsForRefresh sql (some result) then (session.conclude id result).notify
  else session.conclude id result

/-- The engine and the refreshes under way are the same. -/
structure Untouched (before after : Session σ) : Prop where
  engine : after.engine = before.engine
  refreshes : after.refreshes = before.refreshes

/-- One refresh of the current connection has been started, if there is a connection. -/
def Refreshed (before after : Session σ) : Prop :=
  match before.engine.connection with
  | none => after.engine = before.engine ∧ after.refreshes = before.refreshes
  | some connection =>
    after.engine = { before.engine with drawn := before.engine.drawn + 1 } ∧
      after.refreshes = before.refreshes ++ [⟨before.engine.drawn + 1, connection⟩]

/-- What never changes in a session. -/
structure SameSetup (before after : Session σ) : Prop where
  trigger : after.trigger = before.trigger
  maxResult : after.maxResult = before.maxResult
  matching : after.matching = before.matching

/-- The statements that were running have ended as cancelled, and nothing else has changed. -/
structure Cancelled (before after : Session σ) : Prop where
  idle : after.running = []
  ended : ∀ id, before.running? id ≠ none → after.result? id = some (.error .cancelled)
  others : ∀ id, before.running? id = none → after.result? id = before.result? id
  untouched : before.Untouched after
  setup : before.SameSetup after

theorem cancelled_cancel (session : Session σ) : session.Cancelled session.cancel where
  idle := session.running_cancel
  ended id running := by
    rw [result?_cancel, if_pos (by simpa [running?_eq_none_iff] using running)]
  others id gone := by
    rw [result?_cancel, if_neg (running?_eq_none_iff.mp gone)]
  untouched := ⟨session.engine_cancel, session.refreshes_cancel⟩
  setup := ⟨rfl, rfl, rfl⟩

theorem Untouched.refreshed_notify {before middle : Session σ} (same : before.Untouched middle) :
    before.Refreshed middle.notify := by
  unfold Refreshed notify
  cases connected : before.engine.connection with
  | none =>
      have idle : middle.engine.startRefresh = none := by
        simp [Engine.startRefresh, same.engine, connected]
      rw [idle]
      exact ⟨same.engine, same.refreshes⟩
  | some connection =>
      have started : middle.engine.startRefresh =
          some (⟨before.engine.drawn + 1, connection⟩,
            { before.engine with drawn := before.engine.drawn + 1 }) := by
        simp [Engine.startRefresh, Engine.draw, Engine.nextNumber, same.engine, connected]
      rw [started]
      exact ⟨rfl, congrArg (· ++ _) same.refreshes⟩

/-- A refresh that has only been started leaves what is served as it is. -/
theorem Refreshed.snapshot {before after : Session σ} (refreshed : before.Refreshed after) :
    after.engine.snapshot = before.engine.snapshot := by
  unfold Refreshed at refreshed
  split at refreshed
  all_goals rw [refreshed.1]

theorem SameSetup.trans {before middle after : Session σ} (one : before.SameSetup middle)
    (two : middle.SameSetup after) : before.SameSetup after where
  trigger := two.trigger.trans one.trigger
  maxResult := two.maxResult.trans one.maxResult
  matching := two.matching.trans one.matching

theorem SameSetup.notify {before middle : Session σ} (same : before.SameSetup middle) :
    before.SameSetup middle.notify := by
  unfold Session.notify
  split <;> exact ⟨same.trigger, same.maxResult, same.matching⟩

section
variable {sql : String}

@[simp]
theorem running?_endStatement_self : (session.endStatement id sql result).running? id = none := by
  unfold endStatement
  split <;> simp

@[simp]
theorem result?_endStatement_self :
    (session.endStatement id sql result).result? id = some result := by
  unfold endStatement
  split <;> simp

theorem running?_endStatement_of_ne (differs : other ≠ id) :
    (session.endStatement id sql result).running? other = session.running? other := by
  unfold endStatement
  split <;> simp [running?_conclude_of_ne differs]

theorem result?_endStatement_of_ne (differs : other ≠ id) :
    (session.endStatement id sql result).result? other = session.result? other := by
  unfold endStatement
  split <;> simp [result?_conclude_of_ne differs]

theorem refreshed_endStatement (calls : session.callsForRefresh sql (some result) = true) :
    session.Refreshed (session.endStatement id sql result) := by
  rw [endStatement, if_pos calls]
  have kept : session.Untouched (session.conclude id result) := ⟨rfl, rfl⟩
  exact kept.refreshed_notify

theorem untouched_endStatement (calls : session.callsForRefresh sql (some result) = false) :
    session.Untouched (session.endStatement id sql result) := by
  rw [endStatement, if_neg (by simp [calls])]
  exact ⟨rfl, rfl⟩

theorem sameSetup_endStatement :
    session.SameSetup (session.endStatement id sql result) := by
  have kept : session.SameSetup (session.conclude id result) := ⟨rfl, rfl, rfl⟩
  unfold endStatement
  split
  · exact kept.notify
  · exact kept

end

/-! ## Messages -/

theorem receive_of_not_running (gone : session.running? id = none) :
    session.receive id reply = session := by
  unfold receive
  rw [show session.running.find? (·.id = id) = none from gone]

/-- Whether a statement is under execution and has rows to come. -/
def isCounting (session : Session σ) (id : Nat) : Bool :=
  match session.running? id with
  | some ⟨_, _, .executing (_ :: _)⟩ => true
  | _ => false

/-- Whether counting ends with this row when so many have been counted. -/
def endsCounting (session : Session σ) (counted : Nat) : Row → Bool
  | .error _ => true
  | .ok _ => counted = session.maxResult

/-- A statement takes up a message. Rows are kept until counting them is over, and then make one
reply; `rows` are those kept so far. -/
def hear (session : Session σ) (id : Nat) (rows : List Row) :
    ServerMessage → Session σ × List Row
  | .prepared columns => (session.receive id (.prepared columns), rows)
  | .done affected => (session.receive id (.done affected), rows)
  | .failed cause => (session.receive id (.failed cause), rows)
  | .endOfRows => (session.receive id (.rows rows), rows)
  | .row row =>
    if session.isCounting id then
      if session.endsCounting rows.length row then
        (session.receive id (.rows (rows ++ [row])), rows ++ [row])
      else (session, rows ++ [row])
    else (session, rows)

/-- How a statement stands in a session that keeps these rows for it. -/
inductive Stands (session : Session σ) (id : Nat) (sql : String) : List Row → Standing → Prop
  | preparing (found : session.running? id = some ⟨id, sql, .preparing⟩)
      (pending : session.result? id = none) : Stands session id sql [] .preparing
  | executing (found : session.running? id = some ⟨id, sql, .executing []⟩)
      (pending : session.result? id = none) : Stands session id sql [] .executing
  | counting {first : String} {more : List String} {counted : Nat}
      (found : session.running? id = some ⟨id, sql, .executing (first :: more)⟩)
      (pending : session.result? id = none) (within : counted ≤ session.maxResult) :
      Stands session id sql (List.replicate counted (.ok ())) (.counting first more counted)
  | ended {rows : List Row} {result : Except Error Outcome}
      (gone : session.running? id = none) (concluded : session.result? id = some result) :
      Stands session id sql rows (.ended result)

/-- What a message can do to the session of a running statement. The result is that of the
statement, if it has ended. -/
inductive Taken (session : Session σ) (id : Nat) (sql : String) :
    Session σ → Option (Except Error Outcome) → Prop
  | waits : Taken session id sql session none
  | executes (columns : List String) : Taken session id sql (session.execute id columns) none
  | ends (result : Except Error Outcome) :
      Taken session id sql (session.endStatement id sql result) (some result)

variable {sql : String} {rows : List Row} {standing : Standing}

theorem Stands.result?_eq (stands : Stands session id sql rows standing) :
    session.result? id = standing.result? := by
  cases stands with
  | ended gone concluded => exact concluded
  | preparing found pending | executing found pending | counting found pending => exact pending

theorem Stands.running?_ne_none_iff (stands : Stands session id sql rows standing) :
    session.running? id ≠ none ↔ standing.result? = none := by
  cases stands with
  | ended gone concluded => simp [gone, Standing.result?]
  | preparing found pending | executing found pending | counting found pending =>
      simp [found, Standing.result?]

theorem Stands.congr {after : Session σ} (stands : Stands session id sql rows standing)
    (running : after.running? id = session.running? id)
    (result : after.result? id = session.result? id)
    (limit : after.maxResult = session.maxResult) : Stands after id sql rows standing := by
  cases stands with
  | preparing found pending => exact .preparing (running.trans found) (result.trans pending)
  | executing found pending => exact .executing (running.trans found) (result.trans pending)
  | counting found pending within =>
      exact .counting (running.trans found) (result.trans pending) (limit ▸ within)
  | ended gone concluded => exact .ended (running.trans gone) (result.trans concluded)

/-- A message to a statement that has ended is lost. -/
theorem hear_of_not_running (gone : session.running? id = none) (message : ServerMessage) :
    (session.hear id rows message).1 = session := by
  have idle : session.isCounting id = false := by simp [isCounting, gone]
  cases message <;> simp [hear, receive_of_not_running gone, idle]

/-- A session goes with a running statement through every message. -/
theorem Stands.hear (stands : Stands session id sql rows standing)
    (running : session.running? id ≠ none) (message : ServerMessage) :
    Stands (session.hear id rows message).1 id sql (session.hear id rows message).2
        (standing.hear session.maxResult message) ∧
      Taken session id sql (session.hear id rows message).1
        (standing.hear session.maxResult message).result? := by
  have ends (result : Except Error Outcome) (rows : List Row) :
      Stands (session.endStatement id sql result) id sql rows (.ended result) ∧
        Taken session id sql (session.endStatement id sql result) (some result) :=
    ⟨.ended running?_endStatement_self result?_endStatement_self, .ends result⟩
  cases stands with
  | ended gone concluded => exact absurd gone running
  | preparing found pending =>
      have idle : session.isCounting id = false := by simp [isCounting, found]
      have placed : session.running.find? (·.id = id) = some ⟨id, sql, .preparing⟩ := found
      cases message with
      | prepared columns =>
          simp only [Session.hear, receive, placed]
          cases columns with
          | nil => exact ⟨.executing (running?_execute_self found) pending, .executes []⟩
          | cons first more =>
              refine ⟨?_, .executes (first :: more)⟩
              exact @Stands.counting σ _ id sql first more 0 (running?_execute_self found) pending
                (Nat.zero_le _)
      | failed cause =>
          simp only [Session.hear, receive, placed]
          exact ends (.error (.database cause)) []
      | done affected | endOfRows | row row =>
          simp only [Session.hear, receive, placed, idle, Bool.false_eq_true, if_false,
            Standing.hear]
          exact ⟨.preparing found pending, .waits⟩
  | executing found pending =>
      have idle : session.isCounting id = false := by simp [isCounting, found]
      have placed : session.running.find? (·.id = id) = some ⟨id, sql, .executing []⟩ := found
      cases message with
      | done affected =>
          simp only [Session.hear, receive, placed]
          exact ends (.ok (.updateCount affected)) []
      | failed cause =>
          simp only [Session.hear, receive, placed]
          exact ends (.error (.database cause)) []
      | prepared columns | endOfRows | row row =>
          simp only [Session.hear, receive, placed, idle, Bool.false_eq_true, if_false,
            Standing.hear]
          exact ⟨.executing found pending, .waits⟩
  | @counting first more counted found pending within =>
      have busy : session.isCounting id = true := by simp [isCounting, found]
      have placed : session.running.find? (·.id = id) =
          some ⟨id, sql, .executing (first :: more)⟩ := found
      cases message with
      | row row =>
          simp only [Session.hear, busy, if_true, List.length_replicate]
          cases row with
          | error cause =>
              simp only [endsCounting, if_true, receive, placed,
                countCapped_replicate_append within, countFrom]
              exact ends (.error (.database cause)) _
          | ok row =>
              by_cases full : counted = session.maxResult
              · simp only [endsCounting, full, decide_true, if_true, receive, placed,
                  countCapped_replicate_append (Nat.le_refl _), countFrom, Standing.hear]
                exact ends (.ok (.resultSet (first :: more) ⟨session.maxResult, true⟩)) _
              · simp only [endsCounting, full, decide_false, Bool.false_eq_true, if_false,
                  Standing.hear]
                rw [show [Except.ok row] = List.replicate 1 (Except.ok ()) from rfl,
                  List.replicate_append_replicate]
                exact ⟨.counting found pending (by omega), .waits⟩
      | endOfRows =>
          have whole := countCapped_replicate_append within []
          rw [List.append_nil] at whole
          simp only [Session.hear, receive, placed, whole, countFrom, Standing.hear]
          exact ends (.ok (.resultSet (first :: more) ⟨counted, false⟩)) _
      | failed cause =>
          simp only [Session.hear, receive, placed]
          exact ends (.error (.database cause)) _
      | prepared columns | done affected =>
          simp only [Session.hear, receive, placed, Standing.hear]
          exact ⟨.counting found pending within, .waits⟩

/-! ## Several messages -/

/-- A statement takes up messages one after the other. -/
def hearAll (session : Session σ) (id : Nat) (rows : List Row) :
    List ServerMessage → Session σ × List Row
  | [] => (session, rows)
  | message :: rest =>
    hearAll (session.hear id rows message).1 id (session.hear id rows message).2 rest

/-- What a statement can do to the session while it runs; the result is its own, if it has ended. -/
structure Effect (session : Session σ) (id : Nat) (sql : String) (after : Session σ)
    (result : Option (Except Error Outcome)) : Prop where
  setup : session.SameSetup after
  ids : (after.running.map (·.id)).Sublist (session.running.map (·.id))
  running_of_ne : ∀ other, other ≠ id → after.running? other = session.running? other
  result_of_ne : ∀ other, other ≠ id → after.result? other = session.result? other
  refreshed : session.callsForRefresh sql result = true → session.Refreshed after
  untouched : session.callsForRefresh sql result = false → session.Untouched after

theorem ids_conclude : ((session.conclude id result).running.map (·.id)).Sublist
    (session.running.map (·.id)) :=
  List.filter_sublist.map _

theorem ids_execute : (session.execute id columns).running.map (·.id) =
    session.running.map (·.id) := by
  rw [execute, List.map_map]
  congr 1
  funext statement
  simp only [Function.comp_apply]
  split <;> rfl

theorem ids_notify : session.notify.running.map (·.id) = session.running.map (·.id) := by
  unfold notify
  split <;> rfl

theorem effect_endStatement (session : Session σ) (id : Nat) (sql : String)
    (result : Except Error Outcome) :
    session.Effect id sql (session.endStatement id sql result) (some result) where
  setup := sameSetup_endStatement
  ids := by
    unfold endStatement
    split
    · rw [ids_notify]
      exact ids_conclude
    · exact ids_conclude
  running_of_ne _ differs := running?_endStatement_of_ne differs
  result_of_ne _ differs := result?_endStatement_of_ne differs
  refreshed := refreshed_endStatement
  untouched := untouched_endStatement

theorem Taken.effect {after : Session σ} {result : Option (Except Error Outcome)}
    (taken : Taken session id sql after result) : session.Effect id sql after result := by
  cases taken with
  | waits =>
      exact
        { setup := ⟨rfl, rfl, rfl⟩
          ids := .refl _
          running_of_ne := fun _ _ => rfl
          result_of_ne := fun _ _ => rfl
          refreshed := fun calls => by cases calls
          untouched := fun _ => ⟨rfl, rfl⟩ }
  | executes columns =>
      exact
        { setup := ⟨rfl, rfl, rfl⟩
          ids := ids_execute.symm ▸ .refl _
          running_of_ne := fun _ differs => running?_execute_of_ne differs
          result_of_ne := fun _ _ => rfl
          refreshed := fun calls => by cases calls
          untouched := fun _ => ⟨rfl, rfl⟩ }
  | ends result => exact effect_endStatement session id sql result

/-- A statement that has not ended has left the engine alone, so its later effect is its whole
effect. -/
theorem Effect.trans {middle after : Session σ} {result : Option (Except Error Outcome)}
    (first : session.Effect id sql middle none) (second : middle.Effect id sql after result) :
    session.Effect id sql after result := by
  obtain ⟨engine, refreshes⟩ := first.untouched rfl
  have calls : middle.callsForRefresh sql result = session.callsForRefresh sql result := by
    unfold callsForRefresh
    rw [first.setup.trigger]
  refine ⟨first.setup.trans second.setup, second.ids.trans first.ids, ?_, ?_, ?_, ?_⟩
  · intro other differs
    rw [second.running_of_ne other differs, first.running_of_ne other differs]
  · intro other differs
    rw [second.result_of_ne other differs, first.result_of_ne other differs]
  · intro refreshes'
    have later := second.refreshed (calls.trans refreshes')
    unfold Refreshed at later ⊢
    rwa [engine, refreshes] at later
  · intro none
    have later := second.untouched (calls.trans none)
    exact ⟨later.engine.trans engine, later.refreshes.trans refreshes⟩

theorem hearAll_of_not_running (gone : session.running? id = none) (rows : List Row)
    (messages : List ServerMessage) : (session.hearAll id rows messages).1 = session := by
  induction messages generalizing rows with
  | nil => rfl
  | cons message rest ih =>
      rw [hearAll, hear_of_not_running gone]
      exact ih _

/-- **A session has the result that the messages come to.** Whatever a server sends, a running
statement stands in the session where it would stand on its own, and has had no other effect on the
session than that of its end. -/
theorem Stands.hearAll (stands : Stands session id sql rows standing)
    (running : session.running? id ≠ none) (messages : List ServerMessage) :
    Stands (session.hearAll id rows messages).1 id sql (session.hearAll id rows messages).2
        (messages.foldl (Standing.hear session.maxResult) standing) ∧
      session.Effect id sql (session.hearAll id rows messages).1
        (messages.foldl (Standing.hear session.maxResult) standing).result? := by
  induction messages generalizing session rows standing with
  | nil =>
      refine ⟨stands, ?_⟩
      rw [List.foldl_nil, stands.running?_ne_none_iff.mp running]
      exact Taken.waits.effect
  | cons message rest ih =>
      obtain ⟨heard, taken⟩ := stands.hear running message
      have effect := taken.effect
      rw [Session.hearAll, List.foldl_cons]
      generalize standing.hear session.maxResult message = next at heard effect ⊢
      generalize session.hear id rows message = heardBy at heard effect ⊢
      obtain ⟨after, kept⟩ := heardBy
      dsimp only at heard effect ⊢
      by_cases goesOn : after.running? id = none
      · -- Once the statement has ended, the rest of the messages is lost on both sides.
        cases heard with
        | preparing found | executing found | counting found =>
            rw [found] at goesOn
            cases goesOn
        | ended gone concluded =>
            rw [Standing.foldl_hear_ended, hearAll_of_not_running gone]
            exact ⟨.ended gone concluded, effect⟩
      · rw [heard.running?_ne_none_iff.mp goesOn] at effect
        obtain ⟨stands', effect'⟩ := ih heard goesOn
        rw [effect.setup.maxResult] at stands' effect'
        exact ⟨stands', effect.trans effect'⟩

end Session

end SqlAssist
