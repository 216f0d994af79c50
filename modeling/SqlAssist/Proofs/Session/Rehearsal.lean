/-
# Rehearsals take the steps of a session

A rehearsal decides by the script of a statement what the server answers and when. Whatever it
decides, its session goes through steps that any traffic may take: a statement begins, the messages
of its replies come, and it is run once; a cancel is called and ends all running statements one
after the other; and all else happens to the engine. So what holds of every session that can be
reached holds of the session of every rehearsal. The past of a rehearsal asks for just what its
commands ask for, in their order, and what has ended in it stays ended.
-/

import SqlAssist.Session.Rehearsal
import SqlAssist.Proofs.Session.Traffic

namespace SqlAssist

variable {σ : Type}

/-! ## Replies -/

/-- The messages that make up a reply. -/
def ServerReply.messages : ServerReply → List ServerMessage
  | .prepared columns => [.prepared columns]
  | .done affected => [.done affected]
  | .rows stream => stream.map .row ++ [.endOfRows]
  | .failed cause => [.failed cause]

namespace Session

variable {session : Session σ} {id : Nat} {sql : String} {first : String} {more : List String}

theorem hearAll_append (session : Session σ) (id : Nat) (rows : List Row)
    (messages later : List ServerMessage) :
    session.hearAll id rows (messages ++ later) =
      (session.hearAll id rows messages).1.hearAll id (session.hearAll id rows messages).2
        later := by
  induction messages generalizing session rows with
  | nil => rfl
  | cons message rest ih => exact ih _ _

theorem exists_of_isCounting (counting : session.isCounting id = true) :
    ∃ sql first more, session.running? id = some ⟨id, sql, .executing (first :: more)⟩ := by
  unfold isCounting at counting
  split at counting
  case h_1 own sql first more found =>
    obtain rfl : own = id := id_of_running? found
    exact ⟨sql, first, more, found⟩
  case h_2 => cases counting

theorem receive_rows_of_not_counting (idle : session.isCounting id = false) (rows : List Row) :
    session.receive id (.rows rows) = session := by
  unfold isCounting running? at idle
  unfold receive
  cases found : session.running.find? (·.id = id) with
  | none => rfl
  | some statement =>
      obtain ⟨own, sql, stage⟩ := statement
      rw [found] at idle
      match stage with
      | .preparing | .executing [] => rfl
      | .executing (first :: more) => cases idle

theorem hearAll_rows_of_not_counting (idle : session.isCounting id = false)
    (kept rows : List Row) :
    (session.hearAll id kept (rows.map .row ++ [.endOfRows])).1 = session := by
  induction rows with
  | nil => exact receive_rows_of_not_counting idle kept
  | cons row rest ih => simpa [hearAll, hear, idle] using ih

/-- A row that ends the counting ends it whatever comes after it. -/
theorem hearAll_rows_of_last
    (found : session.running? id = some ⟨id, sql, .executing (first :: more)⟩)
    {kept rest : List Row} {row : Row}
    (last : countCapped session.maxResult (kept ++ [row]) =
      countCapped session.maxResult (kept ++ row :: rest)) (later : List ServerMessage) :
    ((session.receive id (.rows (kept ++ [row]))).hearAll id (kept ++ [row]) later).1 =
      session.receive id (.rows (kept ++ row :: rest)) := by
  have placed : session.running.find? (·.id = id) =
      some ⟨id, sql, .executing (first :: more)⟩ := found
  rw [hearAll_of_not_running]
  · simp only [receive, placed, last]
  · simp only [receive, placed, running?_conclude_self]

theorem hearAll_rows_of_counting {counted : Nat}
    (found : session.running? id = some ⟨id, sql, .executing (first :: more)⟩)
    (within : counted ≤ session.maxResult) (rows : List Row) :
    (session.hearAll id (List.replicate counted (.ok ())) (rows.map .row ++ [.endOfRows])).1 =
      session.receive id (.rows (List.replicate counted (.ok ()) ++ rows)) := by
  have busy : session.isCounting id = true := by simp [isCounting, found]
  induction rows generalizing counted with
  | nil => simp [hearAll, hear]
  | cons row rest ih =>
      have count := fun rows => countCapped_replicate_append within rows
      cases row with
      | error cause =>
          simp only [List.map_cons, List.cons_append, hearAll, hear, busy, endsCounting, if_true]
          exact hearAll_rows_of_last found (by rw [count, count]; rfl) _
      | ok row =>
          by_cases full : counted = session.maxResult
          · simp only [List.map_cons, List.cons_append, hearAll, hear, busy, endsCounting,
              List.length_replicate, full, decide_true, if_true]
            subst full
            exact hearAll_rows_of_last found (by rw [count, count]; simp [countFrom]) _
          · simp only [List.map_cons, List.cons_append, hearAll, hear, busy, endsCounting,
              List.length_replicate, full, decide_false, Bool.false_eq_true, if_true, if_false]
            have next : List.replicate counted (Except.ok ()) ++ [.ok row] =
                List.replicate (counted + 1) (Except.ok () : Row) :=
              List.replicate_succ'.symm
            rw [next, ih (by omega), ← next, List.append_assoc, List.singleton_append]

/-- A reply is taken up like the messages that make it up. -/
theorem fst_hearAll_messages (session : Session σ) (id : Nat) (reply : ServerReply) :
    (session.hearAll id [] reply.messages).1 = session.receive id reply := by
  cases reply with
  | prepared | done | failed => rfl
  | rows rows =>
      cases counting : session.isCounting id with
      | false =>
          rw [receive_rows_of_not_counting counting]
          exact hearAll_rows_of_not_counting counting [] rows
      | true =>
          obtain ⟨sql, first, more, found⟩ := exists_of_isCounting counting
          simpa [ServerReply.messages] using hearAll_rows_of_counting found (Nat.zero_le _) rows

/-- Sessions that differ at most in the engine and its refreshes. -/
def SameStatements (before after : Session σ) : Prop :=
  after = { before with engine := after.engine, refreshes := after.refreshes }

theorem SameStatements.trans {before middle after : Session σ} (one : before.SameStatements middle)
    (two : middle.SameStatements after) : before.SameStatements after := by
  unfold SameStatements at *
  rw [two, one]

theorem sameStatements_notify : session.SameStatements session.notify := by
  unfold notify
  split <;> rfl

end Session

/-! ## Statements that are run at once -/

namespace Traffic

variable {s : Traffic σ} {id : Nat} {first : Session σ} {past : List Event}

theorem leads_come (known : id < s.begun) (messages : List ServerMessage) :
    ∃ later, Leads s later
        { s with unread := Function.update s.unread id (s.unread id ++ messages) } ∧
      calls later = [] := by
  induction messages using List.reverseRecOn with
  | nil =>
      rw [List.append_nil, Function.update_eq_self]
      exact ⟨[], .refl, rfl⟩
  | append_singleton messages message ih =>
      obtain ⟨later, leads, quiet⟩ := ih
      have step := @Step.come σ
        { s with unread := Function.update s.unread id (s.unread id ++ messages) } id known message
      simp only [Function.update_self, Function.update_idem, List.append_assoc] at step
      exact ⟨_, .step leads step, (calls_cons_of_none rfl later).trans quiet⟩

/-- A statement can be begun, be sent any messages and be run. -/
theorem Reached.leads_statement (reached : Reached first past s) (sql : String)
    (messages : List ServerMessage) :
    ∃ later t, Leads s later t ∧ calls later = [.begin sql] ∧
      t.session = ((s.session.begin s.begun sql).hearAll s.begun [] messages).1 ∧
      t.begun = s.begun + 1 := by
  have awaited := (reached.consistent.tracked s.begun).awaited_of_begun_le (Nat.le_refl _)
  have begins := Step.begin s sql
  obtain ⟨later, comes, quiet⟩ := leads_come (awaited.begin sql).known messages
  have running := (awaited.begin sql).running
  have reads := @Step.read σ
    { s with
      session := s.session.begin s.begun sql
      begun := s.begun + 1
      unread := Function.update s.unread s.begun (s.unread s.begun ++ messages) }
    s.begun _ _ running rfl (by simp [awaited.told])
  simp only [Function.update_self, awaited.unread, awaited.rows, List.nil_append] at reads comes
  refine ⟨_, _, .step (.trans (.step .refl begins) comes) reads, ?_, rfl, rfl⟩
  rw [calls_cons_of_none rfl, calls_append, quiet, List.append_nil]
  rfl

theorem leads_elsewhere {session : Session σ} (same : s.session.SameStatements session) :
    Leads s [.elsewhere] { s with session := session } := by
  have step := Step.elsewhere s session.engine session.refreshes
  rw [← same] at step
  exact .step .refl step

end Traffic

/-! ## Rehearsals -/

namespace SessionRehearsal

variable {statement : ScriptedStatement}

theorem session_read (stage : SessionRehearsal) (reading : Reflection.Reading NameSet) :
    (stage.read reading).2.session = stage.session ∧
      (stage.read reading).2.begun = stage.begun := by
  unfold read
  split <;> exact ⟨rfl, rfl⟩

theorem session_refresh (stage : SessionRehearsal) (request : Request Reflection) :
    stage.session.SameStatements (stage.refresh request).2.session ∧
      (stage.refresh request).2.begun = stage.begun := by
  obtain ⟨same, begun⟩ :=
    stage.session_read (request.connection.source.fetchNames stage.server)
  refine ⟨?_, begun⟩
  simp only [refresh]
  rw [same]
  rfl

theorem session_settle (stage : SessionRehearsal) :
    stage.session.SameStatements stage.settle.session ∧ stage.settle.begun = stage.begun := by
  unfold settle
  generalize stage.session.refreshes = requests
  induction requests generalizing stage with
  | nil => exact ⟨rfl, rfl⟩
  | cons request rest ih =>
      obtain ⟨same, begun⟩ := stage.session_refresh request
      obtain ⟨same', begun'⟩ := ih (stage.refresh request).2
      exact ⟨same.trans same', begun'.trans begun⟩

theorem session_runExecution (stage : SessionRehearsal) (id : Nat)
    (statement : ScriptedStatement) :
    ((stage.runExecution id statement).session = stage.session ∨
        ∃ reply, (stage.runExecution id statement).session = stage.session.receive id reply) ∧
      (stage.runExecution id statement).begun = stage.begun := by
  unfold runExecution
  split
  · exact ⟨.inl rfl, rfl⟩
  · split
    · exact ⟨.inl rfl, rfl⟩
    · exact ⟨.inr ⟨_, rfl⟩, rfl⟩

/-- The reply to a preparation is a single message and brings no rows. -/
theorem snd_hearAll_preparationReply (stage : SessionRehearsal) (statement : ScriptedStatement)
    (session : Session Reflection) (id : Nat) :
    (session.hearAll id [] (stage.preparationReply statement).messages).2 = [] := by
  unfold preparationReply
  split
  · rfl
  · split <;> rfl

/-- Whatever its script is, a statement begins, is sent some messages and takes them up; after that
only the engine is busy. -/
theorem exists_messages_runStatement (stage : SessionRehearsal) (statement : ScriptedStatement) :
    (∃ messages, Session.SameStatements
        ((stage.session.begin stage.begun statement.sql).hearAll stage.begun [] messages).1
        (stage.runStatement statement).2.session) ∧
      (stage.runStatement statement).2.begun = stage.begun + 1 := by
  unfold runStatement
  dsimp only
  split
  · refine ⟨⟨(ServerReply.failed .poolTimedOut).messages, ?_⟩, rfl⟩
    rw [Session.fst_hearAll_messages]
    rfl
  · split
    · exact ⟨⟨[], rfl⟩, rfl⟩
    · generalize begins : stage.session.begin stage.begun statement.sql = started
      generalize prepares : preparationReply _ statement = reply
      have rowless : (started.hearAll stage.begun [] reply.messages).2 = [] :=
        prepares ▸ snd_hearAll_preparationReply _ statement started stage.begun
      generalize continues : SessionRehearsal.mk .. = prepared
      obtain ⟨executed, begun⟩ := prepared.session_runExecution stage.begun statement
      obtain ⟨settled, begun'⟩ := (prepared.runExecution stage.begun statement).session_settle
      refine ⟨?_, begun'.trans (begun.trans (continues ▸ rfl))⟩
      have session : prepared.session = (started.hearAll stage.begun [] reply.messages).1 := by
        rw [Session.fst_hearAll_messages, ← continues]
      obtain same | ⟨later, same⟩ := executed
      · exact ⟨reply.messages, session ▸ same ▸ settled⟩
      · refine ⟨reply.messages ++ later.messages, ?_⟩
        rw [Session.hearAll_append, rowless, Session.fst_hearAll_messages, ← session, ← same]
        exact settled

/-- What a command asks of the session, if it asks to run a statement or to cancel. -/
def Command.call? : Command → Option Traffic.Call
  | .execute statement | .start _ statement => some (.begin statement.sql)
  | .cancel => some .cancel
  | .awaitTask _ | .changeServer _ | .notify | .disconnect | .completions _ _ | .complete _ _ =>
    none

/-- The rehearsal after these commands. -/
def performAll (stage : SessionRehearsal) (commands : List Command) : SessionRehearsal :=
  commands.foldl (fun stage command => (stage.perform command).2) stage

theorem performAll_append (stage : SessionRehearsal) (commands later : List Command) :
    stage.performAll (commands ++ later) = (stage.performAll commands).performAll later :=
  List.foldl_append

/-- Steps with this past have led to the session of this rehearsal. -/
def Followed (first : Session Reflection) (past : List Traffic.Event)
    (stage : SessionRehearsal) : Prop :=
  ∃ s, Traffic.Reached first past s ∧ s.session = stage.session ∧ s.begun = stage.begun

variable {first : Session Reflection} {past : List Traffic.Event} {stage next : SessionRehearsal}
  {id : Nat}

theorem Followed.elsewhere (followed : stage.Followed first past)
    (same : stage.session.SameStatements next.session) (begun : next.begun = stage.begun) :
    next.Followed first (.elsewhere :: past) := by
  obtain ⟨s, reached, session, count⟩ := followed
  have leads := Traffic.leads_elsewhere (session ▸ same)
  exact ⟨_, reached.trans leads, rfl, count.trans begun.symm⟩

theorem Followed.runStatement (followed : stage.Followed first past)
    (statement : ScriptedStatement) :
    ∃ later, (stage.runStatement statement).2.Followed first (later ++ past) ∧
      Traffic.calls later = [.begin statement.sql] := by
  obtain ⟨s, reached, session, count⟩ := followed
  obtain ⟨⟨messages, same⟩, begun⟩ := stage.exists_messages_runStatement statement
  obtain ⟨later, t, leads, asked, heard, begun'⟩ :=
    reached.leads_statement statement.sql messages
  rw [session, count] at heard
  rw [← heard] at same
  have heeded : Followed first (later ++ past)
      { stage with session := t.session, begun := t.begun } :=
    ⟨t, reached.trans leads, rfl, rfl⟩
  refine ⟨.elsewhere :: later, heeded.elsewhere same ?_, ?_⟩
  · rw [begun, begun', count]
  · rw [Traffic.calls_cons_of_none rfl, asked]

/-- A cancel is called, and every statement that is running then ends as cancelled. -/
theorem Followed.cancel (followed : stage.Followed first past) :
    Followed first
      (stage.session.running.map Traffic.Event.stopped ++ .cancelCalled :: past)
      { stage with session := stage.session.cancel } := by
  obtain ⟨s, reached, session, count⟩ := followed
  obtain ⟨t, leads, cancelled, begun⟩ := reached.leads_cancel
  rw [session] at leads cancelled
  have reached' := reached.trans leads
  rw [List.append_assoc, List.singleton_append] at reached'
  exact ⟨t, reached', cancelled, begun.trans count⟩

/-- Steps follow every command, and ask of the session what the command asks. -/
theorem Followed.perform (followed : stage.Followed first past) (command : Command) :
    ∃ later, (stage.perform command).2.Followed first (later ++ past) ∧
      Traffic.calls later = command.call?.toList := by
  cases command with
  | execute statement => exact followed.runStatement statement
  | start task statement => exact followed.runStatement statement
  | cancel =>
      refine ⟨stage.session.running.map .stopped ++ [.cancelCalled], ?_, ?_⟩
      · rw [List.append_assoc, List.singleton_append]
        exact followed.cancel
      · rw [Traffic.calls_append, Traffic.calls_map_stopped]
        rfl
  | awaitTask task =>
      refine ⟨[], ?_, rfl⟩
      simp only [SessionRehearsal.perform]
      split <;> exact followed
  | notify =>
      have notified : Followed first (.elsewhere :: past)
          { stage with session := stage.session.notify } :=
        followed.elsewhere Session.sameStatements_notify rfl
      simp only [SessionRehearsal.perform]
      split
      · exact ⟨[.elsewhere], notified, rfl⟩
      · obtain ⟨same, begun⟩ := session_refresh { stage with session := stage.session.notify } _
        exact ⟨[.elsewhere, .elsewhere], notified.elsewhere same begun, rfl⟩
  | disconnect => exact ⟨[.elsewhere], followed.elsewhere rfl rfl, rfl⟩
  | changeServer | completions | complete => exact ⟨[], followed, rfl⟩

theorem Followed.performAll (followed : stage.Followed first past) (commands : List Command) :
    ∃ later, (stage.performAll commands).Followed first (later ++ past) ∧
      Traffic.calls later = commands.filterMap Command.call? := by
  induction commands generalizing stage past with
  | nil => exact ⟨[], followed, rfl⟩
  | cons command rest ih =>
      obtain ⟨later, followed, asked⟩ := followed.perform command
      obtain ⟨latest, followed, asked'⟩ := ih followed
      refine ⟨latest ++ later, ?_, ?_⟩
      · rw [List.append_assoc]
        exact followed
      · rw [Traffic.calls_append, asked, asked']
        cases call : command.call? <;> simp [call]

/-- A session is opened without statements. -/
theorem followed_connect (config : Config) (source : Reflection) (server : Server) :
    Followed (connect config source server).session [] (connect config source server) := by
  have idle : (connect config source server).session.running = [] ∧
      (connect config source server).session.ended = [] ∧
      (connect config source server).begun = 0 := by
    simp [connect, session_read, Session.ofConfig]
  exact ⟨_, ⟨idle.1, idle.2.1, .refl⟩, rfl, idle.2.2.symm⟩

/-! ## Results in a rehearsal -/

theorem Followed.result?_eq_some_iff (followed : stage.Followed first past)
    {result : Except Error Outcome} :
    stage.session.result? id = some result ↔ .ran id (some result) ∈ past := by
  obtain ⟨s, reached, session, _⟩ := followed
  rw [← session]
  exact reached.result?_eq_some_iff

/-- No command changes a result. -/
theorem Followed.result?_performAll (followed : stage.Followed first past)
    {result : Except Error Outcome} (ended : stage.session.result? id = some result)
    (commands : List Command) :
    (stage.performAll commands).session.result? id = some result := by
  obtain ⟨later, after, _⟩ := followed.performAll commands
  rw [followed.result?_eq_some_iff] at ended
  rw [after.result?_eq_some_iff]
  exact List.mem_append_right later ended

/-- A statement that waits when a cancel is called stays cancelled, whatever is asked later. -/
theorem Followed.result?_of_cancel (followed : stage.Followed first past)
    (running : stage.session.running? id ≠ none) (later : List Command) :
    (stage.performAll (.cancel :: later)).session.result? id = some (.error .cancelled) :=
  followed.cancel.result?_performAll (stage.session.cancelled_cancel.ended id running) later

end SessionRehearsal

end SqlAssist
