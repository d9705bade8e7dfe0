import DistributedComputing.PgRetention

/-!
# Transactions among other sessions

Each transaction but the sweep is verified statement by statement: whatever the other
sessions do, it commits the events of its operation, and it returns only what it has
committed.
-/

namespace DistributedComputing

namespace PgSessions

open RowEngine

/-- What sessions do: the operation of each, and the attempts with which it was started. -/
structure Workload where
  timestamptz : Time → String → Option Time
  operation : Nat → PgOperation
  started : Nat → Attempt → Prop

variable (work : Workload)

/-- The commit is one of the session's operation, by an attempt of the session. -/
def Good (id : Nat) (reads : List Store) (before after : Store) : Prop :=
  ∃ attempt result, work.started id attempt ∧
    CommitOf work.timestamptz attempt reads (work.operation id) result before after

/-- The result is silent, or there is a commit with it. -/
def Answered (id : Nat) (result : PgResult)
    (sessions : Sessions Nat Store RowKey RowChange) : Prop :=
  result.Silent ∨ ∃ commit ∈ sessions.commits, commit.session = id ∧
    ∃ attempt, work.started id attempt ∧
      CommitOf work.timestamptz attempt commit.reads (work.operation id) result commit.before
        commit.after

variable {work} {id : Nat} {writes : List RowChange} {held : List RowKey}
  {fact : Store → Prop}

theorem preserves_exclusive :
    pgEngine.Preserves (Good work) fun store => store.ledger.Exclusive where
  drawn store value after drawn exclusive := by
    rw [nextval_ledger drawn]
    exact exclusive
  committed := by
    rintro id reads before after ⟨attempt, result, _, commit⟩ exclusive
    exact commit.exclusive exclusive

theorem persists_exclusive :
    pgEngine.Persists (Good work) id held fun store => store.ledger.Exclusive :=
  preserves_exclusive.persists

theorem stable_answered (result : PgResult) :
    pgEngine.Stable (Good work) id (Answered work id result) := by
  rintro sessions later relied (silent | ⟨commit, member, made⟩)
  · exact .inl silent
  · obtain ⟨between, extended, _⟩ := relied.history
    refine .inr ⟨commit, ?_, made⟩
    rw [extended]
    exact List.mem_append_left _ member

/-! ## How transactions begin and end -/

theorem triple_begin :
    pgEngine.Triple (Good work) id
      (fun sessions => sessions.committed.ledger.Exclusive) (ask .start)
      fun _ => Knows id [] [] fun store => store.ledger.Exclusive :=
  knows_start persists_exclusive

/-- Statements that begin no transaction remember what was read before them. -/
theorem triple_remember {Result : Type} {pre : Sessions Nat Store RowKey RowChange → Prop}
    {program : PgProgram Result} {post : Result → Sessions Nat Store RowKey RowChange → Prop}
    (triple : pgEngine.Triple (Good work) id pre program post) (keeps : KeepsRows program)
    (seen : List Store) :
    pgEngine.Triple (Good work) id (fun sessions => seen ⊆ sessions.reads id ∧ pre sessions)
      program fun result sessions => seen ⊆ sessions.reads id ∧ post result sessions :=
  triple.remember (keeps.mono WritesOnly.ne_start) seen

section Ends

variable {Result : Type} (wrap : Result → PgResult)
  (persists : pgEngine.Persists (Good work) id held fact)

include persists

/-- A commit that what was read and what is known show to be one of the operation. -/
theorem triple_commitAfter {attempt : Attempt} (isStarted : work.started id attempt)
    {value : Result} {seen : List Store}
    (commits : ∀ reads, seen ⊆ reads → ∀ store, fact store →
      CommitOf work.timestamptz attempt reads (work.operation id) (wrap value) store
        (writes.foldl RowChange.apply store)) :
    pgEngine.Triple (Good work) id
      (fun sessions => seen ⊆ sessions.reads id ∧ Knows id writes held fact sessions)
      (ask .commit >>= fun _ => .done value)
      fun value => Answered work id (wrap value) := by
  refine .bind (knows_commit persists fun reads isRead store holds =>
    ⟨attempt, _, isStarted, commits reads isRead store holds⟩) fun _ => ?_
  refine .done ?_
  rintro sessions ⟨commit, member, mine, isRead, holds, made⟩
  refine .inr ⟨commit, member, mine, attempt, isStarted, ?_⟩
  rw [made]
  exact commits commit.reads isRead commit.before holds

theorem triple_commitWith {attempt : Attempt} (isStarted : work.started id attempt)
    {value : Result}
    (commits : ∀ reads store, fact store →
      CommitOf work.timestamptz attempt reads (work.operation id) (wrap value) store
        (writes.foldl RowChange.apply store)) :
    pgEngine.Triple (Good work) id (Knows id writes held fact)
      (ask .commit >>= fun _ => .done value)
      fun value => Answered work id (wrap value) :=
  (triple_commitAfter wrap persists isStarted fun reads _ => commits reads).imp
    (fun _ knows => ⟨List.nil_subset _, knows⟩) fun _ _ answered => answered

theorem triple_rollbackWith {value : Result} (silent : (wrap value).Silent) :
    pgEngine.Triple (Good work) id (Knows id writes held fact)
      (ask .rollback >>= fun _ => .done value)
      fun value => Answered work id (wrap value) :=
  .bind (knows_rollback persists) fun _ => .done fun _ _ => .inl silent

theorem triple_abort {error : DbError}
    {post : Result → Sessions Nat Store RowKey RowChange → Prop} :
    pgEngine.Triple (Good work) id (Knows id writes held fact) (abort error) post :=
  .bind (knows_rollback persists) fun _ => .raise

end Ends

/-! ## Agents -/

section Agents

variable {attempt : Attempt} (isStarted : work.started id attempt)

include isStarted

theorem triple_upsertAgent {agent : AgentInput}
    (isUpsert : work.operation id = .upsertAgent agent) :
    pgEngine.Triple (Good work) id (fun sessions => sessions.committed.ledger.Exclusive)
      (upsertAgent attempt agent) fun done => Answered work id (.registered done) := by
  refine .bind triple_begin fun _ => ?_
  refine .bind (knows_hold persists_exclusive) fun seen => ?_
  refine .bind (knows_write persists_exclusive []) fun _ => ?_
  refine triple_commitWith .registered persists_exclusive isStarted fun reads store _ => ?_
  rw [isUpsert]
  exact PgBroker.executeWithRetry_one rfl _ store

theorem triple_updateHeartbeat {heartbeat : AgentHeartbeat}
    (isHeartbeat : work.operation id = .updateHeartbeat heartbeat) :
    pgEngine.Triple (Good work) id (fun sessions => sessions.committed.ledger.Exclusive)
      (updateHeartbeat attempt heartbeat)
      fun found => Answered work id (.beaten found) := by
  refine .bind triple_begin fun _ => ?_
  refine .bind (triple_updateAgent persists_exclusive (by simp) _ _ _) fun affected => ?_
  rintro sessions (⟨rfl, _, knows⟩ | ⟨rfl, knows⟩)
  · exact triple_rollbackWith .beaten persists_exclusive rfl sessions knows
  · refine triple_commitWith .beaten ?_ isStarted ?_ sessions knows
    · exact persists_exclusive.and ((guarded_known _).persists.mono (List.nil_subset _))
    · rintro reads store ⟨_, known⟩
      obtain ⟨row, found⟩ := Option.ne_none_iff_exists'.mp known
      rw [isHeartbeat]
      refine ⟨rfl, (PgBroker.executeWithRetry_one rfl _ store).trans ?_⟩
      rw [found]
      rfl

end Agents

/-! ## Tasks -/

theorem guarded_drawn (taskId : Int) :
    pgEngine.Guarded [] fun store => 0 < taskId ∧ taskId ≤ store.taskSeq where
  apply store change apart drawn := by
    have same : (change.apply store).taskSeq = store.taskSeq := by
      cases change with
      | upsertAgent row change keeps =>
          unfold RowChange.apply Store.upsertAgent
          dsimp only
          split <;> rfl
      | insertTask row =>
          change (store.tryInsertTask row).taskSeq = _
          rcases store.tryInsertTask_cases row with same | ⟨fresh, bounds, same⟩ <;> rw [same]
          rfl
      | _ => rfl
    exact same.symm ▸ drawn
  draw store value after drew drawn := by
    have later : store.taskSeq ≤ after.taskSeq := by
      change nextval store = _ at drew
      unfold nextval at drew
      split at drew
      · cases drew
        change store.taskSeq ≤ store.taskSeq + 1
        omega
      · cases drew
    omega

theorem nextval_drawn {store after : Store} {taskId : Int}
    (drew : nextval store = .ok (taskId, after)) : 0 < taskId ∧ taskId ≤ after.taskSeq := by
  have bounds := store.taskSeqBounds
  unfold nextval at drew
  split at drew
  · cases drew
    change 0 < store.taskSeq + 1 ∧ store.taskSeq + 1 ≤ store.taskSeq + 1
    omega
  · cases drew

section Tasks

variable {attempt : Attempt} (isStarted : work.started id attempt)

section Reports

variable {timestamptz : Time → String → Option Time} {taskId : Int} {update : TaskStatusUpdate}
  {startedParam finishedParam : Option Time} {store : Store}
  (started : PgBroker.timestamptzParam timestamptz attempt.now update.startedAt =
    .ok startedParam)
  (finished : PgBroker.timestamptzParam timestamptz attempt.now update.finishedAt =
    .ok finishedParam)
  (known : store.task taskId ≠ none)

include finished in
/-- There is a time at which a final report ends the assignments. -/
theorem exists_reportedEnd : ∃ time, reportedEnd attempt update finishedParam = some time := by
  cases finishedParam with
  | some time => exact ⟨time, rfl⟩
  | none => exact ⟨attempt.now, by simp [reportedEnd, timestamptzParam_eq_none finished]⟩

include started finished known

theorem updateTaskStatus_final (terminal : update.state.terminal = true) {time : Time}
    (ended : reportedEnd attempt update finishedParam = some time) :
    PgBroker.updateTaskStatus timestamptz [attempt.undisturbed] taskId update store =
      (.ok true, (store.updateTask taskId (reportTask attempt update startedParam
        finishedParam)).updateAssignments
          (fun row => decide (row.taskId = taskId) && row.unassignedAt.isNone)
          (reportedAssignment update.state time)) := by
  obtain ⟨row, found⟩ := Option.ne_none_iff_exists'.mp known
  refine (PgBroker.executeWithRetry_one rfl _ store).trans ?_
  have sameNow : attempt.undisturbed.now = attempt.now := rfl
  simp only [PgBroker.updateTaskStatusBody, sameNow, started, finished, found, bind, Except.bind]
  have sameEnd : ∀ row : AssignmentRow, finishedParam.or
      (if update.finishedAt.isNone && update.state.terminal then some attempt.now
      else row.unassignedAt) = some time := by
    intro row
    cases finishedParam with
    | some other => exact ended
    | none => simpa [reportedEnd, timestamptzParam_eq_none finished, terminal] using ended
  simp only [sameEnd]
  rw [if_pos terminal]
  rfl

theorem updateTaskStatus_unfinished (unfinished : ¬ update.state.terminal = true) :
    PgBroker.updateTaskStatus timestamptz [attempt.undisturbed] taskId update store =
      (.ok true, store.updateTask taskId
        (reportTask attempt update startedParam finishedParam)) := by
  obtain ⟨row, found⟩ := Option.ne_none_iff_exists'.mp known
  refine (PgBroker.executeWithRetry_one rfl _ store).trans ?_
  have sameNow : attempt.undisturbed.now = attempt.now := rfl
  simp only [PgBroker.updateTaskStatusBody, sameNow, started, finished, found, bind, Except.bind]
  rw [if_neg unfinished]
  rfl

end Reports

include isStarted

theorem triple_createTask {task : TaskInput} (isCreate : work.operation id = .createTask task) :
    pgEngine.Triple (Good work) id (fun sessions => sessions.committed.ledger.Exclusive)
      (createTask attempt task) fun taskId => Answered work id (.created taskId) := by
  refine .bind triple_begin fun _ => ?_
  cases accepted : PgBroker.jsonbError task with
  | some error => exact triple_abort persists_exclusive
  | none =>
      have drawn : pgEngine.Triple (Good work) id
          (Knows id [] [] fun store => store.ledger.Exclusive) (ask .draw)
          fun taskId => Knows id [] [] fun store => 0 < taskId ∧ taskId ≤ store.taskSeq :=
        knows_draw persists_exclusive fun before taskId after _ drew => nextval_drawn drew
      refine .bind drawn fun taskId => ?_
      have inRange : pgEngine.Persists (Good work) id [RowKey.task taskId]
          fun store => 0 < taskId ∧ taskId ≤ store.taskSeq :=
        (guarded_drawn taskId).persists.mono (List.nil_subset _)
      have locked : pgEngine.Triple (Good work) id
          (Knows id [] [] fun store => 0 < taskId ∧ taskId ≤ store.taskSeq)
          (ask (.lock (.task taskId)))
          fun seen => Knows id [] [.task taskId] fun store =>
            (0 < taskId ∧ taskId ≤ store.taskSeq) ∧ seen.task taskId = store.task taskId :=
        knows_lock (guarded_drawn taskId).persists fun store holds => ⟨holds, rfl⟩
      refine .bind locked fun seen => ?_
      have same : pgEngine.Persists (Good work) id [RowKey.task taskId]
          fun store => seen.task taskId = store.task taskId :=
        (guarded_task taskId fun row => seen.task taskId = row).persists
      cases found : seen.task taskId with
      | some row => exact triple_abort (inRange.and (found ▸ same))
      | none =>
          refine .bind (knows_write (inRange.and (found ▸ same)) []) fun _ => ?_
          refine triple_commitWith .created (inRange.and (found ▸ same)) isStarted ?_
          rintro reads store ⟨bounds, absent⟩
          rw [isCreate]
          exact ⟨accepted, absent.symm, bounds, dif_pos ⟨absent.symm, bounds⟩⟩

/-- The open assignments of a task that has been changed are found and ended, and the
transaction commits both updates. -/
theorem triple_endAssignments {taskId : Int} {report : TaskRow → TaskRow}
    {keeps : ∀ row, (report row).taskId = row.taskId} {change : AssignmentRow → AssignmentRow}
    {ends : ∀ row, (change row).unassignedAt.isSome = true}
    (sameEntry : ∀ row, (change row).entry = row.entry) {Result : Type}
    (wrap : Result → PgResult) {value : Result} {seen : List Store}
    (commits : ∀ reads, seen ⊆ reads → ∀ store, store.task taskId ≠ none →
      CommitOf work.timestamptz attempt reads (work.operation id) (wrap value) store
        ((store.updateTask taskId report keeps).updateAssignments
          (fun row => decide (row.taskId = taskId) && row.unassignedAt.isNone) change)) :
    pgEngine.Triple (Good work) id
      (fun sessions => seen ⊆ sessions.reads id ∧
        Knows id [.task taskId report keeps] [.task taskId] (fun store =>
          store.task taskId ≠ none) sessions)
      (updateAssignments (fun row => decide (row.taskId = taskId) && row.unassignedAt.isNone)
        change ends >>= fun _ => ask .commit >>= fun _ => .done value)
      fun value => Answered work id (wrap value) := by
  have known : pgEngine.Persists (Good work) id [RowKey.task taskId] fun store =>
      store.task taskId ≠ none := (guarded_task taskId fun row => row ≠ none).persists
  have locked : ∀ row : AssignmentRow, decide (row.taskId = taskId) = true →
      RowKey.task row.taskId ∈ [RowKey.task taskId] ∨
        RowKey.agent row.agentId ∈ [RowKey.task taskId] := by
    intro row isTask
    have same : row.taskId = taskId := by simpa using isTask
    simp [same]
  refine .bind (triple_remember (triple_updateAssignments known (fun _ _ _ => Iff.rfl) locked)
    (keepsRows_updateAssignments _ sameEntry) seen) fun _ => ?_
  rintro sessions ⟨isRead, places, distinct, knows⟩
  refine triple_commitAfter wrap ((known.mono (List.subset_append_right _ _)).and
    (persists_ended locked places)) isStarted (fun reads included => ?_) sessions ⟨isRead, knows⟩
  rintro store ⟨present, all⟩
  have ended := foldl_ended ends distinct (store.updateTask taskId report keeps) all
  rw [List.foldl_append, List.foldl_cons, List.foldl_nil]
  exact ended ▸ commits reads included store present

theorem triple_writeReport {taskId : Int} {update : TaskStatusUpdate}
    (isUpdate : work.operation id = .updateTaskStatus taskId update)
    {startedParam finishedParam : Option Time}
    (started : PgBroker.timestamptzParam work.timestamptz attempt.now update.startedAt =
      .ok startedParam)
    (finished : PgBroker.timestamptzParam work.timestamptz attempt.now update.finishedAt =
      .ok finishedParam) :
    pgEngine.Triple (Good work) id (Knows id [] [] fun store => store.ledger.Exclusive)
      (writeReport attempt taskId update startedParam finishedParam)
      fun found => Answered work id (.updated found) := by
  refine .bind (triple_updateTask persists_exclusive (by simp) _ _ _) fun affected => ?_
  rintro sessions (⟨rfl, _, knows⟩ | ⟨rfl, knows⟩)
  · exact triple_rollbackWith .updated persists_exclusive rfl sessions knows
  have known := knows.imp (List.Subset.refl _) fun _ holds => holds.2
  change CallProgram.Safe _ _ _ _ _ _
    (reportAssignments attempt taskId update finishedParam >>= fun _ =>
      ask .commit >>= fun _ => .done true) sessions
  unfold reportAssignments
  split
  · rename_i time terminal ended
    have sameEntry : ∀ row : AssignmentRow,
        (reportedAssignment update.state time row).entry = row.entry := fun _ => rfl
    refine triple_endAssignments isStarted sameEntry .updated (fun reads _ store present => ?_)
      sessions ⟨List.nil_subset _, known⟩
    rw [isUpdate]
    exact ⟨rfl, updateTaskStatus_final started finished present terminal ended⟩
  · rename_i notBoth
    have unfinished : ¬ update.state.terminal = true := by
      intro terminal
      obtain ⟨time, ended⟩ := exists_reportedEnd finished
      exact notBoth time terminal ended
    refine triple_commitWith .updated (guarded_task taskId fun row => row ≠ none).persists
      isStarted ?_ sessions known
    intro reads store present
    rw [isUpdate]
    exact ⟨rfl, updateTaskStatus_unfinished started finished present unfinished⟩

theorem triple_updateTaskStatus {taskId : Int} {update : TaskStatusUpdate}
    (isUpdate : work.operation id = .updateTaskStatus taskId update) :
    pgEngine.Triple (Good work) id (fun sessions => sessions.committed.ledger.Exclusive)
      (updateTaskStatus work.timestamptz attempt taskId update)
      fun found => Answered work id (.updated found) := by
  refine .bind triple_begin fun _ => ?_
  cases started : PgBroker.timestamptzParam work.timestamptz attempt.now update.startedAt with
  | error error => exact triple_abort persists_exclusive
  | ok startedParam =>
      cases finished : PgBroker.timestamptzParam work.timestamptz attempt.now
          update.finishedAt with
      | error error => exact triple_abort persists_exclusive
      | ok finishedParam => exact triple_writeReport isStarted isUpdate started finished

/-- A cancel that has found its task unfinished writes that it is canceled. -/
theorem triple_cancelTask {taskId : Int} (isCancel : work.operation id = .cancelTask taskId) :
    pgEngine.Triple (Good work) id (fun sessions => sessions.committed.ledger.Exclusive)
      (cancelTask attempt taskId) fun result => Answered work id (.canceled result) := by
  refine .bind triple_begin fun _ => ?_
  have viewed : pgEngine.Triple (Good work) id
      (Knows id [] [] fun store => store.ledger.Exclusive) (ask .view)
      fun seen sessions => [seen] ⊆ sessions.reads id ∧ Knows id [] [] (fun store =>
        seen.task taskId ≠ none → store.task taskId ≠ none) sessions :=
    (knows_recall persists_exclusive fun _ _ present => present).imp
      (fun _ knows => ⟨List.nil_subset _, knows⟩) fun _ _ reached => reached
  refine .bind viewed fun seen => ?_
  cases found : seen.task taskId with
  | none =>
      have nothing : pgEngine.Persists (Good work) id [] fun _ => True :=
        persists_const True
      refine (Triple.forget (triple_rollbackWith .canceled nothing ?_) fun _ _ => trivial).imp
        (fun _ known => known.2) fun _ _ answered => answered
      exact fun same => by cases same
  | some row =>
      have known : pgEngine.Persists (Good work) id [] fun store =>
          store.task taskId ≠ none := (guarded_taskKnown taskId).persists
      have here : ∀ store : Store, (some row ≠ none → store.task taskId ≠ none) →
          store.task taskId ≠ none := fun store holds => holds (by simp)
      dsimp only
      split
      · refine (Triple.forget (triple_rollbackWith .canceled known ?_) here).imp
          (fun _ known => known.2) fun _ _ answered => answered
        exact fun same => by cases same
      · rename_i unfinished
        have noWrites : ∀ change ∈ ([] : List RowChange), change.addsRow = false := by simp
        have canceled := triple_updateTask known noWrites taskId (canceledTask attempt.now)
          fun _ => rfl
        refine .bind (triple_remember (Triple.forget canceled here)
          (keepsRows_updateTasks _ fun _ => rfl) [seen]) fun affected => ?_
        rintro sessions ⟨isRead, ⟨_, ⟨store, present, absent⟩, _⟩ | ⟨_, knows⟩⟩
        · exact absurd absent present
        · have sameEntry : ∀ row : AssignmentRow,
              (canceledAssignment attempt.now row).entry = row.entry := fun _ => rfl
          refine triple_endAssignments isStarted sameEntry .canceled
            (fun reads included store present => ?_) sessions
            ⟨isRead, knows.imp (List.Subset.refl _) fun _ holds => holds.2⟩
          rw [isCancel]
          exact ⟨rfl, present, ⟨seen, included (List.mem_singleton_self seen), row, found,
            by simpa using unfinished⟩, rfl⟩

end Tasks

end PgSessions

end DistributedComputing
