import DistributedComputing.BrokerEvents
import DistributedComputing.MongoRuns

/-!
# What the Mongo broker does to the ledger
-/

namespace DistributedComputing

namespace MongoBroker

open MongoCall

/-! ## The functions without transactions, running alone -/

theorem createTaskNoTransaction_spec (attempt : Attempt) (task : TaskInput) (store : Store) :
    CreateSpec store
      ((createTaskNoTransaction attempt task).run (exec attempt.rank) store) := by
  rcases run_createTaskNoTransaction attempt task store with
    ⟨_, error, failed⟩ | ⟨bounds, fresh, inRange, inserted⟩
  · rw [failed]
    rfl
  · rw [inserted]
    refine .inr ⟨inRange.1, .single ?_ ?_⟩
    · have absent : store.task (store.taskSeq + 1) = none := fresh
      simp [Ledger.Possible, Store.ledger_state, absent]
    · exact Store.ledger_insertTask (newTask attempt.now (store.taskSeq + 1) task) fresh inRange
        rfl rfl rfl

theorem assignOne_ledger (now : Time) (agentId : String) (store : Store) (candidate : TaskRow)
    (claimable : Claimable store candidate.taskId) :
    (assignOne now agentId store candidate).ledger =
      store.ledger.step (.claim agentId candidate.taskId) := by
  obtain ⟨row, found, _⟩ := Store.exists_task_of_state claimable.queued
  exact Store.ledger_assign found _ _ agentId now (fun _ => rfl) (fun _ => rfl) (fun _ => rfl)

theorem StillFree.claimable {store : Store} {candidate : TaskRow}
    (free : StillFree store candidate) : Claimable store candidate.taskId where
  queued := by rw [Store.state_of_task free.found, free.queued]
  unassigned := by rw [Store.assignee_of_task free.found, free.unassigned]

theorem withHeartbeat_ledger (now : Time) (agentId : String) (store : Store) :
    (withHeartbeat now agentId store).ledger = store.ledger :=
  Store.ledger_updateAgent_quiet agentId _ _ fun _ => rfl

theorem pollTasksForAgentNoTransaction_spec (attempt : Attempt) (agentId : String)
    (freeSlots : Int) (store : Store) :
    PollSpec agentId freeSlots store
      ((pollTasksForAgentNoTransaction attempt agentId freeSlots).run (exec attempt.rank)
        store) := by
  rw [run_pollTasksForAgentNoTransaction]
  cases found : store.agent agentId with
  | none => exact ⟨found, rfl⟩
  | some agent =>
      dsimp only
      have startedLedger := withHeartbeat_ledger attempt.now agentId store
      have startedAgent : (withHeartbeat attempt.now agentId store).agent agentId ≠ none := by
        simp [withHeartbeat, found]
      generalize withHeartbeat attempt.now agentId store = polled at *
      split
      · rename_i noSlots
        refine ⟨by simp [found], fun _ => rfl, ?_⟩
        rw [pollEvents, if_pos noSlots]
        exact .quiet startedLedger
      · rename_i positive
        refine ⟨by simp [found], fun noSlots => absurd noSlots positive, ?_⟩
        obtain ⟨distinct, free⟩ := candidates_free attempt.rank agent freeSlots polled
        have registered : polled.ledger.status agentId ≠ none := by
          rw [startedLedger, Store.status_of_agent found]
          simp
        have claims := explains_claims (assignOne attempt.now agentId) TaskRow.taskId agentId
          (assignOne_ledger attempt.now agentId) distinct registered
          fun candidate member => (free candidate member).claimable
        have asDispatches : (candidatesOf attempt.rank agent freeSlots polled).map
            (fun candidate => (.claim agentId candidate.taskId : BrokerEvent)) =
              ((candidatesOf attempt.rank agent freeSlots polled).map taskDispatch).map
                fun dispatch => .claim agentId dispatch.taskId := by
          simp [taskDispatch]
        rw [asDispatches] at claims
        refine explains_poll positive (.of_ledger_eq startedLedger.symm claims) ?_
        have kept : ∀ store candidate other,
            (assignOne attempt.now agentId store candidate).agent other = store.agent other :=
          fun _ _ _ => rfl
        obtain ⟨row, present⟩ := Option.ne_none_iff_exists'.mp startedAgent
        rw [← Store.agent_foldl kept (candidatesOf attempt.rank agent freeSlots polled)] at present
        exact Store.ledger_updateAgent present _ _ fun _ => rfl

theorem closes_byTask (taskId : Int) (set : AssignmentSet)
    (reasonNe : set.reason ≠ "agent_offline") :
    ClosesOpenRows (AssignmentFilter.matches { taskId := some taskId }) set.apply
      (fun row => decide (row.taskId = taskId)) .taskOver where
  test_eq row := by simp [AssignmentFilter.matches]
  task_eq _ := rfl
  agent_eq _ := rfl
  closed _ := rfl
  reason_eq row := by simp [AssignmentSet.apply, reasonNe]

theorem updateTaskStatusNoTransaction_spec (attempt : Attempt) (taskId : Int)
    (update : TaskStatusUpdate) (store : Store) :
    UpdateSpec taskId update store
      ((updateTaskStatusNoTransaction attempt taskId update).run (exec attempt.rank) store) := by
  rw [run_updateTaskStatusNoTransaction]
  cases found : store.task taskId with
  | none => exact ⟨found, rfl⟩
  | some current =>
      dsimp only
      have known : store.ledger.state taskId ≠ none := by
        rw [Store.state_of_task found]
        simp
      split
      · rename_i isOver
        refine ⟨by simp [found], .single known ?_⟩
        refine Store.ledger_finalReport found _ _ ?_ ?_ ?_ isOver (closes_byTask taskId _ ?_)
        · exact fun _ => rfl
        · exact fun _ => rfl
        · exact fun _ => rfl
        · unfold reportUnassign
          dsimp only
          split <;> simp
      · rename_i unfinished
        refine ⟨by simp [found], .single known ?_⟩
        refine Store.ledger_report found _ _ ?_ ?_ ?_ (by simpa using unfinished)
        · exact fun _ => rfl
        · exact fun _ => rfl
        · exact fun _ => rfl

theorem cancelTaskNoTransaction_spec (attempt : Attempt) (taskId : Int) (store : Store) :
    CancelSpec taskId store
      ((cancelTaskNoTransaction attempt taskId).run (exec attempt.rank) store) := by
  rw [run_cancelTaskNoTransaction]
  cases found : store.task taskId with
  | none => rfl
  | some current =>
      dsimp only
      split
      · rfl
      · rename_i unfinished
        refine .single ⟨current.state, Store.state_of_task found, by simpa using unfinished⟩ ?_
        rw [Ledger.step_cancel]
        refine Store.ledger_finalReport found _ _ ?_ ?_ ?_ rfl
          (closes_byTask taskId (cancelUnassign attempt.now) (by simp [cancelUnassign]))
        · exact fun _ => rfl
        · exact fun _ => rfl
        · exact fun _ => rfl

theorem takeOffline_ledger (now : Time) (store : Store) (agentId : String)
    (expirable : Expirable store agentId) :
    (takeOffline now store agentId).ledger = store.ledger.step (.expire agentId) := by
  obtain ⟨row, found, _⟩ := expirable
  refine Store.ledger_expire found _ _ ?_ ?_ _ _ ?_ ?_ ?_ ?_
  · exact fun _ => rfl
  · exact
      { test_eq := fun row => by simp [AssignmentFilter.matches]
        task_eq := fun _ => rfl
        agent_eq := fun _ => rfl
        closed := fun _ => rfl
        reason_eq := fun _ => by simp [AssignmentSet.apply, offlineUnassign] }
  · intro task
    simp [activeTasksOf, TaskFilter.matches, and_comm]
  · exact fun _ => rfl
  · exact fun _ => rfl
  · exact fun _ => rfl

theorem takeOffline_agent (now : Time) (store : Store) (agentId other : String)
    (different : other ≠ agentId) :
    (takeOffline now store agentId).agent other = store.agent other := by
  simp [takeOffline, different]

theorem staleFilter_matches (now : Time) (offlineAfterSec : Int) (store : Store) :
    (store.agents.rows.filter (staleFilter now offlineAfterSec).matches).map AgentRow.agentId =
      store.staleAgents now offlineAfterSec :=
  rfl

theorem markOfflineAgentsAndRequeueNoTransaction_spec (attempt : Attempt)
    (offlineAfterSec : Int) (store : Store) :
    SweepSpec attempt.now offlineAfterSec store
      ((markOfflineAgentsAndRequeueNoTransaction attempt offlineAfterSec).run
        (exec attempt.rank) store) := by
  rw [run_markOfflineAgentsAndRequeueNoTransaction, staleFilter_matches]
  refine ⟨rfl, ?_⟩
  exact explains_expiries (takeOffline attempt.later) (takeOffline_ledger attempt.later)
    (takeOffline_agent attempt.later) (store.nodup_staleAgents attempt.now offlineAfterSec)
    fun _ stale => Store.expirable_of_stale stale

/-! ## The methods -/

/-- An attempt in which no call raises, with or without transactions. -/
def FaultFree (attempt : Attempt) : Prop :=
  (attempt.transaction = some .none ∨ attempt.transaction = none) ∧ attempt.raisingCall = none

theorem runCalls_faultFree {Result : Type} {attempt : Attempt} (faultFree : FaultFree attempt)
    (program : MongoProgram Result) (store : Store) :
    runCalls attempt program store = program.run (exec attempt.rank) store := by
  rw [runCalls, faultFree.2, CallProgram.runUntil_none]

/-- Without faults a transactional method does what its function without transactions
does, provided that a rollback has nothing to undo. -/
theorem withTransaction_faultFree {Result : Type} {attempt : Attempt}
    (faultFree : FaultFree attempt) {body : MongoProgram (SessionEnd Result)}
    {program : MongoProgram Result} {ends : Result → SessionEnd Result}
    (bodyEq : body = (program >>= fun result => .done (ends result)))
    (sameResult : ∀ result, ends result = .abort result ∨ ends result = .commit result)
    {store : Store}
    (failed : ∀ error after, program.run (exec attempt.rank) store = (.error error, after) →
      after = store)
    (aborted : ∀ result after, program.run (exec attempt.rank) store = (.ok result, after) →
      ends result = .abort result → after = store) :
    withTransaction attempt body program store = program.run (exec attempt.rank) store := by
  rcases faultFree.1 with transactions | none
  · simp only [withTransaction, transactions]
    rw [TxEnd.attempt_none, bodyEq, sessionBody_bind]
    rcases ran : program.run (exec attempt.rank) store with ⟨_ | result, after⟩
    · rw [failed _ _ ran]
      rfl
    · dsimp only
      rcases sameResult result with rolledBack | committed
      · rw [rolledBack, aborted result after ran rolledBack]
        rfl
      · rw [committed]
        rfl
  · simp only [withTransaction, none]
    exact runCalls_faultFree faultFree program store

/-- When no attempt can raise, the method has the outcome of the first one. -/
theorem orElse_executeWithRetry {Result : Type} {attempts : List Attempt}
    (nonempty : attempts ≠ []) (default : Result) (fn : Attempt → DbAction Result) {store : Store}
    (stable : ∀ attempt ∈ attempts, ∀ error after,
      fn attempt store = (.error error, after) → after = store) :
    ∃ attempt ∈ attempts,
      orElse default (executeWithRetry attempts fn) store = orElse default (fn attempt) store := by
  have stableRuns : ∀ run ∈ attempts.map fn, ∀ error after,
      run store = (.error error, after) → after = store := by
    intro run member error after raised
    obtain ⟨attempt, attemptMember, rfl⟩ := List.mem_map.mp member
    exact stable attempt attemptMember error after raised
  obtain ⟨run, member, equal⟩ := RetryLoop.retry_eq_attempt
    (⟨"Retry loop exhausted unexpectedly"⟩ : DbError) (by simpa using nonempty) stableRuns
  obtain ⟨attempt, attemptMember, rfl⟩ := List.mem_map.mp member
  exact ⟨attempt, attemptMember, by simp only [orElse, executeWithRetry, equal]⟩

/-- A transactional method under a schedule without faults. -/
theorem transactional_faultFree {Result : Type} {attempts : List Attempt}
    (nonempty : attempts ≠ []) (faultFree : ∀ attempt ∈ attempts, FaultFree attempt)
    (default : Result) {body : Attempt → MongoProgram (SessionEnd Result)}
    {program : Attempt → MongoProgram Result} {store : Store}
    (alone : ∀ attempt, FaultFree attempt →
      withTransaction attempt (body attempt) (program attempt) store =
        (program attempt).run (exec attempt.rank) store)
    (failed : ∀ attempt error after,
      (program attempt).run (exec attempt.rank) store = (.error error, after) → after = store) :
    ∃ attempt ∈ attempts,
      orElse default (executeWithRetry attempts fun attempt =>
          withTransaction attempt (body attempt) (program attempt)) store =
        orElse default ((program attempt).run (exec attempt.rank)) store := by
  obtain ⟨attempt, member, equal⟩ := orElse_executeWithRetry nonempty default
    (fun attempt => withTransaction attempt (body attempt) (program attempt))
    fun attempt member error after raised => by
      rw [alone attempt (faultFree attempt member)] at raised
      exact failed attempt error after raised
  refine ⟨attempt, member, ?_⟩
  rw [equal]
  simp only [orElse, alone attempt (faultFree attempt member)]

section Alone

variable {attempt : Attempt} (faultFree : FaultFree attempt) (store : Store)

include faultFree

theorem withTransaction_createTask (task : TaskInput) :
    withTransaction attempt (createTaskTransaction attempt task)
        (createTaskNoTransaction attempt task) store =
      (createTaskNoTransaction attempt task).run (exec attempt.rank) store := by
  refine withTransaction_faultFree faultFree (createTaskTransaction_eq attempt task)
    (fun _ => .inr rfl) ?_ fun _ _ _ aborted => by cases aborted
  intro error after raised
  have spec := createTaskNoTransaction_spec attempt task store
  rwa [raised] at spec

theorem withTransaction_pollTasksForAgent (agentId : String) (freeSlots : Int) :
    withTransaction attempt (pollTasksForAgentTransaction attempt agentId freeSlots)
        (pollTasksForAgentNoTransaction attempt agentId freeSlots) store =
      (pollTasksForAgentNoTransaction attempt agentId freeSlots).run (exec attempt.rank) store := by
  have spec := pollTasksForAgentNoTransaction_spec attempt agentId freeSlots store
  refine withTransaction_faultFree faultFree
    (pollTasksForAgentTransaction_eq attempt agentId freeSlots) ?_ ?_ ?_
  · intro result
    cases result with
    | none => exact .inl rfl
    | some dispatches => exact .inr rfl
  · intro error after raised
    rwa [raised] at spec
  · intro result after returned aborted
    cases result with
    | none =>
        rw [returned] at spec
        exact spec.2
    | some dispatches => cases aborted

theorem withTransaction_updateTaskStatus (taskId : Int) (update : TaskStatusUpdate) :
    withTransaction attempt (updateTaskStatusTransaction attempt taskId update)
        (updateTaskStatusNoTransaction attempt taskId update) store =
      (updateTaskStatusNoTransaction attempt taskId update).run (exec attempt.rank) store := by
  have spec := updateTaskStatusNoTransaction_spec attempt taskId update store
  refine withTransaction_faultFree faultFree
    (updateTaskStatusTransaction_eq attempt taskId update) ?_ ?_ ?_
  · intro updated
    cases updated with
    | false => exact .inl rfl
    | true => exact .inr rfl
  · intro error after raised
    rwa [raised] at spec
  · intro updated after returned aborted
    cases updated with
    | false =>
        rw [returned] at spec
        exact spec.2
    | true => cases aborted

theorem withTransaction_cancelTask (taskId : Int) :
    withTransaction attempt (cancelTaskTransaction attempt taskId)
        (cancelTaskNoTransaction attempt taskId) store =
      (cancelTaskNoTransaction attempt taskId).run (exec attempt.rank) store := by
  have spec := cancelTaskNoTransaction_spec attempt taskId store
  refine withTransaction_faultFree faultFree (cancelTaskTransaction_eq attempt taskId) ?_ ?_ ?_
  · intro result
    cases result with
    | ok => exact .inr rfl
    | notFound => exact .inl rfl
    | invalidState => exact .inl rfl
    | error => exact .inl rfl
  · intro error after raised
    rwa [raised] at spec
  · intro result after returned aborted
    rw [returned] at spec
    cases result with
    | ok => cases aborted
    | notFound => exact spec
    | invalidState => exact spec
    | error => exact spec

theorem withTransaction_markOfflineAgentsAndRequeue (offlineAfterSec : Int) :
    withTransaction attempt (markOfflineAgentsAndRequeueTransaction attempt offlineAfterSec)
        (markOfflineAgentsAndRequeueNoTransaction attempt offlineAfterSec) store =
      (markOfflineAgentsAndRequeueNoTransaction attempt offlineAfterSec).run (exec attempt.rank)
        store := by
  refine withTransaction_faultFree faultFree
    (markOfflineAgentsAndRequeueTransaction_eq attempt offlineAfterSec) (fun _ => .inr rfl) ?_
    fun _ _ _ aborted => by cases aborted
  intro error after raised
  rw [run_markOfflineAgentsAndRequeueNoTransaction attempt offlineAfterSec store] at raised
  cases raised

end Alone

theorem orElse_store {Result : Type} (result : Result) (action : DbAction Result)
    (store : Store) : (orElse result action store).2 = (action store).2 := by
  unfold orElse
  rcases action store with ⟨_ | returned, after⟩ <;> rfl

/-- The call changes nothing, also when it raises. -/
def ReadsOnly (call : MongoCall) : Prop :=
  ∀ rank store, (call.exec rank store).2 = store ∧
    ∀ progress, call.interrupted rank progress store = store

/-- A method that only reads leaves the store alone under every schedule. -/
theorem reads_store {Result : Type} (default : Result) (attempts : List Attempt)
    {program : Attempt → MongoProgram Result}
    (issues : ∀ attempt, (program attempt).Issues ReadsOnly) (store : Store) :
    (orElse default (executeWithRetry attempts fun attempt =>
      runCalls attempt (program attempt)) store).2 = store := by
  rw [orElse_store]
  refine (RetryLoop.retry_rel (fun _ => rfl) (fun _ _ _ => Eq.trans) _ ?_ store).symm
  intro action member before
  obtain ⟨attempt, _, rfl⟩ := List.mem_map.mp member
  exact CallProgram.runUntil_rel (fun _ => rfl) (fun _ _ _ => Eq.trans)
    (fun _ reads state => (reads attempt.rank state).1.symm)
    (fun _ reads progress state => ((reads attempt.rank state).2 progress).symm) attempt.error
    attempt.raisingCall (issues attempt) before

theorem listAgents_store (attempts : List Attempt) (status : Option AgentStatus)
    (limit offset : Int) (store : Store) :
    (listAgents attempts status limit offset store).2 = store := by
  have reads : (listAgentsOnce status limit offset).Issues ReadsOnly :=
    .perform (fun _ store => ⟨rfl, fun _ => ite_self store⟩) fun _ => trivial
  exact reads_store [] attempts (fun _ => reads) store

theorem listTasks_store (attempts : List Attempt) (state : Option TaskState)
    (agentId : Option String) (limit offset : Int) (store : Store) :
    (listTasks attempts state agentId limit offset store).2 = store := by
  have reads : (listTasksOnce state agentId limit offset).Issues ReadsOnly :=
    .perform (fun _ store => ⟨rfl, fun _ => ite_self store⟩) fun _ => trivial
  exact reads_store [] attempts (fun _ => reads) store

theorem getTask_store (attempts : List Attempt) (taskId : Int) (store : Store) :
    (getTask attempts taskId store).2 = store := by
  have reads : (getTaskOnce taskId).Issues ReadsOnly :=
    .perform (fun _ store => ⟨rfl, fun _ => ite_self store⟩) fun _ => trivial
  exact reads_store none attempts (fun _ => reads) store

theorem getAgent_store (attempts : List Attempt) (agentId : String) (store : Store) :
    (getAgent attempts agentId store).2 = store := by
  have reads : (getAgentOnce agentId).Issues ReadsOnly :=
    .perform (fun _ store => ⟨rfl, fun _ => ite_self store⟩) fun _ => trivial
  exact reads_store none attempts (fun _ => reads) store

theorem orElse_of_ok {Result : Type} (default : Result) {action : DbAction Result}
    {store after : Store} {result : Result} (returned : action store = (.ok result, after)) :
    orElse default action store = (.ok result, after) := by
  simp only [orElse, returned]

theorem orElse_of_error {Result : Type} (default : Result) {action : DbAction Result}
    {store after : Store} {error : DbError} (raised : action store = (.error error, after)) :
    orElse default action store = (.ok default, after) := by
  simp only [orElse, raised]

/-- A method that makes its calls outside of sessions. -/
theorem plain_faultFree {Result : Type} {attempts : List Attempt} (nonempty : attempts ≠ [])
    (faultFree : ∀ attempt ∈ attempts, FaultFree attempt) (default : Result)
    (program : Attempt → MongoProgram Result) {store : Store}
    (returns : ∀ attempt, ∃ result after,
      (program attempt).run (exec attempt.rank) store = (.ok result, after)) :
    ∃ attempt ∈ attempts,
      orElse default (executeWithRetry attempts fun attempt =>
          runCalls attempt (program attempt)) store =
        (program attempt).run (exec attempt.rank) store := by
  have alone : ∀ attempt ∈ attempts, runCalls attempt (program attempt) store =
      (program attempt).run (exec attempt.rank) store := fun attempt member =>
    runCalls_faultFree (faultFree attempt member) (program attempt) store
  obtain ⟨attempt, member, equal⟩ := orElse_executeWithRetry nonempty default
    (fun attempt => runCalls attempt (program attempt))
    fun attempt member error after raised => by
      obtain ⟨result, other, returned⟩ := returns attempt
      rw [alone attempt member, returned] at raised
      cases raised
  refine ⟨attempt, member, ?_⟩
  obtain ⟨result, after, returned⟩ := returns attempt
  rw [equal, returned]
  exact orElse_of_ok default ((alone attempt member).trans returned)

section Schedules

variable {attempts : List Attempt} (nonempty : attempts ≠ [])
  (faultFree : ∀ attempt ∈ attempts, FaultFree attempt)

include nonempty faultFree

theorem upsertAgent_spec (agent : AgentInput) (store : Store) :
    UpsertSpec agent.agentId store (upsertAgent attempts agent store) := by
  obtain ⟨attempt, _, equal⟩ := plain_faultFree nonempty faultFree false
    (fun attempt => upsertAgentOnce attempt agent) fun _ => ⟨true, _, rfl⟩
  rw [upsertAgent, equal]
  refine ⟨rfl, .single trivial ?_⟩
  exact Store.ledger_upsertAgent _ _ _ fun _ => rfl

theorem updateHeartbeat_spec (heartbeat : AgentHeartbeat) (store : Store) :
    HeartbeatSpec heartbeat store (updateHeartbeat attempts heartbeat store) := by
  obtain ⟨attempt, _, equal⟩ := plain_faultFree nonempty faultFree false
    (fun attempt => updateHeartbeatOnce attempt heartbeat) fun attempt => by
      obtain ⟨result, ran, _⟩ := run_updateHeartbeatOnce attempt heartbeat store
      exact ⟨_, _, ran⟩
  obtain ⟨result, ran, matched⟩ := run_updateHeartbeatOnce attempt heartbeat store
  rw [updateHeartbeat, equal, ran]
  cases found : store.agent heartbeat.agentId with
  | none =>
      have unmatched : decide (0 < result.matchedCount) = false := by simp [matched, found]
      rw [unmatched]
      exact ⟨found, Store.updateAgent_of_absent found _ _⟩
  | some row =>
      have hit : decide (0 < result.matchedCount) = true := by simp [matched, found]
      rw [hit]
      refine ⟨by simp [found], .single trivial ?_⟩
      exact Store.ledger_updateAgent found _ _ fun _ => rfl

theorem getTask_spec (taskId : Int) (store : Store) :
    GetTaskSpec taskId store (getTask attempts taskId store) := by
  obtain ⟨attempt, _, equal⟩ := plain_faultFree nonempty faultFree none
    (fun _ => getTaskOnce taskId) fun _ => ⟨(store.task taskId).map taskRecord, store, rfl⟩
  rw [getTask, equal]
  exact ⟨rfl, taskRecord, fun _ => rfl, rfl⟩

theorem getAgent_spec (agentId : String) (store : Store) :
    GetAgentSpec store (getAgent attempts agentId store) := by
  obtain ⟨attempt, _, equal⟩ := plain_faultFree nonempty faultFree none
    (fun _ => getAgentOnce agentId) fun _ => ⟨(store.agent agentId).map agentRecord, store, rfl⟩
  rw [getAgent, equal]
  rfl

theorem createTask_spec (task : TaskInput) (store : Store) :
    CreateSpec store (createTask attempts task store) := by
  have specs := fun attempt => createTaskNoTransaction_spec attempt task store
  obtain ⟨attempt, _, equal⟩ := transactional_faultFree nonempty faultFree 0
    (fun _ faultFree => withTransaction_createTask faultFree store task)
    fun attempt error after raised => by
      have spec := specs attempt
      rwa [raised] at spec
  rw [createTask, equal, orElse]
  have spec := specs attempt
  rcases ran : (createTaskNoTransaction attempt task).run (exec attempt.rank) store with
    ⟨_ | taskId, after⟩
  · rw [ran] at spec
    exact .inl ⟨le_refl 0, spec⟩
  · rwa [ran] at spec

theorem pollTasksForAgent_spec (agentId : String) (freeSlots : Int) (store : Store) :
    PollSpec agentId freeSlots store (pollTasksForAgent attempts agentId freeSlots store) := by
  have specs := fun attempt => pollTasksForAgentNoTransaction_spec attempt agentId freeSlots store
  obtain ⟨attempt, _, equal⟩ := transactional_faultFree nonempty faultFree (some [])
    (fun _ faultFree => withTransaction_pollTasksForAgent faultFree store agentId freeSlots)
    fun attempt error after raised => by
      have spec := specs attempt
      rwa [raised] at spec
  have spec := specs attempt
  rw [pollTasksForAgent, equal, orElse]
  rcases ran : (pollTasksForAgentNoTransaction attempt agentId freeSlots).run
    (exec attempt.rank) store with ⟨_ | result, after⟩
  · rw [run_pollTasksForAgentNoTransaction] at ran
    cases found : store.agent agentId with
    | none => simp [found] at ran
    | some agent =>
        simp only [found] at ran
        split at ran <;> cases ran
  · rwa [ran] at spec

theorem updateTaskStatus_spec (taskId : Int) (update : TaskStatusUpdate) (store : Store) :
    UpdateSpec taskId update store (updateTaskStatus attempts taskId update store) ∧
      ∃ updated, (updateTaskStatus attempts taskId update store).1 = .ok updated := by
  have specs := fun attempt => updateTaskStatusNoTransaction_spec attempt taskId update store
  obtain ⟨attempt, _, equal⟩ := transactional_faultFree nonempty faultFree false
    (fun _ faultFree => withTransaction_updateTaskStatus faultFree store taskId update)
    fun attempt error after raised => by
      have spec := specs attempt
      rwa [raised] at spec
  have spec := specs attempt
  rw [updateTaskStatus, equal, orElse]
  rcases ran : (updateTaskStatusNoTransaction attempt taskId update).run
    (exec attempt.rank) store with ⟨_ | updated, after⟩
  · rw [run_updateTaskStatusNoTransaction] at ran
    cases found : store.task taskId with
    | none => simp [found] at ran
    | some current => simp [found] at ran
  · rw [ran] at spec
    exact ⟨spec, updated, rfl⟩

theorem cancelTask_spec (taskId : Int) (store : Store) :
    CancelSpec taskId store (cancelTask attempts taskId store) := by
  have specs := fun attempt => cancelTaskNoTransaction_spec attempt taskId store
  obtain ⟨attempt, _, equal⟩ := transactional_faultFree nonempty faultFree .error
    (fun _ faultFree => withTransaction_cancelTask faultFree store taskId)
    fun attempt error after raised => by
      have spec := specs attempt
      rwa [raised] at spec
  have spec := specs attempt
  rw [cancelTask, equal, orElse]
  rcases ran : (cancelTaskNoTransaction attempt taskId).run (exec attempt.rank) store with
    ⟨_ | result, after⟩
  · rw [ran] at spec
    exact spec
  · rwa [ran] at spec

theorem markOfflineAgentsAndRequeue_spec (offlineAfterSec : Int) (store : Store) :
    ∃ attempt ∈ attempts, SweepSpec attempt.now offlineAfterSec store
      (markOfflineAgentsAndRequeue attempts offlineAfterSec store) := by
  have runs := fun attempt =>
    run_markOfflineAgentsAndRequeueNoTransaction attempt offlineAfterSec store
  obtain ⟨attempt, member, equal⟩ := transactional_faultFree nonempty faultFree 0
    (fun _ faultFree => withTransaction_markOfflineAgentsAndRequeue faultFree store offlineAfterSec)
    fun attempt error after raised => by
      rw [runs attempt] at raised
      cases raised
  refine ⟨attempt, member, ?_⟩
  rw [markOfflineAgentsAndRequeue, equal, orElse_of_ok 0 (runs attempt), ← runs attempt]
  exact markOfflineAgentsAndRequeueNoTransaction_spec attempt offlineAfterSec store

end Schedules

end MongoBroker

end DistributedComputing
