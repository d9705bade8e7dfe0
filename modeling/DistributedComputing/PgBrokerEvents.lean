import DistributedComputing.BrokerEvents
import DistributedComputing.PgBroker

/-!
# What the PostgreSQL broker does to the ledger
-/

namespace DistributedComputing

namespace PgBroker

/-! ## The bodies of the transactions -/

theorem createTaskBody_spec (attempt : Attempt) (task : TaskInput) (store : Store) :
    CreateSpec store (TxEnd.settle store (createTaskBody attempt task store)) := by
  unfold createTaskBody
  cases jsonbError task with
  | some error => rfl
  | none =>
  dsimp only
  split
  · rename_i inRange
    have bounds := store.taskSeqBounds
    refine .inr ⟨by omega, .single ?_ ?_⟩
    · have fresh : store.task (store.taskSeq + attempt.sequenceGap + 1) = none :=
        Store.task_eq_none_of_lt (by omega)
      simp [Ledger.Possible, Store.ledger_state, fresh]
    · exact Store.ledger_insertTask _ _ _ rfl rfl rfl
  · rfl

theorem selectWhere_subset {condition : TaskRow → Except DbError Bool} {rows chosen : List TaskRow}
    (selected : selectWhere condition rows = .ok chosen) :
    chosen.Sublist rows ∧ ∀ row ∈ chosen, condition row = .ok true := by
  induction rows generalizing chosen with
  | nil =>
      cases selected
      exact ⟨.refl _, by simp⟩
  | cons row rows ih =>
      simp only [selectWhere, bind, Except.bind] at selected
      cases tested : condition row with
      | error error => simp [tested] at selected
      | ok passes =>
          cases others : selectWhere condition rows with
          | error error => simp [tested, others] at selected
          | ok rest =>
              simp only [tested, others, Except.ok.injEq] at selected
              subst selected
              obtain ⟨sublist, passed⟩ := ih others
              cases passes with
              | false => exact ⟨sublist.cons row, passed⟩
              | true =>
                  refine ⟨sublist.cons_cons row, ?_⟩
                  intro other member
                  rcases List.mem_cons.mp member with rfl | inRest
                  · exact tested
                  · exact passed other inRest

theorem claimable_of_fits {agent : AgentRow} {row : TaskRow} (fitting : fits agent row = .ok true) :
    row.state = .queued ∧ row.assignedAgent = none := by
  unfold fits at fitting
  split at fitting
  · rename_i available
    exact ⟨available.1, available.2.1⟩
  · cases fitting

theorem assign_ledger (now : Time) (agentId : String) (store : Store) (dispatch : TaskDispatch)
    (claimable : Claimable store dispatch.taskId) :
    (assign now agentId store dispatch).ledger =
      store.ledger.step (.claim agentId dispatch.taskId) := by
  obtain ⟨row, found, _⟩ := Store.exists_task_of_state claimable.queued
  exact Store.ledger_assign found _ _ agentId now (fun _ => rfl) (fun _ => rfl) (fun _ => rfl)

/-- The rows that a poll selects are claimable and have distinct ids. -/
theorem claimable_of_selected {store : Store} {agent : AgentRow} {rows : List TaskRow}
    (selected : selectWhere (fits agent) store.tasks.rows = .ok rows) (rank : Int → Nat)
    (freeSlots : Int) :
    (((oldest rank freeSlots rows).map taskDispatch).map TaskDispatch.taskId).Nodup ∧
      ∀ dispatch ∈ (oldest rank freeSlots rows).map taskDispatch,
        Claimable store dispatch.taskId := by
  obtain ⟨sublist, fitting⟩ := selectWhere_subset selected
  constructor
  · rw [List.map_map]
    exact nodup_oldest (store.tasks.unique.sublist (sublist.map TaskRow.taskId))
  · intro dispatch member
    obtain ⟨row, rowMember, rfl⟩ := List.mem_map.mp member
    have inRows := mem_of_mem_oldest rowMember
    obtain ⟨queued, unassigned⟩ := claimable_of_fits (fitting row inRows)
    have found : store.task (taskDispatch row).taskId = some row :=
      KeyedTable.lookup_of_mem (sublist.subset inRows)
    exact ⟨by rw [Store.state_of_task found, queued],
      by rw [Store.assignee_of_task found, unassigned]⟩

theorem pollTasksForAgentBody_spec (attempt : Attempt) (agentId : String) (freeSlots : Int)
    (store : Store) : PollSpec agentId freeSlots store
      (TxEnd.settle store (pollTasksForAgentBody attempt agentId freeSlots store)) := by
  unfold pollTasksForAgentBody
  cases found : store.agent agentId with
  | none => exact ⟨found, rfl⟩
  | some agent =>
      dsimp only
      -- The heartbeat that the poll writes is not visible in the ledger.
      generalize started : (store.updateAgent agentId fun row =>
        { row with lastHeartbeat := attempt.now }) = polled
      have startedLedger : polled.ledger = store.ledger := by
        rw [← started]
        exact Store.ledger_updateAgent_quiet agentId _ _ fun _ => rfl
      split
      · rename_i noSlots
        refine ⟨by simp [found], fun _ => rfl, ?_⟩
        rw [pollEvents, if_pos noSlots]
        exact .quiet startedLedger
      · rename_i positive
        cases selected : selectWhere (fits agent) polled.tasks.rows with
        | error error => rfl
        | ok rows =>
            obtain ⟨distinct, claimable⟩ := claimable_of_selected selected attempt.rank freeSlots
            refine ⟨by simp [found], fun noSlots => absurd noSlots positive, ?_⟩
            have registered : polled.ledger.status agentId ≠ none := by
              rw [startedLedger, Store.status_of_agent found]
              simp
            have claims := explains_claims (assign attempt.now agentId) TaskDispatch.taskId agentId
              (assign_ledger attempt.now agentId) distinct registered claimable
            refine explains_poll positive (.of_ledger_eq startedLedger.symm claims) ?_
            have present : (((oldest attempt.rank freeSlots rows).map taskDispatch).foldl
                (assign attempt.now agentId) polled).agent agentId =
                  some { agent with lastHeartbeat := attempt.now } := by
              have kept : ∀ store dispatch other,
                  (assign attempt.now agentId store dispatch).agent other = store.agent other :=
                fun _ _ _ => rfl
              rw [Store.agent_foldl kept, ← started]
              simp [found]
            exact Store.ledger_updateAgent present _ _ fun _ => rfl

theorem isSome_of_timestamptzParam {timestamptz : Time → String → Option Time} {now : Time}
    {text : Option String} {param : Option Time}
    (converted : timestamptzParam timestamptz now text = .ok param) :
    param.isSome = text.isSome := by
  cases text with
  | none =>
      cases converted
      rfl
  | some text =>
      unfold timestamptzParam at converted
      cases time : timestamptz now (textParam text) with
      | none => simp [time] at converted
      | some time =>
          simp only [time, Except.ok.injEq] at converted
          subst converted
          rfl

theorem timestamptzParam_ok {timestamptz : Time → String → Option Time} {now : Time}
    {text : Option String} (reads : ∀ value, text = some value →
      (timestamptz now (textParam value)).isSome) :
    ∃ param, timestamptzParam timestamptz now text = .ok param := by
  cases text with
  | none => exact ⟨none, rfl⟩
  | some value =>
      obtain ⟨time, converted⟩ := Option.isSome_iff_exists.mp (reads value rfl)
      exact ⟨some time, by simp [timestamptzParam, converted]⟩

theorem updateTaskStatusBody_spec (timestamptz : Time → String → Option Time)
    (attempt : Attempt) (taskId : Int) (update : TaskStatusUpdate) (store : Store) :
    UpdateSpec taskId update store
      (TxEnd.settle store (updateTaskStatusBody timestamptz attempt taskId update store)) := by
  unfold updateTaskStatusBody
  cases started : timestamptzParam timestamptz attempt.now update.startedAt with
  | error error => rfl
  | ok startedParam =>
      cases finished : timestamptzParam timestamptz attempt.now update.finishedAt with
      | error error => rfl
      | ok finishedParam =>
          cases found : store.task taskId with
          | none => exact ⟨found, rfl⟩
          | some row =>
              have exists_state : store.ledger.state taskId ≠ none := by
                rw [Store.state_of_task found]
                simp
              simp only [bind, Except.bind]
              split
              · rename_i isOver
                refine ⟨by simp [found], .single exists_state ?_⟩
                refine Store.ledger_finalReport found _ _ ?_ ?_ ?_ isOver ?_
                · exact fun _ => rfl
                · exact fun _ => rfl
                · exact fun _ => rfl
                refine ⟨fun _ => rfl, fun _ => rfl, fun _ => rfl, ?_, ?_⟩
                · intro assignment
                  have sameSome := isSome_of_timestamptzParam finished
                  cases finishedText : update.finishedAt with
                  | none => simp [isOver]
                  | some text => simp [finishedText] at sameSome; simp [sameSome]
                · intro assignment
                  dsimp only
                  split <;> simp
              · rename_i unfinished
                refine ⟨by simp [found], .single exists_state ?_⟩
                exact Store.ledger_report found _ _ (fun _ => rfl) (fun _ => rfl)
                  (fun _ => rfl) (by simpa using unfinished)

theorem cancelTaskBody_spec (attempt : Attempt) (taskId : Int) (store : Store) :
    CancelSpec taskId store (TxEnd.settle store (cancelTaskBody attempt taskId store)) := by
  unfold cancelTaskBody
  cases found : store.task taskId with
  | none => rfl
  | some row =>
      dsimp only
      split
      · rfl
      · rename_i unfinished
        refine .single ⟨row.state, Store.state_of_task found, by simpa using unfinished⟩ ?_
        rw [Ledger.step_cancel]
        refine Store.ledger_finalReport found _ _ ?_ ?_ ?_ rfl ?_
        · exact fun _ => rfl
        · exact fun _ => rfl
        · exact fun _ => rfl
        · exact ⟨fun _ => rfl, fun _ => rfl, fun _ => rfl, fun _ => rfl, fun _ => by simp⟩

theorem takeOffline_ledger (now : Time) (store : Store) (agentId : String)
    (expirable : Expirable store agentId) :
    (takeOffline now store agentId).ledger = store.ledger.step (.expire agentId) := by
  obtain ⟨row, found, _⟩ := expirable
  refine Store.ledger_expire found _ _ ?_ ?_ _ _ ?_ ?_ ?_ ?_
  · exact fun _ => rfl
  · exact ⟨fun _ => rfl, fun _ => rfl, fun _ => rfl, fun _ => rfl, fun _ => by simp⟩
  · intro task
    simp
  · exact fun _ => rfl
  · exact fun _ => rfl
  · exact fun _ => rfl

theorem takeOffline_agent (now : Time) (store : Store) (agentId other : String)
    (different : other ≠ agentId) :
    (takeOffline now store agentId).agent other = store.agent other := by
  simp [takeOffline, different]

theorem markOfflineAgentsAndRequeueBody_spec (attempt : Attempt) (offlineAfterSec : Int)
    (store : Store) : SweepSpec attempt.now offlineAfterSec store
      (TxEnd.settle store (markOfflineAgentsAndRequeueBody attempt offlineAfterSec store)) := by
  have expiries := explains_expiries (takeOffline attempt.now) (takeOffline_ledger attempt.now)
    (takeOffline_agent attempt.now) (store.nodup_staleAgents attempt.now offlineAfterSec)
    fun _ stale => Store.expirable_of_stale stale
  unfold markOfflineAgentsAndRequeueBody
  dsimp only
  split
  · rename_i nobody
    have noStale : store.staleAgents attempt.now offlineAfterSec = [] := by
      simpa [Store.staleAgents] using nobody
    refine ⟨by simp [noStale, TxEnd.settle], ?_⟩
    rw [noStale]
    exact .quiet rfl
  · exact ⟨by simp [TxEnd.settle, Store.staleAgents], expiries⟩

/-! ## The methods -/

/-- A method that never commits leaves the store alone under every schedule. -/
theorem reads_store {Result : Type} (attempts : List Attempt)
    {body : Attempt → Store → Except DbError (TxEnd Store Result)}
    (reads : ∀ attempt store result after, body attempt store ≠ .ok (.commit result after))
    (store : Store) :
    (executeWithRetry attempts (fun attempt => transaction attempt (body attempt)) store).2 =
      store := by
  refine (RetryLoop.retry_rel (fun _ => rfl) (fun _ _ _ => Eq.trans) _ ?_ store).symm
  intro action member before
  obtain ⟨attempt, _, rfl⟩ := List.mem_map.mp member
  exact TxEnd.attempt_rel Eq rfl _ _ fun result after committed =>
    absurd committed (reads attempt before result after)

/-- An undisturbed attempt has the outcome of its body. -/
theorem executeWithRetry_one {Result : Type} {attempt : Attempt}
    (undisturbed : attempt.transaction = some .none)
    (body : Attempt → Store → Except DbError (TxEnd Store Result)) (store : Store) :
    executeWithRetry [attempt] (fun attempt => transaction attempt (body attempt)) store =
      TxEnd.settle store (body attempt store) := by
  change transaction attempt (body attempt) store = _
  rw [transaction, undisturbed]
  exact TxEnd.attempt_none attempt.error (body attempt) store

/-- Under a schedule without faults a method has the outcome of one of its attempts. -/
theorem executeWithRetry_settle {Result : Type} {attempts : List Attempt}
    (nonempty : attempts ≠ [])
    (faultFree : ∀ attempt ∈ attempts, attempt.transaction = some .none)
    (body : Attempt → Store → Except DbError (TxEnd Store Result)) (store : Store) :
    ∃ attempt ∈ attempts,
      executeWithRetry attempts (fun attempt => transaction attempt (body attempt)) store =
        TxEnd.settle store (body attempt store) := by
  have settled : ∀ attempt ∈ attempts, transaction attempt (body attempt) store =
      TxEnd.settle store (body attempt store) := by
    intro attempt member
    rw [transaction, faultFree attempt member]
    exact TxEnd.attempt_none attempt.error (body attempt) store
  have stable : ∀ run ∈ attempts.map (fun attempt => transaction attempt (body attempt)),
      ∀ error after, run store = (.error error, after) → after = store := by
    intro run member error after raised
    obtain ⟨attempt, attemptMember, rfl⟩ := List.mem_map.mp member
    rw [settled attempt attemptMember] at raised
    exact TxEnd.settle_stable raised
  have chosen := RetryLoop.retry_eq_attempt
    (⟨"Retry loop exhausted unexpectedly"⟩ : DbError) (by simpa using nonempty) stable
  obtain ⟨run, member, equal⟩ := chosen
  obtain ⟨attempt, attemptMember, rfl⟩ := List.mem_map.mp member
  exact ⟨attempt, attemptMember, by rw [executeWithRetry, equal, settled attempt attemptMember]⟩

section Schedules

variable {attempts : List Attempt} (nonempty : attempts ≠ [])
  (faultFree : ∀ attempt ∈ attempts, attempt.transaction = some .none)

include nonempty faultFree

theorem upsertAgent_spec (agent : AgentInput) (store : Store) :
    UpsertSpec agent.agentId store (upsertAgent attempts agent store) := by
  obtain ⟨attempt, _, equal⟩ := executeWithRetry_settle nonempty faultFree
    (fun attempt store => _) store
  rw [upsertAgent, equal]
  refine ⟨rfl, .single trivial ?_⟩
  exact Store.ledger_upsertAgent _ _ _ fun _ => rfl

theorem updateHeartbeat_spec (heartbeat : AgentHeartbeat) (store : Store) :
    HeartbeatSpec heartbeat store (updateHeartbeat attempts heartbeat store) := by
  obtain ⟨attempt, _, equal⟩ := executeWithRetry_settle nonempty faultFree
    (fun attempt store => _) store
  rw [updateHeartbeat, equal]
  cases found : store.agent heartbeat.agentId with
  | none => simp [TxEnd.settle, HeartbeatSpec, found]
  | some row =>
      refine ⟨by simp [found], .single trivial ?_⟩
      exact Store.ledger_updateAgent found _ _ fun _ => rfl

theorem getTask_spec (taskId : Int) (store : Store) :
    GetTaskSpec taskId store (getTask attempts taskId store) := by
  obtain ⟨attempt, _, equal⟩ := executeWithRetry_settle nonempty faultFree
    (fun attempt store => _) store
  rw [getTask, equal]
  exact ⟨rfl, taskRecord, fun _ => rfl, rfl⟩

theorem getAgent_spec (agentId : String) (store : Store) :
    GetAgentSpec store (getAgent attempts agentId store) := by
  obtain ⟨attempt, _, equal⟩ := executeWithRetry_settle nonempty faultFree
    (fun attempt store => _) store
  rw [getAgent, equal]
  rfl

theorem createTask_spec (task : TaskInput) (store : Store) :
    CreateSpec store (createTask attempts task store) := by
  obtain ⟨attempt, _, equal⟩ := executeWithRetry_settle nonempty faultFree
    (fun attempt => createTaskBody attempt task) store
  rw [createTask, equal]
  exact createTaskBody_spec attempt task store

theorem pollTasksForAgent_spec (agentId : String) (freeSlots : Int) (store : Store) :
    PollSpec agentId freeSlots store (pollTasksForAgent attempts agentId freeSlots store) := by
  obtain ⟨attempt, _, equal⟩ := executeWithRetry_settle nonempty faultFree
    (fun attempt => pollTasksForAgentBody attempt agentId freeSlots) store
  rw [pollTasksForAgent, equal]
  exact pollTasksForAgentBody_spec attempt agentId freeSlots store

theorem updateTaskStatus_spec (timestamptz : Time → String → Option Time) (taskId : Int)
    (update : TaskStatusUpdate) (store : Store) :
    UpdateSpec taskId update store (updateTaskStatus timestamptz attempts taskId update store) := by
  obtain ⟨attempt, _, equal⟩ := executeWithRetry_settle nonempty faultFree
    (fun attempt => updateTaskStatusBody timestamptz attempt taskId update) store
  rw [updateTaskStatus, equal]
  exact updateTaskStatusBody_spec timestamptz attempt taskId update store

/-- An update whose timestamps convert is written. -/
theorem updateTaskStatus_ok {timestamptz : Time → String → Option Time} {taskId : Int}
    {update : TaskStatusUpdate} {store : Store} (found : store.task taskId ≠ none)
    (reads : ∀ text, update.startedAt = some text ∨ update.finishedAt = some text →
      ∀ now, (timestamptz now (textParam text)).isSome) :
    (updateTaskStatus timestamptz attempts taskId update store).1 = .ok true := by
  obtain ⟨attempt, _, equal⟩ := executeWithRetry_settle nonempty faultFree
    (fun attempt => updateTaskStatusBody timestamptz attempt taskId update) store
  rw [updateTaskStatus, equal]
  obtain ⟨row, held⟩ := Option.ne_none_iff_exists'.mp found
  obtain ⟨startedParam, started⟩ := timestamptzParam_ok
    fun text isText => reads text (.inl isText) attempt.now
  obtain ⟨finishedParam, finished⟩ := timestamptzParam_ok
    fun text isText => reads text (.inr isText) attempt.now
  unfold updateTaskStatusBody
  simp only [started, finished, held, bind, Except.bind]
  split <;> rfl

theorem cancelTask_spec (taskId : Int) (store : Store) :
    CancelSpec taskId store (cancelTask attempts taskId store) := by
  obtain ⟨attempt, _, equal⟩ := executeWithRetry_settle nonempty faultFree
    (fun attempt => cancelTaskBody attempt taskId) store
  rw [cancelTask, equal]
  exact cancelTaskBody_spec attempt taskId store

theorem markOfflineAgentsAndRequeue_spec (offlineAfterSec : Int) (store : Store) :
    ∃ attempt ∈ attempts, SweepSpec attempt.now offlineAfterSec store
      (markOfflineAgentsAndRequeue attempts offlineAfterSec store) := by
  obtain ⟨attempt, member, equal⟩ := executeWithRetry_settle nonempty faultFree
    (fun attempt => markOfflineAgentsAndRequeueBody attempt offlineAfterSec) store
  refine ⟨attempt, member, ?_⟩
  rw [markOfflineAgentsAndRequeue, equal]
  exact markOfflineAgentsAndRequeueBody_spec attempt offlineAfterSec store

end Schedules

end PgBroker

end DistributedComputing
