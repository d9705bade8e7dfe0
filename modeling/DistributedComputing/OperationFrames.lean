import DistributedComputing.BrokerLoops
import DistributedComputing.StateFrames

/-!
# Finished tasks across the broker operations

Every operation of every deployment under every schedule, in terms of the frames.  On
PostgreSQL the passes tell what an operation does, whatever fails; a Mongo deployment
without transactions can stop half-way, so that there the single calls have to tell.
-/

namespace DistributedComputing

open CallProgram MongoCall Store

namespace MongoBroker

/-- The call updates tasks only to claim one for the agent. -/
def ClaimsFor (agentId : String) (call : MongoCall) : Prop :=
  ∀ filter set, call.taskUpdate = some (filter, set) →
    ∃ now taskId, filter = assignFilter taskId ∧ set = assignSet now agentId

/-- The call updates tasks only to return those of one agent to the queue. -/
def Requeues (call : MongoCall) : Prop :=
  ∀ filter set, call.taskUpdate = some (filter, set) →
    ∃ agentId, filter = activeTasksOf agentId ∧ set = requeueSet

/-- The call updates no task. -/
def LeavesTasks (call : MongoCall) : Prop :=
  call.taskUpdate = none

/-- The call updates tasks only to write a report. -/
def ReportsWith (taskId : Int) (update : TaskStatusUpdate) (call : MongoCall) : Prop :=
  ∀ filter set, call.taskUpdate = some (filter, set) →
    filter = { taskId := some taskId } ∧ ∃ attempt current, set = statusSet attempt current update

theorem ReportsWith.of_none {taskId : Int} {update : TaskStatusUpdate} {call : MongoCall}
    (leaves : call.taskUpdate = none) : ReportsWith taskId update call := by
  intro filter set isUpdate
  rw [leaves] at isUpdate
  cases isUpdate

theorem ReportsWith.onlyState {taskId : Int} {update : TaskStatusUpdate} {call : MongoCall}
    (reports : ReportsWith taskId update call) : call.OnlyState taskId update.state := by
  intro filter set isUpdate
  obtain ⟨rfl, attempt, current, rfl⟩ := reports filter set isUpdate
  exact ⟨rfl, rfl, rfl⟩

theorem ClaimsFor.of_none {agentId : String} {call : MongoCall}
    (leaves : call.taskUpdate = none) : ClaimsFor agentId call := by
  intro filter set isUpdate
  rw [leaves] at isUpdate
  cases isUpdate

theorem Requeues.of_none {call : MongoCall} (leaves : call.taskUpdate = none) :
    Requeues call := by
  intro filter set isUpdate
  rw [leaves] at isUpdate
  cases isUpdate

theorem ClaimsFor.onlyUnfinished {agentId : String} {call : MongoCall}
    (claims : ClaimsFor agentId call) : call.OnlyUnfinished := by
  intro filter set isUpdate
  obtain ⟨now, taskId, rfl, _⟩ := claims filter set isUpdate
  exact ⟨[.queued], rfl, by simp [TaskState.terminal]⟩

theorem Requeues.onlyUnfinished {call : MongoCall} (requeues : Requeues call) :
    call.OnlyUnfinished := by
  intro filter set isUpdate
  obtain ⟨agentId, rfl, _⟩ := requeues filter set isUpdate
  exact ⟨[.running, .queued], rfl, by simp [TaskState.terminal]⟩

section Programs

variable (attempt : Attempt) (agentId : String)

theorem claimsFor_assign (now : Time) (taskId : Int) :
    ClaimsFor agentId (tasksUpdateOne (assignFilter taskId) (assignSet now agentId)) := by
  rintro filter set ⟨⟩
  exact ⟨now, taskId, rfl, rfl⟩

theorem assignLoop_issues (now : Time) (candidates : List TaskRow)
    (dispatches : List TaskDispatch) :
    (assignLoop now agentId candidates dispatches).Issues (ClaimsFor agentId) := by
  induction candidates generalizing dispatches with
  | nil => trivial
  | cons candidate candidates ih =>
      refine .perform (claimsFor_assign agentId now candidate.taskId) fun result => ?_
      split
      · exact ih dispatches
      · exact .perform (.of_none rfl) fun _ => ih _

theorem pollTasksForAgentNoTransaction_issues (freeSlots : Int) :
    (pollTasksForAgentNoTransaction attempt agentId freeSlots).Issues (ClaimsFor agentId) := by
  refine .perform (.of_none rfl) fun found => ?_
  cases found with
  | none => trivial
  | some agent =>
      refine .perform (.of_none rfl) fun _ => ?_
      split
      · trivial
      · refine .perform (.of_none rfl) fun candidates => ?_
        exact (assignLoop_issues agentId attempt.now candidates []).bind fun dispatches =>
          .perform (.of_none rfl) fun _ => trivial

theorem requeues_activeTasksOf : Requeues (tasksUpdateMany (activeTasksOf agentId) requeueSet) := by
  rintro filter set ⟨⟩
  exact ⟨agentId, rfl, rfl⟩

theorem requeueLoop_issues (now : Time) (agentIds : List String) :
    (requeueLoop now agentIds).Issues Requeues := by
  induction agentIds with
  | nil => trivial
  | cons agentId agentIds ih =>
      exact .perform (.of_none rfl) fun _ =>
        .perform (.of_none rfl) fun _ =>
          .perform (requeues_activeTasksOf agentId) fun _ => ih

theorem markOfflineAgentsAndRequeueNoTransaction_issues (offlineAfterSec : Int) :
    (markOfflineAgentsAndRequeueNoTransaction attempt offlineAfterSec).Issues Requeues := by
  refine .perform (.of_none rfl) fun candidates => ?_
  dsimp only
  split
  · trivial
  · exact (requeueLoop_issues attempt.later _).bind fun _ => trivial

theorem createTaskNoTransaction_issues (task : TaskInput) :
    (createTaskNoTransaction attempt task).Issues LeavesTasks :=
  .perform rfl fun _ => .perform rfl fun _ => trivial

variable (taskId : Int)

theorem updateTaskStatusNoTransaction_issues (update : TaskStatusUpdate) :
    (updateTaskStatusNoTransaction attempt taskId update).Issues
      (ReportsWith taskId update) := by
  refine .perform (.of_none rfl) fun found => ?_
  cases found with
  | none => trivial
  | some current =>
      refine .perform ?_ fun _ => ?_
      · rintro filter set ⟨⟩
        exact ⟨rfl, attempt, current, rfl⟩
      · split
        · exact .perform (.of_none rfl) fun _ => trivial
        · trivial

theorem cancelTaskNoTransaction_issues :
    (cancelTaskNoTransaction attempt taskId).Issues (OnlyState taskId .canceled) := by
  refine .perform (.of_none rfl) fun found => ?_
  cases found with
  | none => trivial
  | some current =>
      dsimp only
      split
      · trivial
      · refine .perform ?_ fun _ => .perform (.of_none rfl) fun _ => trivial
        rintro filter set ⟨⟩
        exact ⟨rfl, rfl, rfl⟩

end Programs

section Relations

variable {rel : Store → Store → Prop} (reflexive : ∀ store, rel store store)
  (transitive : ∀ first second third, rel first second → rel second third → rel first third)
  {allowed : MongoCall → Prop}
  (effect : ∀ call, allowed call → ∀ before after,
    (∀ taskId row, before.task taskId = some row → call.LeavesOrUpdates taskId row after) →
      rel before after)

include reflexive transitive effect

/-- A transactional method whose session is its plain form with an end. -/
theorem transactional_rel {Result : Type} (result : Result) (attempts : List Attempt)
    {body : Attempt → MongoProgram (SessionEnd Result)}
    {noTransaction : Attempt → MongoProgram Result} {ending : Result → SessionEnd Result}
    (bodyEq : ∀ attempt, body attempt = (noTransaction attempt >>= fun value => .done (ending value)))
    (issues : ∀ attempt, (noTransaction attempt).Issues allowed) (store : Store) :
    rel store (orElse result (executeWithRetry attempts fun attempt =>
      withTransaction attempt (body attempt) (noTransaction attempt)) store).2 := by
  rw [orElse_store]
  refine retry_withTransaction_rel reflexive transitive effect attempts ?_ issues store
  intro attempt
  rw [bodyEq]
  exact (issues attempt).bind fun _ => trivial

theorem plain_rel {Result : Type} (result : Result) (attempts : List Attempt)
    {program : Attempt → MongoProgram Result}
    (issues : ∀ attempt, (program attempt).Issues allowed) (store : Store) :
    rel store (orElse result (executeWithRetry attempts fun attempt =>
      runCalls attempt (program attempt)) store).2 := by
  rw [orElse_store]
  exact retry_runCalls_rel reflexive transitive effect attempts issues store

end Relations

theorem transactional_keepsFinished {Result : Type} (result : Result) (attempts : List Attempt)
    {body : Attempt → MongoProgram (SessionEnd Result)}
    {noTransaction : Attempt → MongoProgram Result} {ending : Result → SessionEnd Result}
    (bodyEq : ∀ attempt, body attempt = (noTransaction attempt >>= fun value => .done (ending value)))
    (issues : ∀ attempt, (noTransaction attempt).Issues OnlyUnfinished) (store : Store) :
    KeepsFinished store (orElse result (executeWithRetry attempts fun attempt =>
      withTransaction attempt (body attempt) (noTransaction attempt)) store).2 :=
  transactional_rel KeepsFinished.refl KeepsFinished.trans
    (fun _ unfinished _ _ effect => unfinished.keepsFinished effect) result attempts bodyEq issues
    store

theorem plain_keepsFinished {Result : Type} (result : Result) (attempts : List Attempt)
    {program : Attempt → MongoProgram Result}
    (issues : ∀ attempt, (program attempt).Issues OnlyUnfinished) (store : Store) :
    KeepsFinished store (orElse result (executeWithRetry attempts fun attempt =>
      runCalls attempt (program attempt)) store).2 :=
  plain_rel KeepsFinished.refl KeepsFinished.trans
    (fun _ unfinished _ _ effect => unfinished.keepsFinished effect) result attempts issues store

theorem updateTaskStatus_writesOnly (attempts : List Attempt) (taskId : Int)
    (update : TaskStatusUpdate) (store : Store) :
    WritesOnly taskId update.state store (updateTaskStatus attempts taskId update store).2 :=
  transactional_rel WritesOnly.refl WritesOnly.trans
    (fun _ reports _ _ effect => reports.onlyState.writesOnly effect) false attempts
    (fun attempt => updateTaskStatusTransaction_eq attempt taskId update)
    (fun attempt => updateTaskStatusNoTransaction_issues attempt taskId update) store

section Cancel

variable {attempt : Attempt} {taskId : Int} {store : Store} {row : TaskRow}
  (found : store.task taskId = some row) (isOver : row.state.terminal = true)

include found

theorem tasksFindOne_exec : MongoCall.exec attempt.rank (.tasksFindOne taskId) store =
    (.ok (some row), store) := by
  simp [MongoCall.exec, found]

include isOver

/-- A cancel reads the state before it writes, so that it leaves a finished task alone. -/
theorem cancelTaskNoTransaction_run_quiet :
    (cancelTaskNoTransaction attempt taskId).run (MongoCall.exec attempt.rank) store =
      (.ok .invalidState, store) := by
  refine (run_perform_of_ok _ (tasksFindOne_exec found) _).trans ?_
  simp [isOver]

theorem runCalls_cancelTaskNoTransaction_quiet :
    (runCalls attempt (cancelTaskNoTransaction attempt taskId) store).2 = store := by
  unfold runCalls
  rcases attempt.raisingCall with _ | ⟨_ | index, progress⟩
  · rw [runUntil_none, cancelTaskNoTransaction_run_quiet found isOver]
  · refine (congrArg Prod.snd (runUntil_zero ..)).trans ?_
    simp [interrupted, MongoCall.exec]
  · refine (congrArg Prod.snd (runUntil_perform_of_ok _ _ _ _ _
      (tasksFindOne_exec found) _)).trans ?_
    simp [isOver]

theorem withTransaction_cancelTask_quiet :
    (withTransaction attempt (cancelTaskTransaction attempt taskId)
      (cancelTaskNoTransaction attempt taskId) store).2 = store := by
  unfold withTransaction
  cases attempt.transaction with
  | none => exact runCalls_cancelTaskNoTransaction_quiet found isOver
  | some fault =>
      refine TxEnd.attempt_rel (fun before after => after = before) rfl fault _ ?_
      intro result after committed
      rw [cancelTaskTransaction_eq, sessionBody_bind,
        cancelTaskNoTransaction_run_quiet found isOver] at committed
      cases committed

end Cancel

theorem cancelTask_keepsFinished (attempts : List Attempt) (taskId : Int) (store : Store) :
    KeepsFinished store (cancelTask attempts taskId store).2 := by
  rw [cancelTask, orElse_store]
  refine RetryLoop.retry_rel KeepsFinished.refl KeepsFinished.trans _ ?_ store
  intro action member before
  obtain ⟨attempt, _, rfl⟩ := List.mem_map.mp member
  let others : Store → Store → Prop := fun before after =>
    ∀ other row, before.task other = some row → other ≠ taskId → after.task other = some row
  have untouched : others before (withTransaction attempt (cancelTaskTransaction attempt taskId)
      (cancelTaskNoTransaction attempt taskId) before).2 := by
    have effects : ∀ call, OnlyState taskId .canceled call → ∀ before after,
        (∀ taskId row, before.task taskId = some row → call.LeavesOrUpdates taskId row after) →
          others before after :=
      fun call only _ _ effect other row found different => only.task_other effect found different
    refine withTransaction_rel (fun _ _ _ found _ => found)
      (fun _ _ _ start rest other row found different =>
        rest other row (start other row found different) different)
      effects attempt ?_ (cancelTaskNoTransaction_issues attempt taskId) before
    rw [cancelTaskTransaction_eq]
    exact (cancelTaskNoTransaction_issues attempt taskId).bind fun _ => trivial
  intro other row found isOver
  by_cases isTask : other = taskId
  · subst isTask
    rw [withTransaction_cancelTask_quiet found isOver]
    exact found
  · exact untouched other row found isTask

end MongoBroker

namespace PgBroker

/-- What every settled body respects, its retries respect under any faults. -/
theorem retry_transaction_rel {rel : Store → Store → Prop} (reflexive : ∀ store, rel store store)
    (transitive : ∀ first second third, rel first second → rel second third → rel first third)
    {Result : Type} (attempts : List Attempt)
    {body : Attempt → Store → Except DbError (TxEnd Store Result)}
    (settled : ∀ attempt store, rel store (TxEnd.settle store (body attempt store)).2)
    (store : Store) :
    rel store (executeWithRetry attempts
      (fun attempt => transaction attempt (body attempt)) store).2 := by
  refine RetryLoop.retry_rel reflexive transitive _ ?_ store
  intro action member before
  obtain ⟨attempt, _, rfl⟩ := List.mem_map.mp member
  refine TxEnd.attempt_rel rel (reflexive before) _ _ ?_
  intro result after committed
  have kept := settled attempt before
  rw [committed] at kept
  exact kept

theorem updateTaskStatus_writesOnly (attempts : List Attempt) (store : Store)
    (timestamptz : Time → String → Option Time) (taskId : Int) (update : TaskStatusUpdate) :
    WritesOnly taskId update.state store
      (updateTaskStatus timestamptz attempts taskId update store).2 :=
  retry_transaction_rel WritesOnly.refl WritesOnly.trans attempts
    (fun attempt before =>
      (updateTaskStatusBody_spec timestamptz attempt taskId update before).writesOnly) store

end PgBroker

/-! ## Passes -/

namespace Deployment

section Passes

variable (deployment : Deployment) (attempt : Attempt) (store : Store)

theorem upsertAgentPass_keepsFinished (agent : AgentInput) :
    KeepsFinished store (deployment.upsertAgentPass agent attempt store).2 :=
  .of_tasks_eq (Store.tasks_upsertAgent ..)

theorem updateHeartbeatPass_keepsFinished (heartbeat : AgentHeartbeat) :
    KeepsFinished store (updateHeartbeatPass heartbeat attempt store).2 := by
  unfold updateHeartbeatPass
  cases store.agent heartbeat.agentId with
  | none => exact KeepsFinished.refl store
  | some row => exact .of_tasks_eq rfl

theorem createTaskPass_keepsFinished (task : TaskInput) :
    KeepsFinished store (deployment.createTaskPass task attempt store).2 := by
  rcases deployment.createTaskPass_cases task attempt store with
    ⟨_, failed⟩ | ⟨taskId, bounds, fresh, inRange, _, created⟩
  · rw [failed]
    exact KeepsFinished.refl store
  · rw [created]
    intro other row found _
    rw [Store.task_insertTask, if_neg]
    · exact found
    · rintro rfl
      rw [Store.task_advanceTaskSeq, found] at fresh
      cases fresh

theorem pollTasksForAgentPass_keepsFinished (agentId : String) (freeSlots : Int) :
    KeepsFinished store (deployment.pollTasksForAgentPass agentId freeSlots attempt store).2 := by
  intro taskId row found isOver
  unfold pollTasksForAgentPass
  cases store.agent agentId with
  | none => exact found
  | some agent =>
      dsimp only
      split
      · exact found
      · split
        · exact found
        · rename_i rows selected
          rw [Store.task_updateAgent, task_foldl_assign_of_not_mem]
          · exact found
          · intro chosen
            obtain ⟨candidate, member, isTask⟩ := List.mem_map.mp chosen
            obtain ⟨inTable, queued, _⟩ :=
              deployment.mem_of_fitting selected (mem_of_mem_oldest member)
            have held := KeyedTable.lookup_of_mem inTable
            rw [isTask] at held
            have isRow : candidate = row := Option.some.inj (held.symm.trans found)
            rw [← isRow, queued] at isOver
            cases isOver

theorem cancelTaskPass_keepsFinished (taskId : Int) :
    KeepsFinished store (cancelTaskPass taskId attempt store).2 := by
  unfold cancelTaskPass
  cases held : store.task taskId with
  | none => exact KeepsFinished.refl store
  | some current =>
      dsimp only
      split
      · exact KeepsFinished.refl store
      · rename_i unfinished
        intro other row found isOver
        have different : other ≠ taskId := by
          rintro rfl
          rw [held] at found
          cases found
          exact unfinished isOver
        simpa [closeTask, different] using found

theorem takeOffline_keepsFinished (now : Time) (agentId : String) :
    KeepsFinished store (deployment.takeOffline now store agentId) := by
  intro taskId row found isOver
  have inactive : (decide (row.assignedAgent = some agentId) &&
      (decide (row.state = .running) || decide (row.state = .queued))) = false := by
    cases state : row.state <;> simp_all [TaskState.terminal]
  rw [takeOffline, Store.task_updateTasks, Store.task_updateAssignments, Store.task_updateAgent,
    found, Option.map_some, inactive]
  rfl

theorem markOfflineAgentsAndRequeuePass_keepsFinished (offlineAfterSec : Int) :
    KeepsFinished store
      (deployment.markOfflineAgentsAndRequeuePass offlineAfterSec attempt store).2 := by
  unfold markOfflineAgentsAndRequeuePass
  generalize store.staleAgents attempt.now offlineAfterSec = agentIds
  dsimp only
  induction agentIds generalizing store with
  | nil => exact KeepsFinished.refl store
  | cons agentId agentIds ih =>
      exact (deployment.takeOffline_keepsFinished store _ agentId).trans _ _ _ (ih _)

end Passes

/-- What its passes respect, a method on PostgreSQL respects under every schedule. -/
theorem pg_rel {rel : Store → Store → Prop} (reflexive : ∀ store, rel store store)
    (transitive : ∀ first second third, rel first second → rel second third → rel first third)
    {timestamptz : Time → String → Option Time} {Result : Type}
    {method : List Attempt → DbAction Result} {fallback : Result}
    {pass : Attempt → DbAction Result} (loop : (pgsql timestamptz).LoopOf method fallback pass)
    (respected : ∀ attempt store, rel store (pass attempt store).2)
    (attempts : List Attempt) (store : Store) : rel store (method attempts store).2 := by
  let follows : Store → Prop := fun after => rel store after
  have after : follows (method attempts store).2 :=
    loop.invariant (fun _ _ => trivial)
      (fun attempt _ middle start => transitive _ _ _ start (respected attempt middle))
      (reflexive store)
  exact after

theorem pg_keepsFinished {timestamptz : Time → String → Option Time} {Result : Type}
    {method : List Attempt → DbAction Result} {fallback : Result}
    {pass : Attempt → DbAction Result} (loop : (pgsql timestamptz).LoopOf method fallback pass)
    (kept : ∀ attempt store, KeepsFinished store (pass attempt store).2)
    (attempts : List Attempt) (store : Store) :
    KeepsFinished store (method attempts store).2 :=
  pg_rel KeepsFinished.refl KeepsFinished.trans loop kept attempts store

/-! ## Every deployment -/

variable (deployment : Deployment) (attempts : List Attempt) (store : Store)

theorem upsertAgent_keepsFinished (agent : AgentInput) :
    KeepsFinished store (deployment.broker.upsertAgent attempts agent store).2 := by
  have onMongo : KeepsFinished store (MongoBroker.upsertAgent attempts agent store).2 := by
    refine MongoBroker.plain_keepsFinished false attempts ?_ store
    exact fun _ => .perform (.of_none rfl) fun _ => trivial
  cases deployment with
  | pgsql timestamptz =>
      exact pg_keepsFinished (upsertAgentLoop (pgsql timestamptz) agent)
        (fun attempt before => upsertAgentPass_keepsFinished _ attempt before agent) attempts store
  | mongo => exact onMongo
  | mongoStandalone => exact onMongo

theorem updateHeartbeat_keepsFinished (heartbeat : AgentHeartbeat) :
    KeepsFinished store (deployment.broker.updateHeartbeat attempts heartbeat store).2 := by
  have onMongo : KeepsFinished store (MongoBroker.updateHeartbeat attempts heartbeat store).2 := by
    refine MongoBroker.plain_keepsFinished false attempts ?_ store
    exact fun _ => .perform (.of_none rfl) fun _ => trivial
  cases deployment with
  | pgsql timestamptz =>
      exact pg_keepsFinished (updateHeartbeatLoop (pgsql timestamptz) heartbeat)
        (fun attempt before => updateHeartbeatPass_keepsFinished attempt before heartbeat)
        attempts store
  | mongo => exact onMongo
  | mongoStandalone => exact onMongo

theorem createTask_keepsFinished (task : TaskInput) :
    KeepsFinished store (deployment.broker.createTask attempts task store).2 := by
  have onMongo : KeepsFinished store (MongoBroker.createTask attempts task store).2 :=
    MongoBroker.transactional_keepsFinished 0 attempts
      (fun attempt => MongoBroker.createTaskTransaction_eq attempt task)
      (fun attempt => (MongoBroker.createTaskNoTransaction_issues attempt task).mono
        fun _ leaves => .of_none leaves) store
  cases deployment with
  | pgsql timestamptz =>
      exact pg_keepsFinished (createTaskLoop (pgsql timestamptz) task)
        (fun attempt before => createTaskPass_keepsFinished _ attempt before task) attempts store
  | mongo => exact onMongo
  | mongoStandalone => exact onMongo

theorem pollTasksForAgent_keepsFinished (agentId : String) (freeSlots : Int) :
    KeepsFinished store
      (deployment.broker.pollTasksForAgent attempts agentId freeSlots store).2 := by
  have onMongo : KeepsFinished store
      (MongoBroker.pollTasksForAgent attempts agentId freeSlots store).2 :=
    MongoBroker.transactional_keepsFinished _ attempts
      (fun attempt => MongoBroker.pollTasksForAgentTransaction_eq attempt agentId freeSlots)
      (fun attempt =>
        (MongoBroker.pollTasksForAgentNoTransaction_issues attempt agentId freeSlots).mono
          fun _ claims => claims.onlyUnfinished) store
  cases deployment with
  | pgsql timestamptz =>
      exact pg_keepsFinished (pollTasksForAgentLoop (pgsql timestamptz) agentId freeSlots)
        (fun attempt before =>
          pollTasksForAgentPass_keepsFinished _ attempt before agentId freeSlots) attempts store
  | mongo => exact onMongo
  | mongoStandalone => exact onMongo

theorem updateTaskStatus_writesOnly (taskId : Int) (update : TaskStatusUpdate) :
    WritesOnly taskId update.state store
      (deployment.broker.updateTaskStatus attempts taskId update store).2 := by
  cases deployment with
  | pgsql timestamptz =>
      exact PgBroker.updateTaskStatus_writesOnly attempts store timestamptz taskId update
  | mongo => exact MongoBroker.updateTaskStatus_writesOnly attempts taskId update store
  | mongoStandalone => exact MongoBroker.updateTaskStatus_writesOnly attempts taskId update store

theorem cancelTask_keepsFinished (taskId : Int) :
    KeepsFinished store (deployment.broker.cancelTask attempts taskId store).2 := by
  cases deployment with
  | pgsql timestamptz =>
      exact pg_keepsFinished (cancelTaskLoop (pgsql timestamptz) taskId)
        (fun attempt before => cancelTaskPass_keepsFinished attempt before taskId) attempts store
  | mongo => exact MongoBroker.cancelTask_keepsFinished attempts taskId store
  | mongoStandalone => exact MongoBroker.cancelTask_keepsFinished attempts taskId store

theorem markOfflineAgentsAndRequeue_keepsFinished (offlineAfterSec : Int) :
    KeepsFinished store
      (deployment.broker.markOfflineAgentsAndRequeue attempts offlineAfterSec store).2 := by
  have onMongo : KeepsFinished store
      (MongoBroker.markOfflineAgentsAndRequeue attempts offlineAfterSec store).2 :=
    MongoBroker.transactional_keepsFinished _ attempts
      (fun attempt => MongoBroker.markOfflineAgentsAndRequeueTransaction_eq attempt offlineAfterSec)
      (fun attempt =>
        (MongoBroker.markOfflineAgentsAndRequeueNoTransaction_issues attempt offlineAfterSec).mono
          fun _ requeues => requeues.onlyUnfinished) store
  cases deployment with
  | pgsql timestamptz =>
      exact pg_keepsFinished
        (markOfflineAgentsAndRequeueLoop (pgsql timestamptz) offlineAfterSec)
        (fun attempt before =>
          markOfflineAgentsAndRequeuePass_keepsFinished _ attempt before offlineAfterSec) attempts
        store
  | mongo => exact onMongo
  | mongoStandalone => exact onMongo

end Deployment

end DistributedComputing
