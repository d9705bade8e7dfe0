import DistributedComputing.AssignmentConsistency
import DistributedComputing.PollClaims
import DistributedComputing.WorkerFleet

/-!
# Requests of workers when nothing fails

Requests other than reports and cancels spare every task that some agent has, and a
report that passes the check and carries readable timestamps is accepted.
-/

namespace DistributedComputing

open TransitionRuns ControlService

namespace Ledger

variable {Task Agent : Type}

/-- Except for the touched ones, the tasks that the agent has are as before. -/
def Spares (agent : Agent) (touched : List Task) (before after : Ledger Task Agent) : Prop :=
  ∀ task, task ∉ touched → before.assignee task = some agent →
    after.state task = before.state task ∧ after.assignee task = some agent ∧
      after.exitCode task = before.exitCode task

theorem Spares.refl (agent : Agent) (touched : List Task) (ledger : Ledger Task Agent) :
    Spares agent touched ledger ledger := fun _ _ assigned =>
  ⟨rfl, assigned, rfl⟩

theorem Spares.trans {agent : Agent} {touched : List Task}
    {first second third : Ledger Task Agent} (start : Spares agent touched first second)
    (rest : Spares agent touched second third) : Spares agent touched first third := by
  intro task untouched assigned
  obtain ⟨stateEq, stillAssigned, exitCodeEq⟩ := start task untouched assigned
  obtain ⟨stateEqToo, assignedToo, exitCodeEqToo⟩ := rest task untouched stillAssigned
  exact ⟨stateEqToo.trans stateEq, assignedToo, exitCodeEqToo.trans exitCodeEq⟩

/-- The event comes from no report, cancel or sweep. -/
def Gentle : LedgerEvent Task Agent → Prop
  | .setStatus _ _ => True
  | .create _ => True
  | .claim _ _ => True
  | _ => False

variable [DecidableEq Task] [DecidableEq Agent]

theorem spares_gentle {agent : Agent} {ledger : Ledger Task Agent}
    {event : LedgerEvent Task Agent} (consistent : ledger.Consistent)
    (enabled : ledger.Enabled event) (gentle : Gentle event) :
    Spares agent [] ledger (ledger.step event) := by
  intro task _ assigned
  cases event with
  | setStatus other status => exact ⟨rfl, assigned, rfl⟩
  | create other =>
      have different : task ≠ other := by
        rintro rfl
        rw [consistent.unassigned task (.inl enabled)] at assigned
        cases assigned
      simpa [step, different] using assigned
  | claim other claimed =>
      have different : task ≠ claimed := by
        rintro rfl
        rw [enabled.2.1] at assigned
        cases assigned
      simpa [step, different] using assigned
  | report other state exitCode => cases gentle
  | cancel other => cases gentle
  | expire other => cases gentle

theorem spares_run {agent : Agent} {ledger : Ledger Task Agent}
    {events : List (LedgerEvent Task Agent)} (consistent : ledger.Consistent)
    (enabled : Along Ledger.step Ledger.Enabled ledger events)
    (gentle : ∀ event ∈ events, Gentle event) :
    Spares agent [] ledger (run Ledger.step ledger events) := by
  induction events generalizing ledger with
  | nil => exact .refl agent [] ledger
  | cons event events ih =>
      have first : Spares agent [] ledger (ledger.step event) :=
        spares_gentle consistent enabled.1 (gentle event (by simp))
      exact first.trans (ih (step_consistent consistent enabled.1) enabled.2
        fun other member => gentle other (by simp [member]))

/-- A report touches its task only. -/
theorem spares_report (agent : Agent) (ledger : Ledger Task Agent) (task : Task)
    (state : TaskState) (exitCode : Option Int) :
    Spares agent [task] ledger (ledger.step (.report task state exitCode)) := by
  intro other untouched assigned
  have different : other ≠ task := by simpa using untouched
  exact ⟨by simp [step, different], assigned, by simp [step, different]⟩

theorem spares_report_of_other {agent holder : Agent} {ledger : Ledger Task Agent} {task : Task}
    (held : ledger.assignee task = some holder) (different : agent ≠ holder) (state : TaskState)
    (exitCode : Option Int) :
    Spares agent [] ledger (ledger.step (.report task state exitCode)) := by
  intro other _ assigned
  refine spares_report agent ledger task state exitCode other ?_ assigned
  rw [List.mem_singleton]
  rintro rfl
  rw [held] at assigned
  exact different (Option.some.inj assigned).symm

/-- A task cannot be claimed twice in a row. -/
theorem nodup_of_claims {agent : Agent} {tasks : List Task} {ledger : Ledger Task Agent}
    (possible : Along Ledger.step Ledger.Possible ledger (tasks.map (.claim agent))) :
    tasks.Nodup := by
  induction tasks generalizing ledger with
  | nil => exact List.nodup_nil
  | cons task tasks ih =>
      refine List.nodup_cons.mpr ⟨?_, ih possible.2⟩
      intro again
      have queued := ((claimed_claims possible.2).moved task again).1
      simp [step] at queued

end Ledger

theorem Explains.nodup_dispatches {agentId : String} {freeSlots : Int}
    {dispatches : List TaskDispatch} {before after : Store}
    (explains : Explains (pollEvents agentId freeSlots dispatches) before after)
    (noSlots : freeSlots ≤ 0 → dispatches = []) :
    (dispatches.map TaskDispatch.taskId).Nodup := by
  have possible := explains.possible
  unfold pollEvents at possible
  split at possible
  · rename_i none
    simp [noSlots none]
  · have asIds : (dispatches.map fun dispatch => (.claim agentId dispatch.taskId : BrokerEvent)) =
        (dispatches.map TaskDispatch.taskId).map (.claim agentId) := by
      simp [Function.comp_def]
    rw [asIds] at possible
    exact Ledger.nodup_of_claims possible.2

/-- The request is neither a report nor a cancel. -/
def Request.Gentle : Request → Prop
  | .updateTaskStatus _ _ => False
  | .cancelTask _ => False
  | _ => True

theorem StepEvents.gentle {store : Store} {schedule : Schedule} {request : Request}
    {events : List BrokerEvent} (shape : StepEvents store (.request schedule request) events)
    (gentle : request.Gentle) : ∀ event ∈ events, Ledger.Gentle event := by
  cases request with
  | upsertAgent agentId body =>
      obtain rfl := shape
      simp [Ledger.Gentle]
  | agentHeartbeat agentId body =>
      obtain ⟨heartbeat, _, _, rfl⟩ := shape
      simp [Ledger.Gentle]
  | pollTasks agentId body =>
      obtain ⟨freeSlots, dispatches, _, rfl⟩ := shape
      unfold pollEvents
      split
      · simp
      · simp [Ledger.Gentle]
  | createTask body =>
      obtain ⟨taskId, rfl⟩ := shape
      simp [Ledger.Gentle]
  | getTask taskIdRaw => cases shape
  | getAgent agentId => cases shape
  | listTasks state agentId limit offset => cases shape
  | listAgents status limit offset => cases shape
  | updateTaskStatus taskIdRaw body => cases gentle
  | cancelTask taskIdRaw => cases gentle

section Handlers

variable {deployment : Deployment} (config : MasterConfig)

theorem masterStep_spares {store : Store} {schedule : Schedule} {request : Request}
    (healthy : (MasterStep.request schedule request).Healthy deployment)
    (gentle : request.Gentle) (consistent : store.ledger.Consistent) (agentId : String) :
    Ledger.Spares agentId [] store.ledger
      (masterStep deployment config store (.request schedule request)).ledger := by
  obtain ⟨events, shape, enabled, explains⟩ := masterStep_explained config store healthy
  rw [explains.ledger_eq]
  refine Ledger.spares_run consistent enabled ?_
  rcases shape with rfl | shape
  · simp
  · exact shape.gentle gentle

/-- A sweep that finds no stale agent. -/
theorem maintenance_quiet {attempts : List Attempt} (healthy : deployment.Healthy attempts)
    {store : Store}
    (fresh : ∀ attempt ∈ attempts, store.staleAgents attempt.now config.offlineAfterSec = []) :
    (masterStep deployment config store (.sweep attempts)).ledger = store.ledger := by
  obtain ⟨attempt, member, explains⟩ :=
    maintenance_events healthy store config.offlineAfterSec
  have same := explains.ledger_eq
  rw [fresh attempt member] at same
  exact same

variable {attempts : List Attempt} (healthy : deployment.Healthy attempts)

include healthy

/-- The worker's own registration is in order. -/
theorem handleUpsertAgent_registers (heartbeatIntervalSec : Int)
    (registration : AgentClient.AgentRegistration) (store : Store) :
    ∃ body, AgentClient.registerAgent registration =
        .upsertAgent registration.agentId body ∧
      AgentClient.isSuccess (some (handleUpsertAgent deployment.broker heartbeatIntervalSec attempts
        registration.agentId body store).1) = true := by
  refine ⟨_, rfl, ?_⟩
  obtain ⟨agent, parsed⟩ : ∃ agent, parseBody (Api.parseAgentInput registration.agentId)
      (.json (.object [("os", .string registration.os), ("version", .string registration.version),
        ("resources", .object [("cpu_cores", .integer registration.cpuCores),
          ("ram_mb", .integer registration.ramMb), ("slots", .integer registration.slots)])])) =
        .ok agent := ⟨_, rfl⟩
  obtain ⟨returned, _⟩ := Deployment.upsertAgent_spec healthy store agent
  unfold handleUpsertAgent
  rw [parsed]
  rcases ended : deployment.broker.upsertAgent attempts agent store with ⟨_ | _, after⟩
  · simp [ended] at returned
  · simp only [ended]
    rfl

/-- A worker reads the state that the task has. -/
theorem receivedState_handleGetTask {taskIdRaw : String} {taskId : Int}
    (parsed : Api.parseTaskId taskIdRaw = some taskId) {store : Store} {state : TaskState}
    (held : store.ledger.state taskId = some state) :
    AgentClient.receivedState (some (handleGetTask deployment.broker attempts taskIdRaw store).1) =
      some (taskStateToApi state) := by
  obtain ⟨same, record, stateEq, returned⟩ := Deployment.getTask_spec healthy store taskId
  obtain ⟨row, found, rowState⟩ := Store.exists_task_of_state held
  rw [found, Option.map_some] at returned
  unfold handleGetTask
  rw [parsed]
  rcases ended : deployment.broker.getTask attempts taskId store with ⟨result, after⟩
  rw [ended] at returned
  simp only [ended, show result = _ from returned]
  rw [AgentClient.receivedState_getTask, stateEq, rowState]

end Handlers

/-! ## Reports -/

/-- The database reads what it gets of the text as a timestamp, whenever it is asked to. -/
def Deployment.ReadsText : Deployment → String → Prop
  | .pgsql timestamptz, text => ∀ now, (timestamptz now (PgBroker.textParam text)).isSome
  | .mongo, _ => True
  | .mongoStandalone, _ => True

theorem Deployment.updateTaskStatus_ok {deployment : Deployment} {attempts : List Attempt}
    (healthy : deployment.Healthy attempts) {store : Store} {taskId : Int}
    {update : TaskStatusUpdate} (found : store.task taskId ≠ none)
    (reads : ∀ text, update.startedAt = some text ∨ update.finishedAt = some text →
      deployment.ReadsText text) :
    (deployment.broker.updateTaskStatus attempts taskId update store).1 = .ok true := by
  have written : deployment.broker = mongoBroker →
      (∀ attempt ∈ attempts, MongoBroker.FaultFree attempt) →
        (deployment.broker.updateTaskStatus attempts taskId update store).1 = .ok true := by
    intro isMongo faultFree
    obtain ⟨spec, updated, returned⟩ :=
      MongoBroker.updateTaskStatus_spec healthy.nonempty faultFree taskId update store
    rw [isMongo]
    cases updated with
    | true => exact returned
    | false =>
        rcases ended : MongoBroker.updateTaskStatus attempts taskId update store with
          ⟨result, after⟩
        rw [ended] at spec returned
        rw [show result = .ok false from returned] at spec
        exact absurd spec.1 found
  cases deployment with
  | pgsql timestamptz =>
      exact PgBroker.updateTaskStatus_ok healthy.nonempty healthy.attempt found reads
  | mongo => exact written rfl healthy.faultFree_mongo
  | mongoStandalone => exact written rfl healthy.faultFree_mongoStandalone

/-- A report that passes the check and can be written. -/
theorem handleUpdateTaskStatus_accepted {deployment : Deployment}
    {readAttempts writeAttempts : List Attempt} (readHealthy : deployment.Healthy readAttempts)
    (writeHealthy : deployment.Healthy writeAttempts) {taskIdRaw : String} {taskId : Int}
    (parsedId : Api.parseTaskId taskIdRaw = some taskId) {body : Body} {update : TaskStatusUpdate}
    (parsed : parseBody Api.parseTaskStatusUpdate body = .ok update) {store : Store}
    {before : TaskState} (held : store.ledger.state taskId = some before)
    (valid : Api.isValidTaskStateTransition before update.state = true)
    (reads : ∀ text, update.startedAt = some text ∨ update.finishedAt = some text →
      deployment.ReadsText text) :
    (handleUpdateTaskStatus deployment.broker readAttempts writeAttempts taskIdRaw body
        store).1 = okResponse ∧
      Explains [.report taskId update.state update.exitCode] store
        (handleUpdateTaskStatus deployment.broker readAttempts writeAttempts taskIdRaw body
          store).2 := by
  unfold handleUpdateTaskStatus
  rw [checkStatusUpdate_eq readHealthy]
  simp only [parsedId, parsed, held, if_pos valid]
  rcases writeStatusUpdate_events writeHealthy store taskId update with ⟨_, refused⟩ | accepted
  · obtain ⟨row, found, _⟩ := Store.exists_task_of_state held
    have present : store.task taskId ≠ none := by simp [found]
    have returned := Deployment.updateTaskStatus_ok writeHealthy present reads
    unfold writeStatusUpdate at refused
    rcases ended : deployment.broker.updateTaskStatus writeAttempts taskId update store with
      ⟨result, after⟩
    rw [ended] at returned
    rw [ended, show result = .ok true from returned] at refused
    exact absurd (by simp [Response.Successful, okResponse]) refused
  · exact accepted

end DistributedComputing
