import DistributedComputing.BrokerLoops
import DistributedComputing.MasterRuns

/-!
# The broker call behind a step

A complete request changes the tables through one call of the broker at most, whose
arguments the handler has parsed and, for a status report, checked.
-/

namespace DistributedComputing

open ControlService

/-- The tables after a step, by the call that the handler makes. -/
inductive StepCall (deployment : Deployment) (config : MasterConfig) (store : Store) :
    MasterStep → Store → Prop
  | quiet (step : MasterStep) : StepCall deployment config store step store
  | upsertAgent (schedule : Schedule) (agentId : String) (body : Body) (agent : AgentInput)
      (parsed : parseBody (Api.parseAgentInput agentId) body = .ok agent) :
      StepCall deployment config store (.request schedule (.upsertAgent agentId body))
        (deployment.broker.upsertAgent schedule.first agent store).2
  | agentHeartbeat (schedule : Schedule) (agentId : String) (body : Body)
      (heartbeat : AgentHeartbeat)
      (parsed : parseBody (Api.parseAgentHeartbeat agentId) body = .ok heartbeat) :
      StepCall deployment config store (.request schedule (.agentHeartbeat agentId body))
        (deployment.broker.updateHeartbeat schedule.first heartbeat store).2
  | pollTasks (schedule : Schedule) (agentId : String) (body : Body) (freeSlots : Int)
      (parsed : parseBody parseFreeSlots body = .ok freeSlots) :
      StepCall deployment config store (.request schedule (.pollTasks agentId body))
        (deployment.broker.pollTasksForAgent schedule.first agentId freeSlots store).2
  | createTask (schedule : Schedule) (body : Body) (task : TaskInput)
      (parsed : parseBody Api.parseTaskCreate body = .ok task) :
      StepCall deployment config store (.request schedule (.createTask body))
        (deployment.broker.createTask schedule.first task store).2
  | updateTaskStatus (schedule : Schedule) (taskIdRaw : String) (body : Body) (taskId : Int)
      (update : TaskStatusUpdate) (row : TaskRow)
      (parsedId : Api.parseTaskId taskIdRaw = some taskId)
      (parsed : parseBody Api.parseTaskStatusUpdate body = .ok update)
      (found : store.task taskId = some row)
      (valid : Api.isValidTaskStateTransition row.state update.state = true) :
      StepCall deployment config store (.request schedule (.updateTaskStatus taskIdRaw body))
        (deployment.broker.updateTaskStatus schedule.second taskId update store).2
  | cancelTask (schedule : Schedule) (taskIdRaw : String) (taskId : Int)
      (parsedId : Api.parseTaskId taskIdRaw = some taskId) :
      StepCall deployment config store (.request schedule (.cancelTask taskIdRaw))
        (deployment.broker.cancelTask schedule.first taskId store).2
  | sweep (attempts : List Attempt) :
      StepCall deployment config store (.sweep attempts)
        (deployment.broker.markOfflineAgentsAndRequeue attempts config.offlineAfterSec store).2

namespace ControlService

section Deployments

variable {deployment : Deployment} {attempts : List Attempt} {store : Store}

/-- A task that a read returns, under whatever failures, is the one in the table. -/
theorem task_of_getTask {taskId : Int} {task : TaskRecord} {after : Store}
    (returned : deployment.broker.getTask attempts taskId store = (.ok (some task), after)) :
    after = store ∧ ∃ row, store.task taskId = some row ∧ task = deployment.taskRecord row := by
  have same : after = store := by
    have kept := deployment.getTask_store attempts store taskId
    rwa [returned] at kept
  refine ⟨same, ?_⟩
  rcases (deployment.getTaskLoop taskId).returned returned with
    ⟨attempt, _, before, passed⟩ | ⟨_, isDefault, _⟩
  · obtain ⟨record, unchanged⟩ := Prod.mk.inj passed
    obtain ⟨row, found, rfl⟩ := Option.map_eq_some_iff.mp (Except.ok.inj record)
    exact ⟨row, by rw [← same, ← unchanged]; exact found, rfl⟩
  · cases isDefault

theorem state_taskRecord (deployment : Deployment) (row : TaskRow) :
    (deployment.taskRecord row).state = row.state := by
  cases deployment <;> rfl

/-- What the first half of a status report passes on, it has checked. -/
theorem checkStatusUpdate_ok {taskIdRaw : String} {body : Body} {taskId : Int}
    {update : TaskStatusUpdate} {after : Store}
    (passed : checkStatusUpdate deployment.broker attempts taskIdRaw body store =
      (.ok (taskId, update), after)) :
    after = store ∧ Api.parseTaskId taskIdRaw = some taskId ∧
      parseBody Api.parseTaskStatusUpdate body = .ok update ∧
      ∃ row, store.task taskId = some row ∧
        Api.isValidTaskStateTransition row.state update.state = true := by
  unfold checkStatusUpdate at passed
  cases parsedId : Api.parseTaskId taskIdRaw with
  | none => simp [parsedId] at passed
  | some other =>
      cases parsed : parseBody Api.parseTaskStatusUpdate body with
      | error response => simp [parsedId, parsed] at passed
      | ok report =>
          rcases read : deployment.broker.getTask attempts other store with ⟨_ | _ | task, middle⟩
          · simp [parsedId, parsed, read] at passed
          · simp [parsedId, parsed, read] at passed
          · obtain ⟨same, row, found, isRecord⟩ := task_of_getTask read
            simp only [parsedId, parsed, read] at passed
            split at passed
            · rename_i valid
              simp only [Prod.mk.injEq, Except.ok.injEq] at passed
              obtain ⟨⟨rfl, rfl⟩, rfl⟩ := passed
              rw [isRecord, state_taskRecord] at valid
              exact ⟨same, rfl, rfl, row, found, valid⟩
            · cases passed

theorem checkStatusUpdate_store (deployment : Deployment) (attempts : List Attempt)
    (store : Store) (taskIdRaw : String) (body : Body) :
    (checkStatusUpdate deployment.broker attempts taskIdRaw body store).2 = store := by
  unfold checkStatusUpdate
  cases Api.parseTaskId taskIdRaw with
  | none => rfl
  | some taskId =>
      cases parseBody Api.parseTaskStatusUpdate body with
      | error response => rfl
      | ok update =>
          have same := deployment.getTask_store attempts store taskId
          rcases read : deployment.broker.getTask attempts taskId store with ⟨_ | _ | task, after⟩ <;>
            rw [read] at same
          · simpa only [read] using same
          · simpa only [read] using same
          · simp only [read]
            split <;> exact same

end Deployments

end ControlService

theorem masterStep_call (deployment : Deployment) (config : MasterConfig) (store : Store)
    (step : MasterStep) :
    StepCall deployment config store step (masterStep deployment config store step) := by
  cases step with
  | sweep attempts => exact .sweep attempts
  | request schedule request =>
      cases request with
      | upsertAgent agentId body =>
          simp only [masterStep, handle, handleUpsertAgent]
          split
          · exact .quiet _
          · rename_i agent parsed
            have call : StepCall deployment config store _ _ :=
              .upsertAgent schedule agentId body agent parsed
            rcases ended : deployment.broker.upsertAgent schedule.first agent store with
              ⟨_ | _, after⟩ <;>
            · rw [ended] at call
              exact call
      | agentHeartbeat agentId body =>
          simp only [masterStep, handle, handleAgentHeartbeat]
          split
          · exact .quiet _
          · rename_i heartbeat parsed
            have call : StepCall deployment config store _ _ :=
              .agentHeartbeat schedule agentId body heartbeat parsed
            rcases ended : deployment.broker.updateHeartbeat schedule.first heartbeat store with
              ⟨_ | _ | _, after⟩ <;>
            · rw [ended] at call
              exact call
      | pollTasks agentId body =>
          simp only [masterStep, handle, handlePollTasks]
          split
          · exact .quiet _
          · rename_i freeSlots parsed
            have call : StepCall deployment config store _ _ :=
              .pollTasks schedule agentId body freeSlots parsed
            rcases ended : deployment.broker.pollTasksForAgent schedule.first agentId freeSlots
              store with ⟨_ | _ | _, after⟩ <;>
            · rw [ended] at call
              exact call
      | createTask body =>
          simp only [masterStep, handle, handleCreateTask]
          split
          · exact .quiet _
          · rename_i task parsed
            have call : StepCall deployment config store _ _ :=
              .createTask schedule body task parsed
            rcases ended : deployment.broker.createTask schedule.first task store with
              ⟨_ | taskId, after⟩
            · rw [ended] at call
              exact call
            · rw [ended] at call
              dsimp only
              split <;> exact call
      | getTask taskIdRaw =>
          simp only [masterStep, handle, handleGetTask]
          split
          · exact .quiet _
          · rename_i taskId _
            have same := deployment.getTask_store schedule.first store taskId
            rcases ended : deployment.broker.getTask schedule.first taskId store with
              ⟨_ | _ | _, after⟩ <;>
            · rw [ended] at same
              subst same
              exact .quiet _
      | getAgent agentId =>
          simp only [masterStep, handle, handleGetAgent]
          have same := deployment.getAgent_store schedule.first store agentId
          rcases ended : deployment.broker.getAgent schedule.first agentId store with
            ⟨_ | _ | _, after⟩ <;>
          · rw [ended] at same
            subst same
            exact .quiet _
      | listTasks state agentId limit offset =>
          simp only [masterStep, handle, handleListTasks_store]
          exact .quiet _
      | listAgents status limit offset =>
          simp only [masterStep, handle, handleListAgents_store]
          exact .quiet _
      | updateTaskStatus taskIdRaw body =>
          simp only [masterStep, handle, handleUpdateTaskStatus]
          have same := checkStatusUpdate_store deployment schedule.first store taskIdRaw body
          rcases checked : checkStatusUpdate deployment.broker schedule.first taskIdRaw body store
            with ⟨response | ⟨taskId, update⟩, after⟩
          · rw [checked] at same
            subst same
            exact .quiet _
          · obtain ⟨rfl, parsedId, parsed, row, found, valid⟩ := checkStatusUpdate_ok checked
            have call : StepCall deployment config after _ _ :=
              .updateTaskStatus schedule taskIdRaw body taskId update row parsedId parsed found valid
            dsimp only [writeStatusUpdate]
            rcases ended : deployment.broker.updateTaskStatus schedule.second taskId update after
              with ⟨_ | _ | _, later⟩ <;>
            · rw [ended] at call
              exact call
      | cancelTask taskIdRaw =>
          simp only [masterStep, handle, handleCancelTask]
          split
          · exact .quiet _
          · rename_i taskId parsedId
            have call : StepCall deployment config store _ _ :=
              .cancelTask schedule taskIdRaw taskId parsedId
            rcases ended : deployment.broker.cancelTask schedule.first taskId store with
              ⟨_ | _ | _ | _ | _, after⟩ <;>
            · rw [ended] at call
              exact call

/-- A report that reads its task and passes the check is written. -/
theorem masterStep_updateTaskStatus {deployment : Deployment} {config : MasterConfig}
    {store : Store} {schedule : Schedule} {taskIdRaw : String} {body : Body} {taskId : Int}
    {update : TaskStatusUpdate} {row : TaskRow} (healthy : deployment.Healthy schedule.first)
    (parsedId : Api.parseTaskId taskIdRaw = some taskId)
    (parsed : parseBody Api.parseTaskStatusUpdate body = .ok update)
    (found : store.task taskId = some row)
    (valid : Api.isValidTaskStateTransition row.state update.state = true) :
    masterStep deployment config store (.request schedule (.updateTaskStatus taskIdRaw body)) =
      (deployment.broker.updateTaskStatus schedule.second taskId update store).2 := by
  have checked := checkStatusUpdate_eq healthy store taskIdRaw body
  simp only [parsedId, parsed, Store.ledger_state, found, Option.map_some, valid,
    if_true] at checked
  simp only [masterStep, handle, handleUpdateTaskStatus, checked, writeStatusUpdate]
  rcases deployment.broker.updateTaskStatus schedule.second taskId update store with
    ⟨_ | _ | _, after⟩ <;> rfl

end DistributedComputing
