import DistributedComputing.BackendMirror
import DistributedComputing.StepCalls

/-!
# Tasks that came in through CreateTask

A broker writes the submission of a task and, on MongoDB, the copies of its constraints
once.  No operation changes them later, so that in every state that requests reach the
tables hold nothing but rows of `CreateTask`.
-/

namespace DistributedComputing

open TransitionRuns Store

/-- What is written when the task is created and stays as it is. -/
def TaskRow.request (row : TaskRow) :
    (String × Json × Json × Option Int) × Json × Option String × Option Int × Option Int :=
  ((row.command, row.args, row.env, row.timeoutSec), row.constraints, row.constraintsOs,
    row.constraintsCpuCores, row.constraintsRamMb)

namespace Deployment

/-- The broker created the task of the row from this input. -/
def CreatedFrom (deployment : Deployment) (task : TaskInput) (row : TaskRow) : Prop :=
  ∃ now taskId, row.request = (deployment.newTask now taskId task).request

/-- Every task was created from an input with the given property. -/
def CreatedWith (deployment : Deployment) (accepted : TaskInput → Prop) (store : Store) : Prop :=
  ∀ row ∈ store.tasks.rows, ∃ task, accepted task ∧ deployment.CreatedFrom task row

section Rows

variable {deployment : Deployment} {task : TaskInput} {row : TaskRow}
  (created : deployment.CreatedFrom task row)

include created

theorem CreatedFrom.constraints_eq : row.constraints = normalizeConstraints task.constraints := by
  obtain ⟨now, taskId, same⟩ := created
  have sameConstraints : row.constraints = (deployment.newTask now taskId task).constraints :=
    congrArg (fun request => request.2.1) same
  rw [sameConstraints]
  cases deployment <;> rfl

/-- On MongoDB the row carries copies of its constraints, the integers as `int`. -/
theorem CreatedFrom.copies_eq (onMongo : deployment.OnMongo) :
    row.constraintsOs = row.constraints.stringMember "os" ∧
      row.constraintsCpuCores = (row.constraints.integerMember "cpu_cores").map toInt32 ∧
      row.constraintsRamMb = (row.constraints.integerMember "ram_mb").map toInt32 := by
  rw [created.constraints_eq]
  obtain ⟨now, taskId, same⟩ := created
  have newTaskEq : deployment.newTask = MongoBroker.newTask := by
    rcases onMongo.eq_or with rfl | rfl <;> rfl
  rw [newTaskEq] at same
  simp only [TaskRow.request, Prod.mk.injEq] at same
  exact same.2.2

end Rows

namespace CreatedWith

theorem empty (deployment : Deployment) (accepted : TaskInput → Prop) :
    deployment.CreatedWith accepted Store.empty := by
  intro row member
  cases member

variable {deployment : Deployment} {accepted : TaskInput → Prop} {store : Store}
  (created : deployment.CreatedWith accepted store)

include created

theorem of_tasks_eq {after : Store} (same : after.tasks = store.tasks) :
    deployment.CreatedWith accepted after := by
  intro row member
  rw [same] at member
  exact created row member

theorem updateTasks (test : TaskRow → Bool) {change : TaskRow → TaskRow}
    (keeps : ∀ row, (change row).taskId = row.taskId)
    (same : ∀ row, (change row).request = row.request) :
    deployment.CreatedWith accepted (store.updateTasks test change keeps) := by
  intro row member
  obtain ⟨old, oldMember, rfl⟩ := List.mem_map.mp member
  obtain ⟨task, isAccepted, now, taskId, fromTask⟩ := created old oldMember
  refine ⟨task, isAccepted, now, taskId, ?_⟩
  split
  · rw [same]
    exact fromTask
  · exact fromTask

theorem insertTask {row : TaskRow} (fresh : store.task row.taskId = none)
    (bounds : 0 < row.taskId ∧ row.taskId ≤ store.taskSeq) {task : TaskInput}
    (isAccepted : accepted task) (fromTask : deployment.CreatedFrom task row) :
    deployment.CreatedWith accepted (store.insertTask row fresh bounds) := by
  intro other member
  rcases List.mem_append.mp member with old | new
  · exact created other old
  · rw [List.mem_singleton.mp new]
    exact ⟨task, isAccepted, fromTask⟩

theorem foldl_assign (now : Time) (agentId : String) (taskIds : List Int) :
    deployment.CreatedWith accepted (taskIds.foldl (assign now agentId) store) := by
  induction taskIds generalizing store with
  | nil => exact created
  | cons taskId taskIds ih =>
      apply ih
      exact created.updateTasks _ (taskId_assignedRow now agentId) fun _ => rfl

theorem foldl_takeOffline (now : Time) (agentIds : List String) :
    deployment.CreatedWith accepted (agentIds.foldl (deployment.takeOffline now) store) := by
  induction agentIds generalizing store with
  | nil => exact created
  | cons agentId agentIds ih =>
      apply ih
      have early : deployment.CreatedWith accepted
          ((store.updateAgent agentId (fun row => { row with status := .offline })
            agentId_offlineRow).updateAssignments
              (fun row => decide (row.agentId = agentId) && row.unassignedAt.isNone)
              fun row =>
                { row with
                  unassignedAt := some now
                  reason := some "agent_offline" }) := created
      exact early.updateTasks _ deployment.taskId_requeuedRow fun _ => rfl

/-! ## The passes -/

theorem createTaskPass {task : TaskInput} (isAccepted : accepted task) (attempt : Attempt) :
    deployment.CreatedWith accepted (deployment.createTaskPass task attempt store).2 := by
  rcases deployment.createTaskPass_cases task attempt store with
    ⟨_, failed⟩ | ⟨taskId, bounds, fresh, inRange, _, stored⟩
  · rw [failed]
    exact created
  · rw [stored]
    have advanced : deployment.CreatedWith accepted (store.advanceTaskSeq taskId bounds) := created
    exact advanced.insertTask fresh inRange isAccepted ⟨attempt.now, taskId, rfl⟩

theorem pollTasksForAgentPass (agentId : String) (freeSlots : Int) (attempt : Attempt) :
    deployment.CreatedWith accepted
      (deployment.pollTasksForAgentPass agentId freeSlots attempt store).2 := by
  unfold Deployment.pollTasksForAgentPass
  split
  · exact created
  · dsimp only
    split
    · exact created.of_tasks_eq rfl
    · split
      · exact created
      · rename_i rows _
        have polled : deployment.CreatedWith accepted (store.updateAgent agentId
            (fun row => { row with lastHeartbeat := attempt.now }) (agentId_polledRow attempt)) :=
          created
        exact polled.foldl_assign attempt.now agentId _

theorem updateTaskStatusPass (taskId : Int) (update : TaskStatusUpdate) (attempt : Attempt) :
    deployment.CreatedWith accepted
      (deployment.updateTaskStatusPass taskId update attempt store).2 := by
  unfold Deployment.updateTaskStatusPass
  split
  · exact created
  · rename_i times _
    split
    · exact created
    · have written := created.updateTasks (fun row => decide (row.taskId = taskId))
        (deployment.taskId_reportedRow attempt.now update times) fun _ => rfl
      dsimp only
      split <;> exact written

theorem cancelTaskPass (taskId : Int) (attempt : Attempt) :
    deployment.CreatedWith accepted (Deployment.cancelTaskPass taskId attempt store).2 := by
  unfold Deployment.cancelTaskPass
  split
  · exact created
  · split
    · exact created
    · exact created.updateTasks (fun row => decide (row.taskId = taskId))
        (taskId_canceledRow attempt.now) fun _ => rfl

end CreatedWith

end Deployment

/-- Every attempt of the step leaves all or nothing of itself when it fails. -/
def MasterStep.Atomic (deployment : Deployment) : MasterStep → Prop
  | .request schedule _ =>
      ∀ attempt ∈ schedule.first ++ schedule.second, deployment.AtomicAttempt attempt
  | .sweep attempts => ∀ attempt ∈ attempts, deployment.AtomicAttempt attempt

theorem MasterStep.atomic_calm (deployment : Deployment) (now : Time) (request : Request) :
    (calm deployment now request).Atomic deployment := by
  intro attempt among
  have healthy := deployment.healthy_calmAttempt now
  simp only [List.cons_append, List.nil_append, List.mem_cons, List.not_mem_nil, or_false,
    or_self] at among
  exact (healthy.attempt attempt (List.mem_singleton.mpr among)).atomic

/-- The task that the step may create has the property. -/
def MasterStep.Creates (accepted : TaskInput → Prop) : MasterStep → Prop
  | .request _ (.createTask body) => ∀ task,
      ControlService.parseBody Api.parseTaskCreate body = .ok task → accepted task
  | _ => True

theorem masterStep_createdWith {deployment : Deployment} {accepted : TaskInput → Prop}
    (config : MasterConfig) {store : Store} (created : deployment.CreatedWith accepted store)
    {step : MasterStep} (atomic : step.Atomic deployment) (creates : step.Creates accepted) :
    deployment.CreatedWith accepted (masterStep deployment config store step) := by
  have call := masterStep_call deployment config store step
  generalize masterStep deployment config store step = after at call
  cases call with
  | quiet => exact created
  | upsertAgent schedule agentId body agent parsed =>
      refine (deployment.upsertAgentLoop agent).invariant
        (fun attempt member => atomic attempt (List.mem_append_left _ member)) ?_ created
      intro attempt _ before held
      exact held.of_tasks_eq (Store.tasks_upsertAgent ..)
  | agentHeartbeat schedule agentId body heartbeat parsed =>
      refine (deployment.updateHeartbeatLoop heartbeat).invariant
        (fun attempt member => atomic attempt (List.mem_append_left _ member)) ?_ created
      intro attempt _ before held
      unfold Deployment.updateHeartbeatPass
      split
      · exact held
      · exact held.of_tasks_eq rfl
  | pollTasks schedule agentId body freeSlots parsed =>
      refine (deployment.pollTasksForAgentLoop agentId freeSlots).invariant
        (fun attempt member => atomic attempt (List.mem_append_left _ member)) ?_ created
      intro attempt _ before held
      exact held.pollTasksForAgentPass agentId freeSlots attempt
  | createTask schedule body task parsed =>
      refine (deployment.createTaskLoop task).invariant
        (fun attempt member => atomic attempt (List.mem_append_left _ member)) ?_ created
      intro attempt _ before held
      exact held.createTaskPass (creates task parsed) attempt
  | updateTaskStatus schedule taskIdRaw body taskId update =>
      refine (deployment.updateTaskStatusLoop taskId update).invariant
        (fun attempt member => atomic attempt (List.mem_append_right _ member)) ?_ created
      intro attempt _ before held
      exact held.updateTaskStatusPass taskId update attempt
  | cancelTask schedule taskIdRaw taskId parsedId =>
      refine (deployment.cancelTaskLoop taskId).invariant
        (fun attempt member => atomic attempt (List.mem_append_left _ member)) ?_ created
      intro attempt _ before held
      exact held.cancelTaskPass taskId attempt
  | sweep attempts =>
      refine (deployment.markOfflineAgentsAndRequeueLoop config.offlineAfterSec).invariant
        atomic ?_ created
      intro attempt _ before held
      exact held.foldl_takeOffline _ _

theorem masterRun_createdWith {deployment : Deployment} {accepted : TaskInput → Prop}
    (config : MasterConfig) {start : Store} (created : deployment.CreatedWith accepted start)
    {steps : List MasterStep} (atomic : ∀ step ∈ steps, step.Atomic deployment)
    (creates : ∀ step ∈ steps, step.Creates accepted) :
    deployment.CreatedWith accepted (run (masterStep deployment config) start steps) := by
  have each : ∀ step ∈ steps, step.Atomic deployment ∧ step.Creates accepted := fun step member =>
    ⟨atomic step member, creates step member⟩
  have preserved : ∀ (store : Store) (step : MasterStep),
      step.Atomic deployment ∧ step.Creates accepted → deployment.CreatedWith accepted store →
        deployment.CreatedWith accepted (masterStep deployment config store step) :=
    fun _ _ both held => masterStep_createdWith config held both.1 both.2
  exact run_invariant_along (masterStep deployment config) preserved created
    (along_of_forall _ each start)

end DistributedComputing
