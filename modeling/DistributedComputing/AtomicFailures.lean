import DistributedComputing.AssignmentConsistency
import DistributedComputing.CreatedTasks
import DistributedComputing.RequestFrames

/-!
# Consistency under failures of whole attempts

Where a failure leaves all or nothing of an attempt, retries repeat events of the ledger
that change nothing the second time, so that tasks and assignment rows stay consistent.
-/

namespace DistributedComputing

open TransitionRuns ControlService

namespace Deployment

/-- The same attempt when nothing fails. -/
def quietAttempt (deployment : Deployment) (attempt : Attempt) : Attempt :=
  { attempt with
    transaction := match deployment with
      | pgsql _ => some .none
      | mongo => some .none
      | mongoStandalone => none
    raisingCall := none }

theorem healthyAttempt_quietAttempt (deployment : Deployment) (attempt : Attempt) :
    deployment.HealthyAttempt (deployment.quietAttempt attempt) := by
  cases deployment <;> simp [HealthyAttempt, quietAttempt]

theorem healthy_quietAttempt (deployment : Deployment) (attempt : Attempt) :
    deployment.Healthy [deployment.quietAttempt attempt] := by
  refine ⟨by simp, ?_⟩
  intro other member
  rw [List.mem_singleton.mp member]
  exact deployment.healthyAttempt_quietAttempt attempt

/-- What the method preserves when nothing fails, it preserves when attempts fail whole. -/
theorem LoopOf.invariant_of_quiet {deployment : Deployment} {Result : Type}
    {method : List Attempt → DbAction Result} {fallback : Result}
    {pass : Attempt → DbAction Result} (loop : deployment.LoopOf method fallback pass)
    (same : ∀ attempt, pass (deployment.quietAttempt attempt) = pass attempt)
    (stable : ∀ attempt before error after,
      pass attempt before = (.error error, after) → after = before)
    (holds : Store → Prop) (quiet : ∀ attempt before, holds before →
      holds (method [deployment.quietAttempt attempt] before).2)
    {attempts : List Attempt} (atomic : ∀ attempt ∈ attempts, deployment.AtomicAttempt attempt)
    {store : Store} (initially : holds store) : holds (method attempts store).2 := by
  refine loop.invariant atomic ?_ initially
  intro attempt _ before held
  rcases passed : pass attempt before with ⟨error | result, after⟩
  · rw [stable attempt before error after passed]
    exact held
  · have kept := quiet attempt before held
    rw [← same attempt] at passed
    rw [loop.first_returns (deployment.healthyAttempt_quietAttempt attempt) [] passed] at kept
    exact kept

end Deployment

theorem Explains.consistent {events : List BrokerEvent} {before after : Store}
    (explains : Explains events before after)
    (noReport : ∀ task state exitCode, .report task state exitCode ∉ events)
    (consistent : before.ledger.Consistent) : after.ledger.Consistent := by
  rw [explains.ledger_eq]
  exact run_invariant_along Ledger.step
    (fun _ _ allowed held => Ledger.step_consistent held allowed) consistent
    (explains.enabled noReport)

section Operations

variable {deployment : Deployment} {attempts : List Attempt}
  (atomic : ∀ attempt ∈ attempts, deployment.AtomicAttempt attempt) {store : Store}
  (consistent : store.ledger.Consistent)

include atomic consistent

theorem upsertAgent_consistent (agent : AgentInput) :
    (deployment.broker.upsertAgent attempts agent store).2.ledger.Consistent := by
  refine (deployment.upsertAgentLoop agent).invariant_of_quiet (fun _ => rfl)
    (fun _ _ _ _ raised => by cases raised) (fun reached => reached.ledger.Consistent) ?_ atomic
    consistent
  intro attempt before held
  have spec := Deployment.upsertAgent_spec (deployment.healthy_quietAttempt attempt) before agent
  exact spec.2.consistent (by simp) held

theorem updateHeartbeat_consistent (heartbeat : AgentHeartbeat) :
    (deployment.broker.updateHeartbeat attempts heartbeat store).2.ledger.Consistent := by
  refine (deployment.updateHeartbeatLoop heartbeat).invariant_of_quiet (fun _ => rfl)
    (fun _ _ _ _ raised => Deployment.updateHeartbeatPass_error raised)
    (fun reached => reached.ledger.Consistent) ?_ atomic consistent
  intro attempt before held
  have spec :=
    Deployment.updateHeartbeat_spec (deployment.healthy_quietAttempt attempt) before heartbeat
  generalize deployment.broker.updateHeartbeat [deployment.quietAttempt attempt] heartbeat before =
    outcome at spec ⊢
  rcases outcome with ⟨error | known, after⟩
  · exact spec.elim
  · cases known with
    | false => exact spec.2 ▸ held
    | true => exact spec.2.consistent (by simp) held

theorem createTask_consistent (task : TaskInput) :
    (deployment.broker.createTask attempts task store).2.ledger.Consistent := by
  refine (deployment.createTaskLoop task).invariant_of_quiet ?_ ?_
    (fun reached => reached.ledger.Consistent) ?_ atomic consistent
  · intro attempt
    cases deployment <;> rfl
  · intro attempt before error after raised
    rcases deployment.createTaskPass_cases task attempt before with
      ⟨_, failed⟩ | ⟨taskId, bounds, fresh, inRange, _, stored⟩
    · rw [failed] at raised
      exact (Prod.mk.inj raised).2.symm
    · rw [stored] at raised
      cases raised
  · intro attempt before held
    have spec := Deployment.createTask_spec (deployment.healthy_quietAttempt attempt) before task
    generalize deployment.broker.createTask [deployment.quietAttempt attempt] task before =
      outcome at spec ⊢
    rcases outcome with ⟨error | taskId, after⟩
    · rw [show after = before from spec]
      exact held
    · rcases spec with ⟨_, same⟩ | ⟨_, explains⟩
      · exact same ▸ held
      · exact explains.consistent (by simp) held

theorem pollTasksForAgent_consistent (agentId : String) (freeSlots : Int) :
    (deployment.broker.pollTasksForAgent attempts agentId freeSlots store).2.ledger.Consistent := by
  refine (deployment.pollTasksForAgentLoop agentId freeSlots).invariant_of_quiet (fun _ => rfl)
    (fun _ _ _ _ raised => deployment.pollTasksForAgentPass_error raised)
    (fun reached => reached.ledger.Consistent) ?_ atomic consistent
  intro attempt before held
  have spec := Deployment.pollTasksForAgent_spec (deployment.healthy_quietAttempt attempt) before
    agentId freeSlots
  generalize deployment.broker.pollTasksForAgent [deployment.quietAttempt attempt] agentId
    freeSlots before = outcome at spec ⊢
  rcases outcome with ⟨error | _ | sent, after⟩
  · rw [show after = before from spec]
    exact held
  · exact spec.2 ▸ held
  · exact spec.2.2.consistent pollEvents_noReport held

theorem cancelTask_consistent (taskId : Int) :
    (deployment.broker.cancelTask attempts taskId store).2.ledger.Consistent := by
  refine (deployment.cancelTaskLoop taskId).invariant_of_quiet (fun _ => rfl) ?_
    (fun reached => reached.ledger.Consistent) ?_ atomic consistent
  · intro attempt before error after raised
    unfold Deployment.cancelTaskPass at raised
    split at raised
    · cases raised
    · split at raised <;> cases raised
  · intro attempt before held
    have spec :=
      Deployment.cancelTask_spec (deployment.healthy_quietAttempt attempt) before taskId
    generalize deployment.broker.cancelTask [deployment.quietAttempt attempt] taskId before =
      outcome at spec ⊢
    rcases outcome with ⟨error | result, after⟩
    · rw [show after = before from spec]
      exact held
    · cases result with
      | ok =>
          have explains : Explains [.cancel taskId] before after := spec
          exact explains.consistent (by simp) held
      | notFound =>
          rw [show after = before from spec]
          exact held
      | invalidState =>
          rw [show after = before from spec]
          exact held
      | error =>
          rw [show after = before from spec]
          exact held

theorem markOfflineAgentsAndRequeue_consistent (offlineAfterSec : Int) :
    (deployment.broker.markOfflineAgentsAndRequeue attempts
      offlineAfterSec store).2.ledger.Consistent := by
  refine (deployment.markOfflineAgentsAndRequeueLoop offlineAfterSec).invariant_of_quiet ?_
    (fun _ _ _ _ raised => by cases raised) (fun reached => reached.ledger.Consistent) ?_ atomic
    consistent
  · intro attempt
    cases deployment <;> rfl
  · intro attempt before held
    obtain ⟨_, _, _, explains⟩ := Deployment.markOfflineAgentsAndRequeue_spec
      (deployment.healthy_quietAttempt attempt) before offlineAfterSec
    exact explains.consistent (by simp) held

/-- A report whose transition is valid stays so when it is written twice. -/
theorem updateTaskStatus_consistent {taskId : Int} {update : TaskStatusUpdate} {row : TaskRow}
    (found : store.task taskId = some row)
    (valid : Api.isValidTaskStateTransition row.state update.state = true) :
    (deployment.broker.updateTaskStatus attempts taskId update store).2.ledger.Consistent := by
  let guarded : Store → Prop := fun before => before.ledger.Consistent ∧
    ∀ state, before.ledger.state taskId = some state →
      Api.isValidTaskStateTransition state update.state = true
  have initially : guarded store := by
    refine ⟨consistent, fun state held => ?_⟩
    rw [Store.state_of_task found] at held
    cases held
    exact valid
  have kept : guarded (deployment.broker.updateTaskStatus attempts taskId update store).2 := by
    refine (deployment.updateTaskStatusLoop taskId update).invariant_of_quiet
      (fun _ => by cases deployment <;> rfl)
      (fun _ _ _ _ raised => deployment.updateTaskStatusPass_error raised) guarded ?_ atomic
      initially
    intro attempt before held
    have spec := Deployment.updateTaskStatus_spec (deployment.healthy_quietAttempt attempt) before
      taskId update
    generalize deployment.broker.updateTaskStatus [deployment.quietAttempt attempt] taskId update
      before = outcome at spec ⊢
    rcases outcome with ⟨error | known, after⟩
    · rw [show after = before from spec]
      exact held
    · cases known with
      | false => exact spec.2 ▸ held
      | true =>
          obtain ⟨present, explains⟩ := spec
          obtain ⟨current, currentFound⟩ := Option.ne_none_iff_exists'.mp present
          have enabled : before.ledger.Enabled
              (.report taskId update.state update.exitCode) :=
            ⟨current.state, Store.state_of_task currentFound,
              held.2 _ (Store.state_of_task currentFound)⟩
          have isStep : after.ledger =
              before.ledger.step (.report taskId update.state update.exitCode) :=
            explains.ledger_eq
          refine ⟨isStep ▸ Ledger.report_consistent held.1 enabled, fun state written => ?_⟩
          rw [isStep] at written
          have isState : update.state = state := by simpa [Ledger.step] using written
          rw [isState]
          simp [Api.isValidTaskStateTransition]
  exact kept.1

end Operations

theorem masterStep_consistent_of_atomic {deployment : Deployment} (config : MasterConfig)
    {store : Store} {step : MasterStep} (atomic : step.Atomic deployment)
    (consistent : store.ledger.Consistent) :
    (masterStep deployment config store step).ledger.Consistent := by
  have call := masterStep_call deployment config store step
  generalize masterStep deployment config store step = after at call
  cases call with
  | quiet => exact consistent
  | upsertAgent schedule agentId body agent parsed =>
      exact upsertAgent_consistent
        (fun attempt member => atomic attempt (List.mem_append_left _ member)) consistent agent
  | agentHeartbeat schedule agentId body heartbeat parsed =>
      exact updateHeartbeat_consistent
        (fun attempt member => atomic attempt (List.mem_append_left _ member)) consistent heartbeat
  | pollTasks schedule agentId body freeSlots parsed =>
      exact pollTasksForAgent_consistent
        (fun attempt member => atomic attempt (List.mem_append_left _ member)) consistent agentId
        freeSlots
  | createTask schedule body task parsed =>
      exact createTask_consistent
        (fun attempt member => atomic attempt (List.mem_append_left _ member)) consistent task
  | updateTaskStatus schedule taskIdRaw body taskId update row parsedId parsed found valid =>
      exact updateTaskStatus_consistent
        (fun attempt member => atomic attempt (List.mem_append_right _ member)) consistent found
        valid
  | cancelTask schedule taskIdRaw taskId parsedId =>
      exact cancelTask_consistent
        (fun attempt member => atomic attempt (List.mem_append_left _ member)) consistent taskId
  | sweep attempts => exact markOfflineAgentsAndRequeue_consistent atomic consistent _

theorem masterRun_consistent_of_atomic {deployment : Deployment} (config : MasterConfig)
    {start : Store} (consistent : start.ledger.Consistent) {steps : List MasterStep}
    (atomic : ∀ step ∈ steps, step.Atomic deployment) :
    (run (masterStep deployment config) start steps).ledger.Consistent := by
  have preserved : ∀ (store : Store) (step : MasterStep), step.Atomic deployment →
      store.ledger.Consistent → (masterStep deployment config store step).ledger.Consistent :=
    fun _ _ isAtomic held => masterStep_consistent_of_atomic config isAtomic held
  exact run_invariant_along (masterStep deployment config) preserved consistent
    (along_of_forall _ atomic start)

end DistributedComputing
