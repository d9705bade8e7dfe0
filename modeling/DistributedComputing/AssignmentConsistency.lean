import DistributedComputing.MasterRuns

/-!
# Tasks and their assignment rows

In every state that complete requests and sweeps reach on a database that does not
fail, the rows of `task_assignments` that are still open are those of the running tasks
that have an agent.
-/

namespace DistributedComputing

open TransitionRuns

namespace Store

/-- The row is an assignment of the task that has not ended. -/
def OpenRow (taskId : Int) (row : AssignmentRow) : Prop :=
  row.taskId = taskId ∧ row.unassignedAt = none

instance (taskId : Int) (row : AssignmentRow) : Decidable (OpenRow taskId row) :=
  inferInstanceAs (Decidable (_ ∧ _))

theorem countP_openRow (store : Store) (taskId : Int) :
    store.taskAssignments.countP (fun row => decide (OpenRow taskId row)) =
      (Lease.openHolders (store.ledger.leases taskId)).length := by
  rw [store.length_openHolders]
  apply List.countP_congr
  intro row _
  rw [decide_eq_true_iff]
  simp [OpenRow]

end Store

namespace Ledger.Consistent

variable {store : Store} (consistent : store.ledger.Consistent) (taskId : Int)

include consistent

theorem countP_openRow_le :
    store.taskAssignments.countP (fun row => decide (Store.OpenRow taskId row)) ≤ 1 := by
  rw [store.countP_openRow, consistent.openHolders]
  split
  · cases store.ledger.assignee taskId <;> simp
  · simp

theorem openRow_iff (agentId : String) :
    (∃ row ∈ store.taskAssignments, Store.OpenRow taskId row ∧ row.agentId = agentId) ↔
      ∃ task, store.task taskId = some task ∧ task.state = .running ∧
        task.assignedAgent = some agentId := by
  have holders := store.mem_openHolders taskId agentId
  rw [consistent.openHolders] at holders
  have rows : (∃ row ∈ store.taskAssignments,
      Store.OpenRow taskId row ∧ row.agentId = agentId) ↔
      ∃ row ∈ store.taskAssignments, row.taskId = taskId ∧ row.agentId = agentId ∧
        row.unassignedAt = none := by
    constructor
    · rintro ⟨row, member, ⟨sameTask, stillOpen⟩, sameAgent⟩
      exact ⟨row, member, sameTask, sameAgent, stillOpen⟩
    · rintro ⟨row, member, sameTask, sameAgent, stillOpen⟩
      exact ⟨row, member, ⟨sameTask, stillOpen⟩, sameAgent⟩
  rw [rows, ← holders]
  cases found : store.task taskId with
  | none => simp [Store.ledger_state, found]
  | some task =>
      by_cases running : task.state = .running <;>
        simp [Store.ledger_state, Store.ledger_assignee, found, running]

theorem assignedAgent_of_queued {task : TaskRow} (found : store.task taskId = some task)
    (queued : task.state = .queued) : task.assignedAgent = none := by
  have unassigned := consistent.unassigned taskId
    (.inr (by rw [Store.state_of_task found, queued]))
  rwa [Store.assignee_of_task found] at unassigned

end Ledger.Consistent

theorem masterStep_consistent {deployment : Deployment} (config : MasterConfig) {store : Store}
    {step : MasterStep} (healthy : step.Healthy deployment)
    (consistent : store.ledger.Consistent) :
    (masterStep deployment config store step).ledger.Consistent := by
  obtain ⟨events, _, enabled, explains⟩ := masterStep_explained config store healthy
  rw [explains.ledger_eq]
  exact run_invariant_along Ledger.step
    (fun _ _ allowed held => Ledger.step_consistent held allowed) consistent enabled

/-- Every state reached from empty tables is consistent. -/
theorem masterRun_consistent {deployment : Deployment} (config : MasterConfig)
    {steps : List MasterStep} (healthy : ∀ step ∈ steps, step.Healthy deployment) :
    (run (masterStep deployment config) Store.empty steps).ledger.Consistent :=
  masterRun_invariant config Store.empty (fun _ _ enabled consistent =>
    Ledger.step_consistent consistent enabled) healthy Ledger.empty_consistent

theorem assignments_follow_tasks (deployment : Deployment) (config : MasterConfig)
    (steps : List MasterStep) (healthy : ∀ step ∈ steps, step.Healthy deployment)
    (taskId : Int) :
    let store := run (masterStep deployment config) Store.empty steps
    store.taskAssignments.countP (fun row => decide (Store.OpenRow taskId row)) ≤ 1 ∧
      (∀ agentId,
        (∃ row ∈ store.taskAssignments, Store.OpenRow taskId row ∧ row.agentId = agentId) ↔
          ∃ task, store.task taskId = some task ∧ task.state = .running ∧
            task.assignedAgent = some agentId) ∧
      (∀ task, store.task taskId = some task → task.state = .queued →
        task.assignedAgent = none) ∧
      (∀ task, store.task taskId = some task → task.state.terminal = true →
        ∀ row ∈ store.taskAssignments, ¬ Store.OpenRow taskId row) := by
  intro store
  have consistent : store.ledger.Consistent := masterRun_consistent config healthy
  refine ⟨consistent.countP_openRow_le taskId, consistent.openRow_iff taskId,
    fun task found queued => consistent.assignedAgent_of_queued taskId found queued, ?_⟩
  intro task found isOver row member isOpen
  obtain ⟨other, otherFound, running, _⟩ :=
    (consistent.openRow_iff taskId row.agentId).mp ⟨row, member, isOpen, rfl⟩
  rw [found] at otherFound
  cases otherFound
  rw [running] at isOver
  cases isOver

theorem assignments_follow_tasks_firstPoll :
    ∃ row ∈ (run (masterStep .mongo {}) Store.empty (firstPoll .mongo)).taskAssignments,
      Store.OpenRow 1 row ∧ row.agentId = "agent-1" :=
  ((assignments_follow_tasks .mongo {} (firstPoll .mongo) (healthy_firstPoll .mongo) 1).2.1
    "agent-1").mpr ⟨_, rfl, rfl, rfl⟩

end DistributedComputing
