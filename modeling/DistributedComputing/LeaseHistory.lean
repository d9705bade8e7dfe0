import DistributedComputing.MasterRuns
import DistributedComputing.AssignmentConsistency

/-!
# What the leases of a task tell

Leases are never removed, and a lease that was closed other than by a sweep belongs to a
task that is over.  So an agent that ever leased a running task still holds it, or has
lost it to sweeps.
-/

namespace DistributedComputing

open TransitionRuns

namespace Ledger

variable {Task Agent : Type}

/-- The agent has leased the task, now or before. -/
def Leased (ledger : Ledger Task Agent) (agent : Agent) (task : Task) : Prop :=
  ∃ lease ∈ ledger.leases task, lease.holder = agent

/-- A lease that a sweep did not close is open, or its task is over. -/
def OverWhenClosed (ledger : Ledger Task Agent) : Prop :=
  ∀ task, ∀ lease ∈ ledger.leases task, lease.ending = some .taskOver →
    ∃ state, ledger.state task = some state ∧ state.terminal = true

theorem empty_overWhenClosed : (empty : Ledger Task Agent).OverWhenClosed := by
  intro task lease member
  cases member

/-- The task has succeeded or failed. -/
def Finished (ledger : Ledger Task Agent) (task : Task) : Prop :=
  ledger.state task = some .succeeded ∨ ledger.state task = some .failed

variable [DecidableEq Task] [DecidableEq Agent]

theorem Leased.step {ledger : Ledger Task Agent} {agent : Agent} {task : Task}
    (leased : ledger.Leased agent task) (event : LedgerEvent Task Agent) :
    (ledger.step event).Leased agent task := by
  obtain ⟨lease, member, holder⟩ := leased
  have closed : ∀ ending, ∃ other ∈ (ledger.leases task).map (Lease.close ending),
      other.holder = agent := fun ending =>
    ⟨lease.close ending, List.mem_map_of_mem member, holder⟩
  cases event with
  | setStatus other status => exact ⟨lease, member, holder⟩
  | create other => exact ⟨lease, member, holder⟩
  | claim other claimed =>
      by_cases same : task = claimed
      · subst same
        exact ⟨lease, by simp [Ledger.step, member], holder⟩
      · exact ⟨lease, by simpa [Ledger.step, same] using member, holder⟩
  | report other state exitCode =>
      by_cases same : task = other
      · subst same
        cases isOver : state.terminal with
        | true => simpa [Leased, Ledger.step, isOver] using closed .taskOver
        | false => exact ⟨lease, by simpa [Ledger.step, isOver] using member, holder⟩
      · refine ⟨lease, ?_, holder⟩
        cases isOver : state.terminal <;> simpa [Ledger.step, isOver, same] using member
  | cancel other =>
      by_cases same : task = other
      · subst same
        simpa [Leased, Ledger.step] using closed .taskOver
      · exact ⟨lease, by simpa [Ledger.step, same] using member, holder⟩
  | expire other =>
      refine ⟨lease.closeHeldBy other, List.mem_map_of_mem member, ?_⟩
      rw [← holder]
      unfold Lease.closeHeldBy
      split <;> rfl

theorem Leased.run {ledger : Ledger Task Agent} {agent : Agent} {task : Task}
    (leased : ledger.Leased agent task) (events : List (LedgerEvent Task Agent)) :
    (run Ledger.step ledger events).Leased agent task := by
  induction events generalizing ledger with
  | nil => exact leased
  | cons event events ih => exact ih (leased.step event)

/-- Claims among events leave leases. -/
theorem leased_of_claim {ledger : Ledger Task Agent} {agent : Agent} {task : Task}
    {events : List (LedgerEvent Task Agent)} (claimed : .claim agent task ∈ events) :
    (run Ledger.step ledger events).Leased agent task := by
  obtain ⟨before, after, rfl⟩ := List.append_of_mem claimed
  rw [run_append, run_cons]
  apply Leased.run
  exact ⟨{ holder := agent }, by simp [Ledger.step], rfl⟩

/-- A sweep closes leases, but never as those of a task that is over. -/
theorem ending_of_closeHeldBy {lease : Lease Agent} {agent : Agent}
    (ended : (lease.closeHeldBy agent).ending = some .taskOver) :
    lease.ending = some .taskOver := by
  unfold Lease.closeHeldBy at ended
  split at ended
  · cases ending : lease.ending with
    | none => simp [Lease.close, ending] at ended
    | some other => simpa [Lease.close, ending] using ended
  · exact ended

theorem step_overWhenClosed {ledger : Ledger Task Agent} {event : LedgerEvent Task Agent}
    (enabled : ledger.Enabled event) (overWhenClosed : ledger.OverWhenClosed) :
    (ledger.step event).OverWhenClosed := by
  intro task lease member ended
  cases event with
  | setStatus other status => exact overWhenClosed task lease member ended
  | create other =>
      obtain ⟨state, held, isOver⟩ := overWhenClosed task lease member ended
      have fresh : ledger.state other = none := enabled
      have different : task ≠ other := by
        rintro rfl
        rw [fresh] at held
        cases held
      exact ⟨state, by simpa [step, different] using held, isOver⟩
  | claim other claimed =>
      by_cases same : task = claimed
      · subst same
        have old : lease ∈ ledger.leases task := by
          have members : lease ∈ ledger.leases task ++ [{ holder := other }] := by
            simpa [step] using member
          rcases List.mem_append.mp members with old | new
          · exact old
          · rw [List.mem_singleton.mp new] at ended
            cases ended
        obtain ⟨state, held, isOver⟩ := overWhenClosed task lease old ended
        rw [enabled.1] at held
        cases held
        cases isOver
      · obtain ⟨state, held, isOver⟩ :=
          overWhenClosed task lease (by simpa [step, same] using member) ended
        exact ⟨state, by simpa [step, same] using held, isOver⟩
  | report other state exitCode =>
      obtain ⟨before, held, valid⟩ := enabled
      by_cases same : task = other
      · subst same
        refine ⟨state, by simp [step], ?_⟩
        by_contra unfinished
        obtain ⟨old, found, isOver⟩ :=
          overWhenClosed task lease (by simpa [step, unfinished] using member) ended
        rw [held] at found
        cases found
        have moved : before ≠ state := by
          rintro rfl
          exact unfinished isOver
        rw [not_terminal_of_valid valid moved] at isOver
        cases isOver
      · have old : lease ∈ ledger.leases task := by
          cases isOver : state.terminal <;> simpa [step, isOver, same] using member
        obtain ⟨old, found, isOver⟩ := overWhenClosed task lease old ended
        exact ⟨old, by simpa [step, same] using found, isOver⟩
  | cancel other =>
      by_cases same : task = other
      · exact ⟨.canceled, by simp [step, same], rfl⟩
      · obtain ⟨state, held, isOver⟩ :=
          overWhenClosed task lease (by simpa [step, same] using member) ended
        exact ⟨state, by simpa [step, same] using held, isOver⟩
  | expire other =>
      obtain ⟨old, oldMember, rfl⟩ := List.mem_map.mp member
      obtain ⟨state, held, isOver⟩ := overWhenClosed task old oldMember (ending_of_closeHeldBy ended)
      have spared : ¬ ledger.Holds other task := by
        rintro ⟨_, active⟩
        rw [held] at active
        rcases active with running | queued
        · cases running
          cases isOver
        · cases queued
          cases isOver
      exact ⟨state, by simpa [step, spared] using held, isOver⟩

/-- Only the report of a running task finishes a task. -/
theorem finished_step {ledger : Ledger Task Agent} {event : LedgerEvent Task Agent} {task : Task}
    (enabled : ledger.Enabled event) (unfinished : ¬ ledger.Finished task)
    (finished : (ledger.step event).Finished task) :
    (∃ state exitCode, event = .report task state exitCode) ∧
      ledger.state task = some .running := by
  cases event with
  | setStatus agent status => exact absurd finished unfinished
  | create other =>
      by_cases same : task = other
      · simp [Finished, step, same] at finished
      · exact absurd (by simpa [Finished, step, same] using finished) unfinished
  | claim agent other =>
      by_cases same : task = other
      · simp [Finished, step, same] at finished
      · exact absurd (by simpa [Finished, step, same] using finished) unfinished
  | cancel other =>
      by_cases same : task = other
      · simp [Finished, step, same] at finished
      · exact absurd (by simpa [Finished, step, same] using finished) unfinished
  | expire agent =>
      by_cases held : ledger.Holds agent task
      · simp [Finished, step, held] at finished
      · exact absurd (by simpa [Finished, step, held] using finished) unfinished
  | report other state exitCode =>
      by_cases same : task = other
      · subst same
        obtain ⟨before, held, valid⟩ := enabled
        refine ⟨⟨state, exitCode, rfl⟩, ?_⟩
        rw [held]
        cases before <;> cases state <;>
          simp_all [Finished, step, Api.isValidTaskStateTransition]
      · exact absurd (by simpa [Finished, step, same] using finished) unfinished

end Ledger

/-! ## In the tables -/

namespace Store

/-- The agent has the task and its open assignment. -/
def HeldBy (store : Store) (agentId : String) (taskId : Int) : Prop :=
  (∃ task, store.task taskId = some task ∧ task.assignedAgent = some agentId) ∧
    ∃ row ∈ store.taskAssignments, OpenRow taskId row ∧ row.agentId = agentId

/-- The agent had the task assigned, and sweeps closed all these assignments. -/
def SweptFrom (store : Store) (agentId : String) (taskId : Int) : Prop :=
  (∃ row ∈ store.taskAssignments, row.taskId = taskId ∧ row.agentId = agentId) ∧
    ∀ row ∈ store.taskAssignments, row.taskId = taskId → row.agentId = agentId →
      row.unassignedAt ≠ none ∧ row.reason = some "agent_offline"

/-- Whoever leased a running task holds it, or lost it to sweeps. -/
theorem heldBy_or_sweptFrom {store : Store} {agentId : String} {taskId : Int}
    (consistent : store.ledger.Consistent) (overWhenClosed : store.ledger.OverWhenClosed)
    (running : store.ledger.state taskId = some .running)
    (leased : store.ledger.Leased agentId taskId) :
    store.HeldBy agentId taskId ∨ store.SweptFrom agentId taskId := by
  by_cases stillOpen : ∃ row ∈ store.taskAssignments, OpenRow taskId row ∧ row.agentId = agentId
  · obtain ⟨task, found, _, assigned⟩ := (consistent.openRow_iff taskId agentId).mp stillOpen
    exact .inl ⟨⟨task, found, assigned⟩, stillOpen⟩
  · right
    constructor
    · obtain ⟨lease, member, holder⟩ := leased
      obtain ⟨row, listed, rfl⟩ := List.mem_map.mp member
      rw [List.mem_filter, decide_eq_true_eq] at listed
      exact ⟨row, listed.1, listed.2, holder⟩
    · intro row listed sameTask sameAgent
      have closed : row.unassignedAt ≠ none := fun none =>
        stillOpen ⟨row, listed, ⟨sameTask, none⟩, sameAgent⟩
      refine ⟨closed, ?_⟩
      by_contra otherReason
      obtain ⟨time, closedAt⟩ := Option.ne_none_iff_exists'.mp closed
      have member : row.lease ∈ store.ledger.leases taskId :=
        List.mem_map_of_mem (List.mem_filter.mpr ⟨listed, by simpa using sameTask⟩)
      obtain ⟨state, held, isOver⟩ := overWhenClosed taskId row.lease member
        (by simp [AssignmentRow.lease, closedAt, otherReason])
      rw [running] at held
      cases held
      cases isOver

end Store

/-- A step of the master that finishes a task is a report about it, while it runs. -/
theorem masterStep_finishes {deployment : Deployment} (config : MasterConfig) {store : Store}
    {step : MasterStep} (healthy : step.Healthy deployment) {taskId : Int}
    (unfinished : ¬ store.ledger.Finished taskId)
    (finished : (masterStep deployment config store step).ledger.Finished taskId) :
    (∃ schedule taskIdRaw body, step = .request schedule (.updateTaskStatus taskIdRaw body) ∧
        Api.parseTaskId taskIdRaw = some taskId) ∧
      store.ledger.state taskId = some .running := by
  obtain ⟨events, shape, enabled, explains⟩ := masterStep_explained config store healthy
  rw [explains.ledger_eq] at finished
  obtain ⟨before, event, after, split, held, broken⟩ := exists_breaking_step Ledger.step
    (fun ledger => ¬ ledger.Finished taskId) unfinished (not_not.mpr finished)
  rw [split, along_append] at enabled
  obtain ⟨⟨state, exitCode, rfl⟩, running⟩ :=
    Ledger.finished_step enabled.2.1 held (not_not.mp broken)
  have reported : .report taskId state exitCode ∈ events := by simp [split]
  have fits : StepEvents store step events := shape.resolve_left (List.ne_nil_of_mem reported)
  obtain ⟨schedule, taskIdRaw, body, update, isReport, parsedId, _, _, single⟩ :=
    fits.of_report reported
  -- The report is the only event, so it finds the tables as the step does.
  rw [single] at split
  have first : before = [] := by
    cases before with
    | nil => rfl
    | cons other others => simp at split
  subst first
  exact ⟨⟨schedule, taskIdRaw, body, isReport, parsedId⟩, running⟩

end DistributedComputing
