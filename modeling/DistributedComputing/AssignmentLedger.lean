import Mathlib.Logic.Function.Basic
import Mathlib.Data.Option.Basic
import DistributedComputing.TransitionRuns
import DistributedComputing.ApiMappers

/-!
# The assignment ledger

What a broker is for, without rows and columns: each task is in one state, has at most
one assignee and a list of leases, and each registered agent has a status.  The events
are the changes that requests and the offline sweep make to it.
-/

namespace DistributedComputing

/-- Why a lease ended. -/
inductive Ending
  | agentOffline
  | taskOver
  deriving DecidableEq

/-- One assignment of a task to an agent; it is open while it has no ending. -/
structure Lease (Agent : Type) where
  holder : Agent
  ending : Option Ending := none
  deriving DecidableEq

namespace Lease

variable {Agent : Type}

/-- End the lease, unless it has ended before. -/
def close (ending : Ending) (lease : Lease Agent) : Lease Agent :=
  { lease with ending := lease.ending.or (some ending) }

/-- End the lease if the agent holds it. -/
def closeHeldBy [DecidableEq Agent] (agent : Agent) (lease : Lease Agent) : Lease Agent :=
  if lease.holder = agent then lease.close .agentOffline else lease

/-- The holders of the leases that are still open. -/
def openHolders (leases : List (Lease Agent)) : List Agent :=
  (leases.filter fun lease => lease.ending.isNone).map Lease.holder

@[simp]
theorem openHolders_append_open (leases : List (Lease Agent)) (agent : Agent) :
    openHolders (leases ++ [{ holder := agent }]) = openHolders leases ++ [agent] := by
  simp [openHolders]

@[simp]
theorem openHolders_map_close (ending : Ending) (leases : List (Lease Agent)) :
    openHolders (leases.map (close ending)) = [] := by
  simp [openHolders, List.filter_eq_nil_iff, close]

theorem openHolders_map_closeHeldBy [DecidableEq Agent] (agent : Agent)
    (leases : List (Lease Agent)) :
    openHolders (leases.map (closeHeldBy agent)) =
      (openHolders leases).filter fun holder => decide (holder ≠ agent) := by
  induction leases with
  | nil => rfl
  | cons lease leases ih =>
      unfold openHolders at ih ⊢
      rcases lease with ⟨holder, _ | ending⟩
      · by_cases held : holder = agent
        · simpa [closeHeldBy, close, held] using ih
        · simpa [closeHeldBy, held] using ih
      · by_cases held : holder = agent
        · simpa [closeHeldBy, close, held] using ih
        · simpa [closeHeldBy, held] using ih

end Lease

structure Ledger (Task Agent : Type) where
  state : Task → Option TaskState
  assignee : Task → Option Agent
  exitCode : Task → Option Int
  leases : Task → List (Lease Agent)
  status : Agent → Option AgentStatus

inductive LedgerEvent (Task Agent : Type)
  | setStatus (agent : Agent) (status : AgentStatus)
  | create (task : Task)
  | claim (agent : Agent) (task : Task)
  | report (task : Task) (state : TaskState) (exitCode : Option Int)
  | cancel (task : Task)
  | expire (agent : Agent)

namespace Ledger

variable {Task Agent : Type}

@[ext]
theorem ext {first second : Ledger Task Agent} (stateEq : first.state = second.state)
    (assigneeEq : first.assignee = second.assignee)
    (exitCodeEq : first.exitCode = second.exitCode)
    (leasesEq : first.leases = second.leases) (statusEq : first.status = second.status) :
    first = second := by
  cases first
  cases second
  cases stateEq
  cases assigneeEq
  cases exitCodeEq
  cases leasesEq
  cases statusEq
  rfl

/-- No task and no agent. -/
def empty : Ledger Task Agent where
  state _ := none
  assignee _ := none
  exitCode _ := none
  leases _ := []
  status _ := none

/-- The agent has the task, and the task is not over. -/
def Holds (ledger : Ledger Task Agent) (agent : Agent) (task : Task) : Prop :=
  ledger.assignee task = some agent ∧
    (ledger.state task = some .running ∨ ledger.state task = some .queued)

instance [DecidableEq Agent] (ledger : Ledger Task Agent) (agent : Agent) (task : Task) :
    Decidable (ledger.Holds agent task) :=
  inferInstanceAs (Decidable (_ ∧ _))

/-- When the broker lets an event happen.  A report is written whatever the state of the
task is. -/
def Possible (ledger : Ledger Task Agent) : LedgerEvent Task Agent → Prop
  | .setStatus _ _ => True
  | .create task => ledger.state task = none
  | .claim agent task =>
      ledger.state task = some .queued ∧ ledger.assignee task = none ∧ ledger.status agent ≠ none
  | .report task _ _ => ledger.state task ≠ none
  | .cancel task => ∃ before, ledger.state task = some before ∧ before.terminal = false
  | .expire agent => ∃ status, ledger.status agent = some status ∧ status ≠ .offline

/-- When a complete request lets an event happen: a report has passed the check of the
transition. -/
def Enabled (ledger : Ledger Task Agent) : LedgerEvent Task Agent → Prop
  | .report task state _ =>
      ∃ before, ledger.state task = some before ∧
        Api.isValidTaskStateTransition before state = true
  | event => ledger.Possible event

theorem Enabled.possible {ledger : Ledger Task Agent} {event : LedgerEvent Task Agent}
    (enabled : ledger.Enabled event) : ledger.Possible event := by
  cases event with
  | report task state exitCode =>
      obtain ⟨before, held, _⟩ := enabled
      simp [Possible, held]
  | setStatus agent status => exact enabled
  | create task => exact enabled
  | claim agent task => exact enabled
  | cancel task => exact enabled
  | expire agent => exact enabled

/-- A queued or unknown task has no assignee, and the open leases of a task are exactly
one lease of its assignee while it runs. -/
structure Consistent (ledger : Ledger Task Agent) : Prop where
  unassigned : ∀ task, ledger.state task = none ∨ ledger.state task = some .queued →
    ledger.assignee task = none
  openHolders : ∀ task, Lease.openHolders (ledger.leases task) =
    if ledger.state task = some .running then (ledger.assignee task).toList else []

theorem empty_consistent : (empty : Ledger Task Agent).Consistent where
  unassigned _ _ := rfl
  openHolders _ := rfl

theorem not_terminal_of_valid {before after : TaskState}
    (valid : Api.isValidTaskStateTransition before after = true) (differ : before ≠ after) :
    before.terminal = false := by
  cases before <;> cases after <;> simp_all [Api.isValidTaskStateTransition, TaskState.terminal]

variable [DecidableEq Task] [DecidableEq Agent]

/-- The effect of an event. -/
def step (ledger : Ledger Task Agent) : LedgerEvent Task Agent → Ledger Task Agent
  | .setStatus agent status =>
      { ledger with status := Function.update ledger.status agent (some status) }
  | .create task =>
      { ledger with
        state := Function.update ledger.state task (some .queued)
        assignee := Function.update ledger.assignee task none
        exitCode := Function.update ledger.exitCode task none }
  | .claim agent task =>
      { ledger with
        state := Function.update ledger.state task (some .running)
        assignee := Function.update ledger.assignee task (some agent)
        leases := Function.update ledger.leases task
          (ledger.leases task ++ [{ holder := agent }]) }
  | .report task state exitCode =>
      { ledger with
        state := Function.update ledger.state task (some state)
        exitCode := Function.update ledger.exitCode task
          (exitCode.or (ledger.exitCode task))
        leases :=
          if state.terminal then
            Function.update ledger.leases task ((ledger.leases task).map (Lease.close .taskOver))
          else ledger.leases }
  | .cancel task =>
      { ledger with
        state := Function.update ledger.state task (some .canceled)
        leases := Function.update ledger.leases task
          ((ledger.leases task).map (Lease.close .taskOver)) }
  | .expire agent =>
      { ledger with
        state := fun task =>
          if ledger.Holds agent task then some .queued else ledger.state task
        assignee := fun task => if ledger.Holds agent task then none else ledger.assignee task
        leases := fun task => (ledger.leases task).map (Lease.closeHeldBy agent)
        status := Function.update ledger.status agent (some .offline) }

/-- A cancel is a report of the canceled state without an exit code. -/
theorem step_cancel (ledger : Ledger Task Agent) (task : Task) :
    ledger.step (.cancel task) = ledger.step (.report task .canceled none) := by
  simp [step, TaskState.terminal]

omit [DecidableEq Agent] in
/-- An event that changes one task has only that task to account for. -/
theorem Consistent.of_task {ledger later : Ledger Task Agent} (consistent : ledger.Consistent)
    (task : Task)
    (others : ∀ other, other ≠ task → later.state other = ledger.state other ∧
      later.assignee other = ledger.assignee other ∧ later.leases other = ledger.leases other)
    (unassigned : later.state task = none ∨ later.state task = some .queued →
      later.assignee task = none)
    (openHolders : Lease.openHolders (later.leases task) =
      if later.state task = some .running then (later.assignee task).toList else []) :
    later.Consistent := by
  constructor
  · intro other unclaimed
    by_cases same : other = task
    · subst same
      exact unassigned unclaimed
    · obtain ⟨state, assignee, _⟩ := others other same
      rw [state] at unclaimed
      rw [assignee]
      exact consistent.unassigned other unclaimed
  · intro other
    by_cases same : other = task
    · subst same
      exact openHolders
    · obtain ⟨state, assignee, leases⟩ := others other same
      rw [state, assignee, leases]
      exact consistent.openHolders other

/-- A report that passed the check leaves a queued task only by starting or canceling it. -/
theorem report_consistent {ledger : Ledger Task Agent} {task : Task} {state : TaskState}
    {exitCode : Option Int} (consistent : ledger.Consistent)
    (enabled : ledger.Enabled (.report task state exitCode)) :
    (ledger.step (.report task state exitCode)).Consistent := by
  obtain ⟨before, held, valid⟩ := enabled
  refine consistent.of_task task ?_ ?_ ?_
  · intro other different
    cases isOver : state.terminal <;> simp [step, isOver, different]
  · intro unclaimed
    have stateEq : state = .queued := by simpa [step] using unclaimed
    subst stateEq
    have beforeEq : before = .queued := by
      cases before <;> simp_all [Api.isValidTaskStateTransition]
    exact consistent.unassigned task (.inr (by rw [held, beforeEq]))
  · have before_open := consistent.openHolders task
    cases isOver : state.terminal with
    | true =>
        have stopped : state ≠ .running := by rintro rfl; simp [TaskState.terminal] at isOver
        simp [step, isOver, stopped]
    | false =>
        have leasesEq : (ledger.step (.report task state exitCode)).leases task =
            ledger.leases task := by simp [step, isOver]
        rw [leasesEq, before_open, held]
        cases before <;> cases state <;>
          simp_all [Api.isValidTaskStateTransition, TaskState.terminal, step]
        -- A task that starts running without a poll has nobody to lease it to.
        exact consistent.unassigned task (.inr held)

theorem expire_consistent {ledger : Ledger Task Agent} {agent : Agent}
    (consistent : ledger.Consistent) : (ledger.step (.expire agent)).Consistent := by
  constructor
  · intro task unclaimed
    by_cases held : ledger.Holds agent task
    · simp [step, held]
    · have before : ledger.state task = none ∨ ledger.state task = some .queued := by
        simpa [step, held] using unclaimed
      simpa [step, held] using consistent.unassigned task before
  · intro task
    have before_open := consistent.openHolders task
    have leasesEq : (ledger.step (.expire agent)).leases task =
        (ledger.leases task).map (Lease.closeHeldBy agent) := rfl
    rw [leasesEq, Lease.openHolders_map_closeHeldBy, before_open]
    by_cases held : ledger.Holds agent task
    · have assigned := held.1
      simp [step, held, assigned]
    · cases running : decide (ledger.state task = some .running) with
      | false =>
          have stopped : ledger.state task ≠ some .running := by simpa using running
          simp [step, held, stopped]
      | true =>
          have isRunning : ledger.state task = some .running := by simpa using running
          have other : ledger.assignee task ≠ some agent := fun assigned =>
            held ⟨assigned, .inl isRunning⟩
          cases assigned : ledger.assignee task with
          | none => simp [step, held, isRunning, assigned]
          | some holder =>
              have differ : holder ≠ agent := by
                rintro rfl
                exact other assigned
              simp [step, held, isRunning, assigned, differ]

/-- Every event of a complete request keeps tasks and leases consistent. -/
theorem step_consistent {ledger : Ledger Task Agent} {event : LedgerEvent Task Agent}
    (consistent : ledger.Consistent) (enabled : ledger.Enabled event) :
    (ledger.step event).Consistent := by
  cases event with
  | setStatus agent status => exact ⟨consistent.unassigned, consistent.openHolders⟩
  | create task =>
      have fresh : ledger.state task = none := enabled
      have before_open := consistent.openHolders task
      refine consistent.of_task task ?_ ?_ ?_
      · intro other different
        simp [step, different]
      · simp [step]
      · simpa [step, fresh] using before_open
  | claim agent task =>
      obtain ⟨queued, _, _⟩ := enabled
      have before_open := consistent.openHolders task
      rw [queued] at before_open
      refine consistent.of_task task ?_ ?_ ?_
      · intro other different
        simp [step, different]
      · simp [step]
      · simp [step, before_open]
  | report task state exitCode => exact report_consistent consistent enabled
  | cancel task =>
      refine consistent.of_task task ?_ ?_ ?_
      · intro other different
        simp [step, different]
      · simp [step]
      · simp [step]
  | expire agent => exact expire_consistent consistent

end Ledger

end DistributedComputing
