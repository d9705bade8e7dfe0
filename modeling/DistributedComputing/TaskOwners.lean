import DistributedComputing.AssignmentLedger

/-!
# Owners of active tasks

Which agents the ledger names as assignees: registered ones always, offline ones only
by certain events, and none at all for a task that a report started.
-/

namespace DistributedComputing

namespace Ledger

open TransitionRuns

variable {Task Agent : Type}

/-- Only registered agents have tasks. -/
def Registered (ledger : Ledger Task Agent) : Prop :=
  ∀ agent task, ledger.assignee task = some agent → ledger.status agent ≠ none

theorem empty_registered : (empty : Ledger Task Agent).Registered := by
  intro agent task assigned
  cases assigned

/-- The task runs, and no agent has it. -/
def Unowned (ledger : Ledger Task Agent) (task : Task) : Prop :=
  ledger.state task = some .running ∧ ledger.assignee task = none

/-- No offline agent holds a task. -/
def OfflineIdle (ledger : Ledger Task Agent) : Prop :=
  ∀ agent task, ledger.Holds agent task → ledger.status agent ≠ some .offline

theorem empty_offlineIdle : (empty : Ledger Task Agent).OfflineIdle := by
  intro agent task held
  cases held.1

/-- The event does not make an agent offline that holds a task and keeps it. -/
def KeepsOfflineIdle (ledger : Ledger Task Agent) : LedgerEvent Task Agent → Prop
  | .setStatus agent status => status = .offline → ∀ task, ¬ ledger.Holds agent task
  | .claim agent _ => ledger.status agent ≠ some .offline
  | _ => True

variable [DecidableEq Task] [DecidableEq Agent]

theorem status_step_ne_none {ledger : Ledger Task Agent} {agent : Agent}
    (known : ledger.status agent ≠ none) (event : LedgerEvent Task Agent) :
    (ledger.step event).status agent ≠ none := by
  cases event with
  | setStatus other status =>
      by_cases same : agent = other <;> simp [step, same, known]
  | expire other =>
      by_cases same : agent = other <;> simp [step, same, known]
  | create task => exact known
  | claim other task => exact known
  | report task state exitCode => exact known
  | cancel task => exact known

/-- An assignee was there before, or has just claimed the task. -/
theorem assignee_step {ledger : Ledger Task Agent} {event : LedgerEvent Task Agent}
    {agent : Agent} {task : Task} (assigned : (ledger.step event).assignee task = some agent) :
    ledger.assignee task = some agent ∨ event = .claim agent task := by
  cases event with
  | setStatus other status => exact .inl assigned
  | create other =>
      by_cases same : task = other
      · simp [step, same] at assigned
      · exact .inl (by simpa [step, same] using assigned)
  | claim other claimed =>
      by_cases same : task = claimed
      · subst same
        have sameAgent : other = agent := by simpa [step] using assigned
        exact .inr (by rw [sameAgent])
      · exact .inl (by simpa [step, same] using assigned)
  | report other state exitCode => exact .inl assigned
  | cancel other => exact .inl assigned
  | expire other =>
      by_cases held : ledger.Holds other task
      · simp [step, held] at assigned
      · exact .inl (by simpa [step, held] using assigned)

theorem step_registered {ledger : Ledger Task Agent} {event : LedgerEvent Task Agent}
    (possible : ledger.Possible event) (registered : ledger.Registered) :
    (ledger.step event).Registered := by
  intro agent task assigned
  apply status_step_ne_none
  rcases assignee_step assigned with before | rfl
  · exact registered agent task before
  · exact possible.2.2

/-- Only the report that starts a queued task leaves it running without an owner. -/
theorem unowned_step {ledger : Ledger Task Agent} {event : LedgerEvent Task Agent}
    {task : Task} (enabled : ledger.Enabled event) (owned : ¬ ledger.Unowned task)
    (unowned : (ledger.step event).Unowned task) :
    (∃ exitCode, event = .report task .running exitCode) ∧
      ledger.state task = some .queued := by
  obtain ⟨running, unassigned⟩ := unowned
  cases event with
  | setStatus agent status => exact absurd ⟨running, unassigned⟩ owned
  | create other =>
      by_cases same : task = other
      · simp [step, same] at running
      · exact absurd ⟨by simpa [step, same] using running, by simpa [step, same] using unassigned⟩
          owned
  | claim agent other =>
      by_cases same : task = other
      · simp [step, same] at unassigned
      · exact absurd ⟨by simpa [step, same] using running, by simpa [step, same] using unassigned⟩
          owned
  | cancel other =>
      by_cases same : task = other
      · simp [step, same] at running
      · exact absurd ⟨by simpa [step, same] using running, unassigned⟩ owned
  | expire agent =>
      by_cases held : ledger.Holds agent task
      · simp [step, held] at running
      · exact absurd ⟨by simpa [step, held] using running, by simpa [step, held] using unassigned⟩
          owned
  | report other state exitCode =>
      by_cases same : task = other
      · subst same
        obtain ⟨before, held, valid⟩ := enabled
        have started : state = .running := by simpa [step] using running
        subst started
        have notRunning : before ≠ .running := by
          rintro rfl
          exact owned ⟨held, unassigned⟩
        have queued : before = .queued := by
          cases before <;> simp_all [Api.isValidTaskStateTransition]
        exact ⟨⟨exitCode, rfl⟩, by rw [held, queued]⟩
      · exact absurd ⟨by simpa [step, same] using running, unassigned⟩ owned

theorem holds_report {ledger : Ledger Task Agent} {task other : Task} {state : TaskState}
    {exitCode : Option Int} {agent : Agent}
    (enabled : ledger.Enabled (.report task state exitCode))
    (held : (ledger.step (.report task state exitCode)).Holds agent other) :
    ledger.Holds agent other := by
  obtain ⟨assigned, active⟩ := held
  refine ⟨assigned, ?_⟩
  by_cases same : other = task
  · subst same
    obtain ⟨before, stateEq, valid⟩ := enabled
    rw [stateEq]
    cases before <;> cases state <;> simp_all [Api.isValidTaskStateTransition, step]
  · simpa [step, same] using active

/-- An expiry does not touch the tasks that the agent does not hold. -/
theorem holds_expire_iff {ledger : Ledger Task Agent} {agent other : Agent} {task : Task}
    (free : ¬ ledger.Holds other task) :
    (ledger.step (.expire other)).Holds agent task ↔ ledger.Holds agent task := by
  have stateEq : (ledger.step (.expire other)).state task = ledger.state task := by
    simp [step, free]
  have assigneeEq : (ledger.step (.expire other)).assignee task = ledger.assignee task := by
    simp [step, free]
  rw [Holds, stateEq, assigneeEq, Holds]

theorem step_offlineIdle {ledger : Ledger Task Agent} {event : LedgerEvent Task Agent}
    (enabled : ledger.Enabled event) (keeps : ledger.KeepsOfflineIdle event)
    (idle : ledger.OfflineIdle) : (ledger.step event).OfflineIdle := by
  intro agent task held
  cases event with
  | setStatus other status =>
      by_cases same : agent = other
      · subst same
        intro offline
        have isOffline : status = .offline := by simpa [step] using offline
        exact keeps isOffline task held
      · simpa [step, same] using idle agent task held
  | create other =>
      by_cases same : task = other
      · subst same
        have unassigned := held.1
        simp [step] at unassigned
      · exact idle agent task (by simpa [Holds, step, same] using held)
  | claim other claimed =>
      by_cases same : task = claimed
      · subst same
        have claimer : other = agent := by simpa [step] using held.1
        subst claimer
        exact keeps
      · exact idle agent task (by simpa [Holds, step, same] using held)
  | report other state exitCode => exact idle agent task (holds_report enabled held)
  | cancel other =>
      by_cases same : task = other
      · subst same
        have stopped := held.2
        simp [step] at stopped
      · exact idle agent task (by simpa [Holds, step, same] using held)
  | expire other =>
      by_cases released : ledger.Holds other task
      · have unassigned := held.1
        simp [step, released] at unassigned
      · have before : ledger.Holds agent task :=
          (holds_expire_iff released).mp held
        have different : agent ≠ other := by
          rintro rfl
          exact released before
        simpa [step, different] using idle agent task before

/-- An agent that expires loses the task it holds, whoever else expires. -/
theorem run_expire_releases {agents : List Agent} {agent : Agent} (member : agent ∈ agents)
    {ledger : Ledger Task Agent} {task : Task} (held : ledger.Holds agent task) :
    (run step ledger (agents.map .expire)).state task = some .queued ∧
      (run step ledger (agents.map .expire)).assignee task = none := by
  have stays : ∀ (others : List Agent) (ledger : Ledger Task Agent),
      ledger.state task = some .queued → ledger.assignee task = none →
      (run step ledger (others.map .expire)).state task = some .queued ∧
        (run step ledger (others.map .expire)).assignee task = none := by
    intro others
    induction others with
    | nil => exact fun _ queued unassigned => ⟨queued, unassigned⟩
    | cons other others ih =>
        intro ledger queued unassigned
        have free : ¬ ledger.Holds other task := fun held => by simp [held.1] at unassigned
        exact ih _ (by simpa [step, free] using queued) (by simpa [step, free] using unassigned)
  induction agents generalizing ledger with
  | nil => cases member
  | cons other agents ih =>
      by_cases same : other = agent
      · subst same
        exact stays agents _ (by simp [step, held]) (by simp [step, held])
      · have kept : ¬ ledger.Holds other task := fun alsoHeld =>
          same (Option.some.inj (alsoHeld.1.symm.trans held.1))
        have later : agent ∈ agents := by
          rcases List.mem_cons.mp member with rfl | later
          · exact absurd rfl same
          · exact later
        exact ih later ((holds_expire_iff kept).mpr held)

end Ledger

end DistributedComputing
