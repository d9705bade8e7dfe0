import DistributedComputing.AssignmentLedger
import DistributedComputing.BrokerStore

/-!
# The ledger in the tables

How the tables represent a ledger, and what the updates of rows that the brokers make
are in its terms.
-/

namespace DistributedComputing

/-- An assignment row as a lease. -/
def AssignmentRow.lease (row : AssignmentRow) : Lease String where
  holder := row.agentId
  ending := row.unassignedAt.map fun _ =>
    if row.reason = some "agent_offline" then .agentOffline else .taskOver

/-- An update that closes the open rows with a certain owner. -/
structure ClosesOpenRows (test : AssignmentRow → Bool) (change : AssignmentRow → AssignmentRow)
    (owned : AssignmentRow → Bool) (ending : Ending) : Prop where
  test_eq : ∀ row, test row = (owned row && row.unassignedAt.isNone)
  task_eq : ∀ row, (change row).taskId = row.taskId
  agent_eq : ∀ row, (change row).agentId = row.agentId
  closed : ∀ row, (change row).unassignedAt.isSome = true
  reason_eq : ∀ row, (change row).reason = some "agent_offline" ↔ ending = .agentOffline

theorem ClosesOpenRows.sameTask {test : AssignmentRow → Bool}
    {change : AssignmentRow → AssignmentRow} {owned : AssignmentRow → Bool} {ending : Ending}
    (closes : ClosesOpenRows test change owned ending) (row : AssignmentRow) :
    (if test row then change row else row).taskId = row.taskId := by
  split
  · exact closes.task_eq row
  · rfl

theorem ClosesOpenRows.lease_eq {test : AssignmentRow → Bool}
    {change : AssignmentRow → AssignmentRow} {owned : AssignmentRow → Bool} {ending : Ending}
    (closes : ClosesOpenRows test change owned ending) (row : AssignmentRow) :
    (if test row then change row else row).lease =
      if owned row then row.lease.close ending else row.lease := by
  obtain ⟨time, closedAt⟩ := Option.isSome_iff_exists.mp (closes.closed row)
  have reasonIff := closes.reason_eq row
  cases unassigned : row.unassignedAt <;> cases mine : owned row <;> cases ending <;>
    simp_all [closes.test_eq, closes.agent_eq, AssignmentRow.lease, Lease.close]

namespace Store

/-- The leases of one task, in the order of the rows. -/
def leases (store : Store) (taskId : Int) : List (Lease String) :=
  (store.taskAssignments.filter fun row => decide (row.taskId = taskId)).map AssignmentRow.lease

/-- The ledger that the tables represent. -/
def ledger (store : Store) : Ledger Int String where
  state taskId := (store.task taskId).map TaskRow.state
  assignee taskId := (store.task taskId).bind TaskRow.assignedAgent
  exitCode taskId := (store.task taskId).bind TaskRow.exitCode
  leases := store.leases
  status agentId := (store.agent agentId).map AgentRow.status

theorem ledger_empty : empty.ledger = Ledger.empty :=
  rfl

section Projections

variable (store : Store)

theorem ledger_state (taskId : Int) :
    store.ledger.state taskId = (store.task taskId).map TaskRow.state :=
  rfl

theorem ledger_assignee (taskId : Int) :
    store.ledger.assignee taskId = (store.task taskId).bind TaskRow.assignedAgent :=
  rfl

theorem ledger_exitCode (taskId : Int) :
    store.ledger.exitCode taskId = (store.task taskId).bind TaskRow.exitCode :=
  rfl

theorem ledger_status (agentId : String) :
    store.ledger.status agentId = (store.agent agentId).map AgentRow.status :=
  rfl

theorem state_of_task {store : Store} {taskId : Int} {row : TaskRow}
    (found : store.task taskId = some row) : store.ledger.state taskId = some row.state := by
  simp [ledger, found]

theorem assignee_of_task {store : Store} {taskId : Int} {row : TaskRow}
    (found : store.task taskId = some row) :
    store.ledger.assignee taskId = row.assignedAgent := by
  simp [ledger, found]

theorem exists_task_of_state {store : Store} {taskId : Int} {state : TaskState}
    (held : store.ledger.state taskId = some state) :
    ∃ row, store.task taskId = some row ∧ row.state = state := by
  simpa [ledger] using held

theorem status_of_agent {store : Store} {agentId : String} {row : AgentRow}
    (found : store.agent agentId = some row) :
    store.ledger.status agentId = some row.status := by
  simp [ledger, found]

/-- The open holders of a task are the agents of its rows without `unassigned_at`. -/
theorem mem_openHolders (taskId : Int) (agentId : String) :
    agentId ∈ Lease.openHolders (store.ledger.leases taskId) ↔
      ∃ row ∈ store.taskAssignments, row.taskId = taskId ∧ row.agentId = agentId ∧
        row.unassignedAt = none := by
  simp only [Lease.openHolders, ledger, leases, List.mem_map, List.mem_filter, AssignmentRow.lease]
  constructor
  · rintro ⟨lease, ⟨⟨row, ⟨member, sameTask⟩, rfl⟩, stillOpen⟩, rfl⟩
    exact ⟨row, member, by simpa using sameTask, rfl, by simpa using stillOpen⟩
  · rintro ⟨row, member, sameTask, rfl, stillOpen⟩
    exact ⟨_, ⟨⟨row, ⟨member, by simpa using sameTask⟩, rfl⟩, by simp [stillOpen]⟩, rfl⟩

/-- The number of open rows of a task. -/
theorem length_openHolders (taskId : Int) :
    (Lease.openHolders (store.ledger.leases taskId)).length =
      store.taskAssignments.countP fun row =>
        decide (row.taskId = taskId) && row.unassignedAt.isNone := by
  simp only [Lease.openHolders, ledger, leases, List.length_map, List.filter_map,
    List.filter_filter, List.countP_eq_length_filter]
  congr 1
  apply List.filter_congr
  intro row _
  cases unassigned : row.unassignedAt <;> simp [AssignmentRow.lease, unassigned]

end Projections

/-! ## Updates of rows as changes of the ledger -/

section Updates

variable {store : Store}

/-- A change that keeps every status is not visible. -/
theorem ledger_updateAgent_quiet (agentId : String) (change : AgentRow → AgentRow)
    (keeps : ∀ row, (change row).agentId = row.agentId)
    (statusEq : ∀ row, (change row).status = row.status) :
    (store.updateAgent agentId change keeps).ledger = store.ledger := by
  ext1
  · rfl
  · rfl
  · rfl
  · rfl
  · funext other
    simp only [ledger, agent_updateAgent]
    split
    · rename_i same
      subst same
      cases store.agent other <;> simp [statusEq]
    · rfl

theorem ledger_updateAgent {agentId : String} {row : AgentRow} {status : AgentStatus}
    (found : store.agent agentId = some row) (change : AgentRow → AgentRow)
    (keeps : ∀ row, (change row).agentId = row.agentId)
    (statusEq : ∀ row, (change row).status = status) :
    (store.updateAgent agentId change keeps).ledger =
      store.ledger.step (.setStatus agentId status) := by
  ext1
  · rfl
  · rfl
  · rfl
  · rfl
  · funext other
    by_cases same : other = agentId
    · subst same
      simp [ledger, Ledger.step, found, statusEq]
    · simp [ledger, Ledger.step, same]

theorem ledger_upsertAgent (row : AgentRow) (change : AgentRow → AgentRow)
    (keeps : ∀ row, (change row).agentId = row.agentId)
    (statusEq : ∀ old, (change old).status = row.status) :
    (store.upsertAgent row change keeps).ledger =
      store.ledger.step (.setStatus row.agentId row.status) := by
  have taskEq : ∀ taskId,
      (store.upsertAgent row change keeps).task taskId = store.task taskId := by
    intro taskId
    simp [task]
  ext1
  · funext taskId
    simp [ledger, Ledger.step, taskEq]
  · funext taskId
    simp [ledger, Ledger.step, taskEq]
  · funext taskId
    simp [ledger, Ledger.step, taskEq]
  · funext taskId
    simp [ledger, Ledger.step, leases]
  · funext other
    by_cases same : other = row.agentId
    · subst same
      cases found : store.agent row.agentId <;>
        simp [ledger, Ledger.step, agent_upsertAgent, found, statusEq]
    · simp [ledger, Ledger.step, agent_upsertAgent, same]

theorem ledger_insertTask (row : TaskRow) (fresh : store.task row.taskId = none)
    (bounds : 0 < row.taskId ∧ row.taskId ≤ store.taskSeq) (queued : row.state = .queued)
    (unassigned : row.assignedAgent = none) (noExitCode : row.exitCode = none) :
    (store.insertTask row fresh bounds).ledger = store.ledger.step (.create row.taskId) := by
  have taskEq : ∀ taskId, (store.insertTask row fresh bounds).task taskId =
      if taskId = row.taskId then some row else store.task taskId := by
    intro taskId
    simp [@eq_comm _ row.taskId]
  ext1
  · funext taskId
    by_cases same : taskId = row.taskId <;> simp [ledger, Ledger.step, taskEq, same, queued]
  · funext taskId
    by_cases same : taskId = row.taskId <;> simp [ledger, Ledger.step, taskEq, same, unassigned]
  · funext taskId
    by_cases same : taskId = row.taskId <;> simp [ledger, Ledger.step, taskEq, same, noExitCode]
  · rfl
  · rfl

/-- Start a task for an agent and open its assignment row. -/
theorem ledger_assign {taskId : Int} {row : TaskRow} (found : store.task taskId = some row)
    (change : TaskRow → TaskRow) (keeps : ∀ row, (change row).taskId = row.taskId)
    (agentId : String) (assignedAt : Time) (running : ∀ row, (change row).state = .running)
    (assigned : ∀ row, (change row).assignedAgent = some agentId)
    (exitCodeEq : ∀ row, (change row).exitCode = row.exitCode) :
    ((store.updateTask taskId change keeps).insertAssignment
        { taskId := taskId, agentId := agentId, assignedAt := assignedAt }).ledger =
      store.ledger.step (.claim agentId taskId) := by
  ext1
  · funext other
    by_cases same : other = taskId
    · subst same
      simp [ledger, Ledger.step, found, running]
    · simp [ledger, Ledger.step, same]
  · funext other
    by_cases same : other = taskId
    · subst same
      simp [ledger, Ledger.step, found, assigned]
    · simp [ledger, Ledger.step, same]
  · funext other
    by_cases same : other = taskId
    · subst same
      simp [ledger, Ledger.step, found, exitCodeEq]
    · simp [ledger, Ledger.step, same]
  · funext other
    by_cases same : other = taskId
    · subst same
      simp [ledger, Ledger.step, leases, insertAssignment, AssignmentRow.lease]
    · simp [ledger, Ledger.step, leases, insertAssignment, same, Ne.symm same]
  · rfl

/-- Write a state and an exit code to a task, leaving its assignee. -/
theorem ledger_updateTask {taskId : Int} {row : TaskRow} (found : store.task taskId = some row)
    (change : TaskRow → TaskRow) (keeps : ∀ row, (change row).taskId = row.taskId)
    {state : TaskState} {exitCode : Option Int} (stateEq : ∀ row, (change row).state = state)
    (assigneeEq : ∀ row, (change row).assignedAgent = row.assignedAgent)
    (exitCodeEq : ∀ row, (change row).exitCode = exitCode.or row.exitCode) :
    (store.updateTask taskId change keeps).ledger =
      { store.ledger with
        state := Function.update store.ledger.state taskId (some state)
        exitCode := Function.update store.ledger.exitCode taskId
          (exitCode.or (store.ledger.exitCode taskId)) } := by
  ext1
  · funext other
    by_cases same : other = taskId
    · subst same
      simp [ledger, found, stateEq]
    · simp [ledger, same]
  · funext other
    by_cases same : other = taskId
    · subst same
      simp [ledger, found, assigneeEq]
    · simp [ledger, same]
  · funext other
    by_cases same : other = taskId
    · subst same
      simp [ledger, found, exitCodeEq]
    · simp [ledger, same]
  · rfl
  · rfl

/-- Close the open rows of a task. -/
theorem leases_closeTask (store : Store) {test : AssignmentRow → Bool}
    {change : AssignmentRow → AssignmentRow}
    {taskId : Int} (closes : ClosesOpenRows test change (fun row => decide (row.taskId = taskId))
      .taskOver) :
    (store.updateAssignments test change).leases =
      Function.update store.leases taskId ((store.leases taskId).map (Lease.close .taskOver)) := by
  funext other
  simp only [leases, updateAssignments, List.filter_map, Function.comp_def, closes.sameTask,
    List.map_map, closes.lease_eq]
  by_cases same : other = taskId
  · subst same
    rw [Function.update_self]
    apply List.map_congr_left
    intro row member
    have rowTask : row.taskId = other := by simpa using (List.mem_filter.mp member).2
    simp [rowTask]
  · rw [Function.update_of_ne same]
    apply List.map_congr_left
    intro row member
    have rowTask : row.taskId = other := by simpa using (List.mem_filter.mp member).2
    simp [rowTask, same]

/-- Close the open rows of an agent. -/
theorem leases_closeAgent (store : Store) {test : AssignmentRow → Bool}
    {change : AssignmentRow → AssignmentRow}
    {agentId : String}
    (closes : ClosesOpenRows test change (fun row => decide (row.agentId = agentId))
      .agentOffline) :
    (store.updateAssignments test change).leases = fun taskId =>
      (store.leases taskId).map (Lease.closeHeldBy agentId) := by
  funext taskId
  simp only [leases, updateAssignments, List.filter_map, Function.comp_def, closes.sameTask,
    List.map_map, closes.lease_eq]
  apply List.map_congr_left
  intro row _
  by_cases same : row.agentId = agentId <;>
    simp [Lease.closeHeldBy, AssignmentRow.lease, same]

/-- A report that leaves the task unfinished. -/
theorem ledger_report {taskId : Int} {row : TaskRow} (found : store.task taskId = some row)
    (change : TaskRow → TaskRow) (keeps : ∀ row, (change row).taskId = row.taskId)
    {state : TaskState} {exitCode : Option Int} (stateEq : ∀ row, (change row).state = state)
    (assigneeEq : ∀ row, (change row).assignedAgent = row.assignedAgent)
    (exitCodeEq : ∀ row, (change row).exitCode = exitCode.or row.exitCode)
    (unfinished : state.terminal = false) :
    (store.updateTask taskId change keeps).ledger =
      store.ledger.step (.report taskId state exitCode) := by
  rw [ledger_updateTask found change keeps stateEq assigneeEq exitCodeEq]
  simp [Ledger.step, unfinished]

/-- A report that finishes the task also closes its rows. -/
theorem ledger_finalReport {taskId : Int} {row : TaskRow}
    (found : store.task taskId = some row) (change : TaskRow → TaskRow)
    (keeps : ∀ row, (change row).taskId = row.taskId) {state : TaskState}
    {exitCode : Option Int} (stateEq : ∀ row, (change row).state = state)
    (assigneeEq : ∀ row, (change row).assignedAgent = row.assignedAgent)
    (exitCodeEq : ∀ row, (change row).exitCode = exitCode.or row.exitCode)
    (finished : state.terminal = true)
    {test : AssignmentRow → Bool} {unassign : AssignmentRow → AssignmentRow}
    (closes : ClosesOpenRows test unassign (fun row => decide (row.taskId = taskId))
      .taskOver) :
    ((store.updateTask taskId change keeps).updateAssignments test unassign).ledger =
      store.ledger.step (.report taskId state exitCode) := by
  have written := ledger_updateTask found change keeps stateEq assigneeEq exitCodeEq
  have ended := leases_closeTask (store.updateTask taskId change keeps) closes
  have split : ((store.updateTask taskId change keeps).updateAssignments test unassign).ledger =
      { (store.updateTask taskId change keeps).ledger with
        leases := ((store.updateTask taskId change keeps).updateAssignments test unassign).leases } :=
    rfl
  rw [split, written, ended]
  simp only [Ledger.step, finished, if_true]
  rfl

/-- The three updates of the sweep for one agent. -/
theorem ledger_expire {agentId : String} {row : AgentRow}
    (found : store.agent agentId = some row) (offline : AgentRow → AgentRow)
    (keepsAgent : ∀ row, (offline row).agentId = row.agentId)
    (statusEq : ∀ row, (offline row).status = .offline)
    {test : AssignmentRow → Bool} {unassign : AssignmentRow → AssignmentRow}
    (closes : ClosesOpenRows test unassign (fun row => decide (row.agentId = agentId))
      .agentOffline)
    {active : TaskRow → Bool} (requeue : TaskRow → TaskRow)
    (keeps : ∀ row, (requeue row).taskId = row.taskId)
    (activeIff : ∀ row, active row = true ↔ row.assignedAgent = some agentId ∧
      (row.state = .running ∨ row.state = .queued))
    (stateEq : ∀ row, (requeue row).state = .queued)
    (assigneeEq : ∀ row, (requeue row).assignedAgent = none)
    (exitCodeEq : ∀ row, (requeue row).exitCode = row.exitCode) :
    (((store.updateAgent agentId offline keepsAgent).updateAssignments test
        unassign).updateTasks active requeue keeps).ledger =
      store.ledger.step (.expire agentId) := by
  have holdsIff : ∀ taskId row, store.task taskId = some row →
      (active row = true ↔ store.ledger.Holds agentId taskId) := by
    intro taskId row taskFound
    simp [activeIff, Ledger.Holds, ledger_state, ledger_assignee, taskFound]
  have released : ∀ taskId, store.task taskId = none → ¬ store.ledger.Holds agentId taskId := by
    intro taskId absent
    simp [Ledger.Holds, ledger_state, ledger_assignee, absent]
  have statusOf := ledger_updateAgent found offline keepsAgent statusEq
  have ended := leases_closeAgent (store.updateAgent agentId offline keepsAgent) closes
  ext1
  · funext taskId
    cases taskFound : store.task taskId with
    | none => simp [ledger_state, Ledger.step, taskFound, released taskId taskFound]
    | some taskRow =>
        have iff := holdsIff taskId taskRow taskFound
        by_cases held : active taskRow = true
        · simp [ledger_state, Ledger.step, taskFound, held, stateEq, iff.mp held]
        · simp [ledger_state, Ledger.step, taskFound, held, mt iff.mpr held]
  · funext taskId
    cases taskFound : store.task taskId with
    | none => simp [ledger_assignee, Ledger.step, taskFound, released taskId taskFound]
    | some taskRow =>
        have iff := holdsIff taskId taskRow taskFound
        by_cases held : active taskRow = true
        · simp [ledger_assignee, Ledger.step, taskFound, held, assigneeEq, iff.mp held]
        · simp [ledger_assignee, Ledger.step, taskFound, held, mt iff.mpr held]
  · funext taskId
    cases taskFound : store.task taskId with
    | none => simp [ledger_exitCode, Ledger.step, taskFound]
    | some taskRow =>
        by_cases held : active taskRow = true <;>
          simp [ledger_exitCode, Ledger.step, taskFound, held, exitCodeEq]
  · exact ended
  · have statuses := congrArg Ledger.status statusOf
    exact statuses

end Updates

end Store

end DistributedComputing
