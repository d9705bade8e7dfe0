import DistributedComputing.AssignmentRaces
import DistributedComputing.AtomicFailures

/-!
# What a sweep does

The sweep takes the stale agents offline, returns what they hold to the queue and closes
the assignments that they have open.  Where rows and tasks are consistent, these are the
assignments of the tasks that it returns.
-/

namespace DistributedComputing

open TransitionRuns

/-- The task waits or runs and is assigned to one of the agents. -/
def TaskRow.HeldBy (agentIds : List String) (row : TaskRow) : Prop :=
  (∃ agentId ∈ agentIds, row.assignedAgent = some agentId) ∧
    (row.state = .running ∨ row.state = .queued)

instance (agentIds : List String) (row : TaskRow) : Decidable (row.HeldBy agentIds) :=
  inferInstanceAs (Decidable (_ ∧ _))

theorem TaskRow.heldBy_cons {agentId : String} {agentIds : List String} {row : TaskRow} :
    row.HeldBy (agentId :: agentIds) ↔
      (row.assignedAgent = some agentId ∧ (row.state = .running ∨ row.state = .queued)) ∨
        row.HeldBy agentIds := by
  simp only [HeldBy, List.mem_cons, or_and_right, exists_or, exists_eq_left]

namespace Store

/-- The tasks that the agents hold. -/
def tasksHeldBy (store : Store) (agentIds : List String) : List Int :=
  (store.tasks.rows.filter fun row => decide (row.HeldBy agentIds)).map TaskRow.taskId

/-- The assignment rows that were closed are the open ones that pass the test. -/
def ClosesExactly (time : Time) (test : AssignmentRow → Bool) (before after : Store) : Prop :=
  after.taskAssignments = before.taskAssignments.map fun row =>
    if test row && row.unassignedAt.isNone then
      { row with unassignedAt := some time, reason := some "agent_offline" }
    else row

theorem mem_tasksHeldBy {store : Store} {agentIds : List String} {taskId : Int} :
    taskId ∈ store.tasksHeldBy agentIds ↔
      ∃ row, store.task taskId = some row ∧ row.HeldBy agentIds := by
  simp only [tasksHeldBy, List.mem_map, List.mem_filter, decide_eq_true_eq]
  constructor
  · rintro ⟨row, ⟨member, held⟩, rfl⟩
    exact ⟨row, KeyedTable.lookup_of_mem member, held⟩
  · rintro ⟨row, found, held⟩
    exact ⟨row, ⟨KeyedTable.mem_of_lookup found, held⟩, KeyedTable.key_of_lookup found⟩

theorem ClosesExactly.congr {time : Time} {test other : AssignmentRow → Bool}
    {before after : Store} (closes : ClosesExactly time test before after)
    (same : ∀ row ∈ before.taskAssignments, row.unassignedAt = none → test row = other row) :
    ClosesExactly time other before after := by
  rw [ClosesExactly, closes]
  apply List.map_congr_left
  intro row member
  cases isOpen : row.unassignedAt with
  | none => rw [same row member isOpen]
  | some time => simp

end Store

namespace Deployment

variable (deployment : Deployment)

/-- The sweep took these agents offline and returned their tasks, and did no more to agents
and tasks. -/
structure SweptTables (agentIds : List String) (before after : Store) : Prop where
  agents : after.agents.rows = before.agents.rows.map fun row =>
    if row.agentId ∈ agentIds then { row with status := .offline } else row
  tasks : after.tasks.rows = before.tasks.rows.map fun row =>
    if row.HeldBy agentIds then deployment.requeuedRow row else row
  taskSeq : after.taskSeq = before.taskSeq

theorem requeuedRow_eq (row : TaskRow) :
    ∃ message, deployment.requeuedRow row =
      { row with
        state := .queued
        assignedAgent := none
        startedAt := none
        errorMessage := some message } := by
  have noted : ∃ message, deployment.requeuedMessage row.errorMessage = some message := by
    cases deployment with
    | pgsql timestamptz => cases held : row.errorMessage <;> simp [requeuedMessage]
    | mongo => exact ⟨_, rfl⟩
    | mongoStandalone => exact ⟨_, rfl⟩
  obtain ⟨message, isNoted⟩ := noted
  exact ⟨message, by rw [requeuedRow, isNoted]⟩

/-- A task that was returned waits in its old place, with a message. -/
theorem SweptTables.task_of_heldBy {deployment : Deployment} {agentIds : List String}
    {before after : Store} (swept : deployment.SweptTables agentIds before after) {taskId : Int}
    {row : TaskRow} (found : before.task taskId = some row) (held : row.HeldBy agentIds) :
    ∃ message, after.task taskId = some
      { row with
        state := .queued
        assignedAgent := none
        startedAt := none
        errorMessage := some message } := by
  obtain ⟨message, isRequeued⟩ := deployment.requeuedRow_eq row
  have member : deployment.requeuedRow row ∈ after.tasks.rows := by
    rw [swept.tasks, List.mem_map]
    exact ⟨row, KeyedTable.mem_of_lookup found, if_pos held⟩
  have stored := KeyedTable.lookup_of_mem member
  rw [taskId_requeuedRow, KeyedTable.key_of_lookup found, isRequeued] at stored
  exact ⟨message, stored⟩

theorem swept_foldl_takeOffline (time : Time) (agentIds : List String) (store : Store) :
    let after := agentIds.foldl (deployment.takeOffline time) store
    deployment.SweptTables agentIds store after ∧
      Store.ClosesExactly time (fun row => decide (row.agentId ∈ agentIds)) store after := by
  induction agentIds generalizing store with
  | nil =>
      refine ⟨⟨?_, ?_, rfl⟩, ?_⟩
      · simp
      · simp [TaskRow.HeldBy]
      · simp [Store.ClosesExactly]
  | cons agentId agentIds ih =>
      obtain ⟨⟨agents, tasks, taskSeq⟩, closes⟩ := ih (deployment.takeOffline time store agentId)
      refine ⟨⟨?_, ?_, ?_⟩, ?_⟩
      · rw [List.foldl_cons, agents]
        simp only [takeOffline, Store.updateTasks, Store.updateAssignments, Store.updateAgent,
          KeyedTable.updateAt, KeyedTable.updateWhere, List.map_map]
        apply List.map_congr_left
        intro row _
        by_cases first : row.agentId = agentId
        · by_cases again : agentId ∈ agentIds <;> simp [first, again]
        · simp [first]
      · rw [List.foldl_cons, tasks]
        simp only [takeOffline, Store.updateTasks, Store.updateAssignments, Store.updateAgent,
          KeyedTable.updateWhere, List.map_map]
        apply List.map_congr_left
        intro row _
        have notHeld : ¬ (deployment.requeuedRow row).HeldBy agentIds := by
          rintro ⟨⟨other, _, assigned⟩, _⟩
          cases assigned
        simp only [Function.comp_apply, TaskRow.heldBy_cons, Bool.and_eq_true, Bool.or_eq_true,
          decide_eq_true_eq]
        by_cases first : row.assignedAgent = some agentId ∧
            (row.state = .running ∨ row.state = .queued)
        · simp [first, notHeld]
        · simp [first]
      · exact taskSeq
      · rw [Store.ClosesExactly, List.foldl_cons, closes]
        simp only [takeOffline, Store.updateTasks, Store.updateAssignments, Store.updateAgent,
          List.map_map]
        apply List.map_congr_left
        intro row _
        cases isOpen : row.unassignedAt with
        | some other => simp [isOpen]
        | none =>
            by_cases first : row.agentId = agentId
            · simp [first, isOpen]
            · simp [first, isOpen]

end Deployment

/-! ## Rows and tasks -/

/-- The open rows of the agents are the open rows of the tasks that they hold. -/
theorem Ledger.Consistent.heldBy_iff {store : Store} (consistent : store.ledger.Consistent)
    (agentIds : List String) {row : AssignmentRow} (member : row ∈ store.taskAssignments)
    (isOpen : row.unassignedAt = none) :
    row.agentId ∈ agentIds ↔ row.taskId ∈ store.tasksHeldBy agentIds := by
  obtain ⟨task, found, running, assigned⟩ :=
    (consistent.openRow_iff row.taskId row.agentId).mp ⟨row, member, ⟨rfl, isOpen⟩, rfl⟩
  rw [Store.mem_tasksHeldBy]
  constructor
  · intro among
    exact ⟨task, found, ⟨row.agentId, among, assigned⟩, .inl running⟩
  · rintro ⟨other, otherFound, ⟨agentId, among, otherAssigned⟩, _⟩
    rw [found] at otherFound
    cases otherFound
    rw [assigned] at otherAssigned
    cases otherAssigned
    exact among

/-- Requests and sweeps whose attempts fail whole lead from empty tables to the store. -/
def Deployment.Reaches (deployment : Deployment) (store : Store) : Prop :=
  ∃ config steps, (∀ step ∈ steps, MasterStep.Atomic deployment step) ∧
    store = run (masterStep deployment config) Store.empty steps

theorem Deployment.Reaches.consistent {deployment : Deployment} {store : Store}
    (reaches : deployment.Reaches store) : store.ledger.Consistent := by
  obtain ⟨config, steps, atomic, rfl⟩ := reaches
  have empty : Store.empty.ledger.Consistent := Ledger.empty_consistent
  exact masterRun_consistent_of_atomic config empty atomic

/-- After a sweep no agent is stale. -/
theorem staleAgents_of_swept {deployment : Deployment} {now : Time} {offlineAfterSec : Int}
    {before after : Store}
    (swept : deployment.SweptTables (before.staleAgents now offlineAfterSec) before after) :
    after.staleAgents now offlineAfterSec = [] := by
  unfold Store.staleAgents
  rw [List.map_eq_nil_iff, List.filter_eq_nil_iff, swept.agents]
  intro row member stale
  obtain ⟨old, oldMember, rfl⟩ := List.mem_map.mp member
  split at stale
  · simp at stale
  · rename_i fresh
    exact fresh (List.mem_map_of_mem (List.mem_filter.mpr ⟨oldMember, stale⟩))

theorem sweeps_do_their_job (deployment : Deployment) (store : Store) (offlineAfterSec : Int)
    {attempt : Attempt} (healthy : deployment.HealthyAttempt attempt) (spare : List Attempt) :
    let agentIds := store.staleAgents attempt.now offlineAfterSec
    ∃ after,
      deployment.broker.markOfflineAgentsAndRequeue (attempt :: spare) offlineAfterSec store =
          (.ok agentIds.length, after) ∧
        deployment.SweptTables agentIds store after ∧
        (∀ taskId row, store.task taskId = some row → row.HeldBy agentIds →
          ∃ message, after.task taskId = some
            { row with
              state := .queued
              assignedAgent := none
              startedAt := none
              errorMessage := some message }) ∧
        Store.ClosesExactly (deployment.sweepTime attempt)
          (fun row => decide (row.agentId ∈ agentIds)) store after ∧
        (deployment.Reaches store →
          Store.ClosesExactly (deployment.sweepTime attempt)
            (fun row => decide (row.taskId ∈ store.tasksHeldBy agentIds)) store after) ∧
        ∀ again, deployment.HealthyAttempt again → again.now = attempt.now → ∀ spareAgain,
          deployment.broker.markOfflineAgentsAndRequeue (again :: spareAgain) offlineAfterSec
            after = (.ok 0, after) := by
  intro agentIds
  have loop := deployment.markOfflineAgentsAndRequeueLoop offlineAfterSec
  let after := agentIds.foldl (deployment.takeOffline (deployment.sweepTime attempt)) store
  obtain ⟨swept, closes⟩ :=
    deployment.swept_foldl_takeOffline (deployment.sweepTime attempt) agentIds store
  refine ⟨after, loop.first_returns healthy spare rfl, swept,
    fun _ _ found held => swept.task_of_heldBy found held, closes, ?_, ?_⟩
  · intro reaches
    apply closes.congr
    intro row member isOpen
    have same := reaches.consistent.heldBy_iff agentIds member isOpen
    simp only [same]
  · intro again healthyAgain sameNow spareAgain
    apply loop.first_returns healthyAgain spareAgain
    have none : after.staleAgents again.now offlineAfterSec = [] := by
      rw [sameNow]
      exact staleAgents_of_swept swept
    simp only [Deployment.markOfflineAgentsAndRequeuePass, none]
    rfl

theorem sweeps_do_their_job_firstPoll :
    let store := run (masterStep .mongo {}) Store.empty (firstPoll .mongo)
    ∃ after,
      mongoBroker.markOfflineAgentsAndRequeue [Deployment.calmAttempt .mongo 500000] 120 store =
          (.ok 1, after) ∧
        ∃ message, (after.task 1).map (fun row => (row.state, row.createdAt, row.errorMessage)) =
          some (.queued, 1000, some message) := by
  intro store
  obtain ⟨after, returned, _, requeues, _⟩ := sweeps_do_their_job .mongo store 120
    (⟨rfl, rfl⟩ : Deployment.HealthyAttempt .mongo (Deployment.calmAttempt .mongo 500000)) []
  obtain ⟨message, waits⟩ := requeues 1 _ rfl ⟨⟨"agent-1", List.mem_singleton_self _, rfl⟩, .inl rfl⟩
  exact ⟨after, returned, message, congrArg _ waits⟩

/-- A cancel came between the claim of a poll and its insert.  Both are over, the canceled task
has an open row, and the sweep closes it although it does not return the task. -/
theorem sweep_closes_row_of_canceled_task :
    let pool := callRun pollAndCancel oneWaiting cancelBetween
    let sweep := mongoBroker.markOfflineAgentsAndRequeue
      [Deployment.calmAttempt .mongoStandalone 500000] 120 pool.state
    (∀ thread, ¬ pool.Running thread) ∧ sweep.1.toOption = some 1 ∧
      ¬ Store.ClosesExactly 500000 (fun row =>
        decide (row.taskId ∈ pool.state.tasksHeldBy (pool.state.staleAgents 500000 120)))
          pool.state sweep.2 := by
  intro pool sweep
  refine ⟨?_, rfl, ?_⟩
  · rintro thread ⟨request, next, found⟩
    rcases thread with _ | _ | thread <;> cases found
  · unfold Store.ClosesExactly
    decide

end DistributedComputing
