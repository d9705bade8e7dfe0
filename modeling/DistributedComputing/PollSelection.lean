import DistributedComputing.CreatedTasks
import DistributedComputing.RequestFrames

/-!
# What a poll hands out

A poll of a registered agent hands out the oldest tasks whose constraints the agent
satisfies, as many as it has free slots, and changes nothing beyond that.
-/

namespace DistributedComputing

open TransitionRuns

/-- The integers among the constraints of the submission fit in 32 bits. -/
def TaskInput.WithinInt (task : TaskInput) : Prop :=
  ∀ name ∈ ["cpu_cores", "ram_mb"], ∀ value,
    task.constraints.integerMember name = some value → FitsInt value

/-- The task waits for an agent, and this agent satisfies every constraint that it has. -/
structure Eligible (agent : AgentRow) (row : TaskRow) : Prop where
  queued : row.state = .queued
  unassigned : row.assignedAgent = none
  os : ∀ os ∈ row.constraints.stringMember "os", os = agent.os
  cpuCores : ∀ cores ∈ row.constraints.integerMember "cpu_cores", cores ≤ agent.resourcesCpuCores
  ramMb : ∀ ram ∈ row.constraints.integerMember "ram_mb", ram ≤ agent.resourcesRamMb

theorem all_decide_iff {Value : Type} (held : Option Value) (test : Value → Prop)
    [DecidablePred test] :
    held.all (fun value => decide (test value)) = true ↔ ∀ value ∈ held, test value := by
  cases held <;> simp

theorem map_toInt32_of_fits {held : Option Int}
    (fits : ∀ value, held = some value → FitsInt value) :
    held.map toInt32 = held := by
  cases held with
  | none => rfl
  | some value => exact congrArg some (toInt32_of_bounds (fits value rfl).1 (fits value rfl).2)

/-- The filter of the Mongo broker, on the document of the row. -/
theorem matches_document_iff (agent : AgentRow) (row : TaskRow) :
    (MongoBroker.candidateFilter agent).matches row.document = true ↔ Eligible agent row := by
  simp only [MongoBroker.candidateFilter, TaskFilter.matches, TaskRow.document, Option.all_none,
    Option.all_some, List.mem_singleton, Bool.true_and, Bool.and_eq_true, decide_eq_true_eq,
    all_decide_iff]
  constructor
  · rintro ⟨⟨⟨⟨queued, unassigned⟩, os⟩, cpuCores⟩, ramMb⟩
    exact ⟨queued, of_decide_eq_true unassigned, os, cpuCores, ramMb⟩
  · rintro ⟨queued, unassigned, os, cpuCores, ramMb⟩
    exact ⟨⟨⟨⟨queued, decide_eq_true unassigned⟩, os⟩, cpuCores⟩, ramMb⟩

instance (agent : AgentRow) (row : TaskRow) : Decidable (Eligible agent row) :=
  decidable_of_iff _ (matches_document_iff agent row)

instance (rank : Int → Nat) : IsTrans TaskRow (OldestFirst rank) where
  trans := by
    intro first second third earlier later
    rcases earlier with before | ⟨tie, ranked⟩
    · rcases later with beforeToo | ⟨tieToo, _⟩
      · exact .inl (lt_trans before beforeToo)
      · exact .inl (tieToo ▸ before)
    · rcases later with before | ⟨tieToo, rankedToo⟩
      · exact .inl (tie ▸ before)
      · exact .inr ⟨tie.trans tieToo, ranked.trans rankedToo⟩

instance (rank : Int → Nat) : Std.Total (OldestFirst rank) where
  total := by
    intro first second
    rcases lt_trichotomy first.createdAt second.createdAt with before | tie | after
    · exact .inl (.inl before)
    · rcases le_total (rank first.taskId) (rank second.taskId) with ranked | ranked
      · exact .inl (.inr ⟨tie, ranked⟩)
      · exact .inr (.inr ⟨tie.symm, ranked⟩)
    · exact .inr (.inl after)

namespace Deployment

section Selection

variable {deployment : Deployment} {task : TaskInput} {row : TaskRow}
  (created : deployment.CreatedFrom task row) (small : task.WithinInt)

include created small

theorem CreatedFrom.castable : Castable row.constraints := by
  rw [created.constraints_eq]
  exact castable_normalizeConstraints small

/-- The copies of small integers say what the constraints say. -/
theorem CreatedFrom.document_eq (onMongo : deployment.OnMongo) : row.document = row := by
  have castable := created.castable small
  obtain ⟨os, cpuCores, ramMb⟩ := created.copies_eq onMongo
  rw [map_toInt32_of_fits castable.cpuCores] at cpuCores
  rw [map_toInt32_of_fits castable.ramMb] at ramMb
  unfold TaskRow.document
  rw [← os, ← cpuCores, ← ramMb]

end Selection

/-- Either broker selects the eligible tasks. -/
theorem fitting_eq_eligible {deployment : Deployment} {store : Store}
    (created : deployment.CreatedWith TaskInput.WithinInt store) (agent : AgentRow) :
    deployment.fitting agent store.tasks.rows =
      .ok (store.tasks.rows.filter fun row => decide (Eligible agent row)) := by
  have onMongo : deployment.OnMongo →
      store.tasks.rows.filter (MongoBroker.candidateFilter agent).matches =
        store.tasks.rows.filter fun row => decide (Eligible agent row) := by
    intro onMongo
    apply List.filter_congr
    intro row member
    obtain ⟨task, small, fromTask⟩ := created row member
    have matched := matches_document_iff agent row
    rw [fromTask.document_eq small onMongo] at matched
    rw [Bool.eq_iff_iff, matched, decide_eq_true_iff]
  cases deployment with
  | pgsql timestamptz =>
      have castable : ∀ row ∈ store.tasks.rows, Castable row.constraints := by
        intro row member
        obtain ⟨task, small, fromTask⟩ := created row member
        exact fromTask.castable small
      rw [fitting, selectWhere_eq_filter agent castable]
      congr 1
      apply List.filter_congr
      intro row _
      rw [Bool.eq_iff_iff, matches_document_iff, decide_eq_true_iff]
  | mongo => exact congrArg Except.ok (onMongo trivial)
  | mongoStandalone => exact congrArg Except.ok (onMongo trivial)

/-! ## The tables after a poll -/

/-- The poll claimed these tasks for the agent, noted that it was heard, and did no more. -/
structure PolledTables (now : Time) (agentId : String) (chosen : List TaskRow)
    (before after : Store) : Prop where
  tasks : after.tasks.rows = before.tasks.rows.map fun row =>
    if row.taskId ∈ chosen.map TaskRow.taskId then assignedRow now agentId row else row
  taskAssignments : after.taskAssignments = before.taskAssignments ++ chosen.map fun row =>
    { taskId := row.taskId, agentId := agentId, assignedAt := now }
  agents : after.agents.rows = before.agents.rows.map fun row =>
    if row.agentId = agentId then
      { row with lastHeartbeat := now, status := if chosen.isEmpty then .idle else .busy }
    else row
  taskSeq : after.taskSeq = before.taskSeq

theorem tasks_foldl_assign (now : Time) (agentId : String) (taskIds : List Int) (store : Store) :
    (taskIds.foldl (assign now agentId) store).tasks.rows = store.tasks.rows.map fun row =>
      if row.taskId ∈ taskIds then assignedRow now agentId row else row := by
  induction taskIds generalizing store with
  | nil => simp
  | cons taskId taskIds ih =>
      rw [List.foldl_cons, ih]
      simp only [assign, Store.insertAssignment, Store.updateTask, Store.updateTasks,
        KeyedTable.updateWhere, List.map_map]
      apply List.map_congr_left
      intro row _
      by_cases same : row.taskId = taskId
      · by_cases again : taskId ∈ taskIds <;> simp [same, again, assignedRow]
      · simp [same]

theorem taskAssignments_foldl_assign (now : Time) (agentId : String) (taskIds : List Int)
    (store : Store) :
    (taskIds.foldl (assign now agentId) store).taskAssignments =
      store.taskAssignments ++ taskIds.map fun taskId =>
        { taskId := taskId, agentId := agentId, assignedAt := now } := by
  induction taskIds generalizing store with
  | nil => simp
  | cons taskId taskIds ih =>
      rw [List.foldl_cons, ih]
      simp [assign, Store.insertAssignment, Store.updateTask, Store.updateTasks]

theorem agents_foldl_assign (now : Time) (agentId : String) (taskIds : List Int) (store : Store) :
    (taskIds.foldl (assign now agentId) store).agents = store.agents := by
  induction taskIds generalizing store with
  | nil => rfl
  | cons taskId taskIds ih => exact ih _

theorem taskSeq_foldl_assign (now : Time) (agentId : String) (taskIds : List Int)
    (store : Store) : (taskIds.foldl (assign now agentId) store).taskSeq = store.taskSeq := by
  induction taskIds generalizing store with
  | nil => rfl
  | cons taskId taskIds ih => exact ih _

/-- What a pass that selected these rows returns and leaves. -/
theorem pollTasksForAgentPass_of_fitting {deployment : Deployment} {store : Store}
    {agentId : String} {agent : AgentRow} (registered : store.agent agentId = some agent)
    {freeSlots : Int} (offered : 0 < freeSlots) {rows : List TaskRow}
    (selected : deployment.fitting agent store.tasks.rows = .ok rows) (attempt : Attempt) :
    let chosen := oldest attempt.rank freeSlots rows
    ∃ after, deployment.pollTasksForAgentPass agentId freeSlots attempt store =
        (.ok (some (chosen.map deployment.taskDispatch)), after) ∧
      PolledTables attempt.now agentId chosen store after := by
  intro chosen
  let polled := store.updateAgent agentId (fun row => { row with lastHeartbeat := attempt.now })
    (agentId_polledRow attempt)
  let claimed := (chosen.map TaskRow.taskId).foldl (assign attempt.now agentId) polled
  refine ⟨claimed.updateAgent agentId
    (fun row => { row with status := if chosen.isEmpty then .idle else .busy })
    (agentId_occupiedRow chosen), ?_, ?_⟩
  · have some : ¬ freeSlots ≤ 0 := by omega
    unfold pollTasksForAgentPass
    simp only [registered, some, if_false]
    have selectedToo : deployment.fitting agent polled.tasks.rows = .ok rows := selected
    rw [selectedToo]
  · constructor
    · exact tasks_foldl_assign attempt.now agentId (chosen.map TaskRow.taskId) polled
    · have rows := taskAssignments_foldl_assign attempt.now agentId (chosen.map TaskRow.taskId)
        polled
      rw [List.map_map] at rows
      exact rows
    · have sameAgents : claimed.agents = polled.agents :=
        agents_foldl_assign attempt.now agentId (chosen.map TaskRow.taskId) polled
      simp only [Store.updateAgent, sameAgents, polled, KeyedTable.updateAt,
        KeyedTable.updateWhere, List.map_map]
      apply List.map_congr_left
      intro row _
      by_cases same : row.agentId = agentId <;> simp [same]
    · exact taskSeq_foldl_assign attempt.now agentId (chosen.map TaskRow.taskId) polled

end Deployment

/-- For every store whose tasks came in through `CreateTask`. -/
theorem polls_hand_out_oldest_eligible (deployment : Deployment) {store : Store}
    (created : deployment.CreatedWith TaskInput.WithinInt store) {agentId : String}
    {agent : AgentRow} (registered : store.agent agentId = some agent) {attempt : Attempt}
    (healthy : deployment.HealthyAttempt attempt) (spare : List Attempt) (freeSlots : Int) :
    (0 < freeSlots →
      ∃ (queue : List TaskRow) (after : Store),
        queue.Perm (store.tasks.rows.filter fun row => decide (Eligible agent row)) ∧
          queue.Pairwise (fun first second => first.createdAt ≤ second.createdAt) ∧
          let chosen := queue.take (min freeSlots.toNat queue.length)
          deployment.broker.pollTasksForAgent (attempt :: spare) agentId freeSlots store =
              (.ok (some (chosen.map deployment.taskDispatch)), after) ∧
            Deployment.PolledTables attempt.now agentId chosen store after) ∧
      (freeSlots ≤ 0 →
        deployment.broker.pollTasksForAgent (attempt :: spare) agentId freeSlots store =
          (.ok (some []), store.updateAgent agentId
            (fun row => { row with lastHeartbeat := attempt.now })
            (Deployment.agentId_polledRow attempt))) := by
  have loop := deployment.pollTasksForAgentLoop agentId freeSlots
  constructor
  · intro offered
    have selected := Deployment.fitting_eq_eligible created agent
    obtain ⟨after, returned, polled⟩ :=
      Deployment.pollTasksForAgentPass_of_fitting registered offered selected attempt
    let eligible := store.tasks.rows.filter fun row => decide (Eligible agent row)
    have sorted := List.pairwise_insertionSort (OldestFirst attempt.rank) eligible
    refine ⟨eligible.insertionSort (OldestFirst attempt.rank), after,
      List.perm_insertionSort _ eligible, ?_, ?_⟩
    · apply sorted.imp
      intro first second inOrder
      rcases inOrder with before | ⟨tie, _⟩
      · exact le_of_lt before
      · exact le_of_eq tie
    · intro chosen
      have isOldest : chosen = oldest attempt.rank freeSlots eligible := by
        exact List.take_eq_take_min.symm
      rw [isOldest]
      exact ⟨loop.first_returns healthy spare returned, polled⟩
  · intro noneFree
    apply loop.first_returns healthy spare
    unfold Deployment.pollTasksForAgentPass
    simp only [registered, noneFree, if_true]

/-- An agent registers, and two tasks arrive of which it can run the second only. -/
def twoWaiting (deployment : Deployment) : List MasterStep :=
  [.calm deployment 0 (AgentClient.registerAgent
      { agentId := "agent-1", os := "linux", version := "dev", cpuCores := 4, ramMb := 1024 }),
    .calm deployment 1000 (.createTask (.json (.object
      [("command", .string "true"),
        ("constraints", .object [("cpu_cores", .integer 8)])]))),
    .calm deployment 2000 (.createTask (.json (.object
      [("command", .string "true"),
        ("constraints", .object [("cpu_cores", .integer 2), ("os", .string "linux")])])))]

theorem twoWaiting_atomic (deployment : Deployment) :
    ∀ step ∈ twoWaiting deployment, step.Atomic deployment := by
  intro step member
  simp only [twoWaiting, List.mem_cons, List.not_mem_nil, or_false] at member
  rcases member with rfl | rfl | rfl <;> exact MasterStep.atomic_calm deployment _ _

theorem twoWaiting_creates (deployment : Deployment) :
    ∀ step ∈ twoWaiting deployment, step.Creates TaskInput.WithinInt := by
  simp only [twoWaiting, List.forall_mem_cons, List.not_mem_nil, false_implies, implies_true,
    and_true]
  refine ⟨trivial, ?_, ?_⟩ <;>
  · intro task parsed name known value held
    cases parsed
    simp only [List.mem_cons, List.not_mem_nil, or_false] at known
    rcases known with rfl | rfl
    · cases held
      exact ⟨by decide, by decide⟩
    · cases held

theorem polls_hand_out_oldest_eligible_twoWaiting :
    let deployment := Deployment.mongo
    let store := run (masterStep deployment {}) Store.empty (twoWaiting deployment)
    ∃ sent after,
      deployment.broker.pollTasksForAgent [deployment.calmAttempt 3000] "agent-1" 5 store =
          (.ok (some sent), after) ∧
        sent.map TaskDispatch.taskId = [2] := by
  intro deployment store
  have created : deployment.CreatedWith TaskInput.WithinInt store :=
    masterRun_createdWith {} (Deployment.CreatedWith.empty deployment TaskInput.WithinInt)
      (twoWaiting_atomic deployment) (twoWaiting_creates deployment)
  let agent : AgentRow :=
    { agentId := "agent-1", os := "linux", version := "dev", resourcesCpuCores := 4,
      resourcesRamMb := 1024, resourcesSlots := 1, status := .idle, lastHeartbeat := 0 }
  have registered : store.agent "agent-1" = some agent := by decide
  have healthy : deployment.HealthyAttempt (deployment.calmAttempt 3000) := ⟨rfl, rfl⟩
  obtain ⟨queue, after, sameTasks, _, returned, _⟩ :=
    (polls_hand_out_oldest_eligible deployment created registered healthy [] 5).1 (by decide)
  refine ⟨_, after, returned, ?_⟩
  have eligible : (store.tasks.rows.filter fun row => decide (Eligible agent row)).map
      TaskRow.taskId = [2] := by decide
  have single := sameTasks.map TaskRow.taskId
  rw [eligible, List.perm_singleton] at single
  have length : queue.length = 1 := by simpa using congrArg List.length single
  rw [List.map_map, length, List.take_of_length_le (by omega)]
  exact single

end DistributedComputing
