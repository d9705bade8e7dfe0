import DistributedComputing.PollSelection

/-!
# Constraint integers that do not fit

`ParseTaskCreate` accepts integers of any size as constraints.  PostgreSQL fails when it
casts one that does not fit in 32 bits, and the Mongo broker keeps what is left of it
modulo `2 ^ 32`.
-/

namespace DistributedComputing

open TransitionRuns

/-- An input that `ParseTaskCreate` accepts. -/
def TaskInput.Accepted (task : TaskInput) : Prop :=
  ∃ body, Api.parseTaskCreate body = .ok task

/-- The agent has what the constraints of the task ask for. -/
structure Provisioned (agent : AgentRow) (row : TaskRow) : Prop where
  cpuCores : ∀ cores ∈ row.constraints.integerMember "cpu_cores", cores ≤ agent.resourcesCpuCores
  ramMb : ∀ ram ∈ row.constraints.integerMember "ram_mb", ram ≤ agent.resourcesRamMb

/-- The poll returns, and hands out no task that asks for more than the agent has. -/
def PollIsSound (deployment : Deployment) (store : Store) (agent : AgentRow)
    (attempts : List Attempt) (freeSlots : Int) : Prop :=
  ∃ sent after,
    deployment.broker.pollTasksForAgent attempts agent.agentId freeSlots store =
        (.ok (some sent), after) ∧
      ∀ dispatch ∈ sent, ∃ row, store.task dispatch.taskId = some row ∧ Provisioned agent row

/-- The task is one that a poll of the agent looks at the integers of. -/
structure Considered (agent : AgentRow) (row : TaskRow) : Prop where
  queued : row.state = .queued
  unassigned : row.assignedAgent = none
  os : ∀ os ∈ row.constraints.stringMember "os", os = agent.os

/-- The integers of a task do no harm to the polls of the agent.  PostgreSQL casts the
second only if the first is small enough. -/
def Deployment.Harmless (deployment : Deployment) (agent : AgentRow) (row : TaskRow) : Prop :=
  match deployment with
  | pgsql _ =>
      (∀ cores ∈ row.constraints.integerMember "cpu_cores", FitsInt cores) ∧
        ((∀ cores ∈ row.constraints.integerMember "cpu_cores",
            cores ≤ agent.resourcesCpuCores) →
          ∀ ram ∈ row.constraints.integerMember "ram_mb", FitsInt ram)
  | mongo | mongoStandalone =>
      (∀ cores ∈ row.constraints.integerMember "cpu_cores",
          toInt32 cores ≤ agent.resourcesCpuCores) →
        (∀ ram ∈ row.constraints.integerMember "ram_mb",
          toInt32 ram ≤ agent.resourcesRamMb) →
        Provisioned agent row

namespace PgBroker

theorem withinBound_ok_iff (bound : Int) (held : Option Int) :
    (∃ result, withinBound bound held = .ok result) ↔ ∀ value ∈ held, FitsInt value := by
  cases held with
  | none => simp [withinBound]
  | some value =>
      simp only [withinBound, castInt, Option.mem_some_iff, forall_eq', FitsInt]
      split
      · rename_i inRange
        exact iff_of_true ⟨_, rfl⟩ inRange
      · rename_i outside
        refine iff_of_false ?_ outside
        rintro ⟨result, ⟨⟩⟩

theorem withinBound_true {bound : Int} {held : Option Int}
    (within : withinBound bound held = .ok true) : ∀ value ∈ held, value ≤ bound := by
  cases held with
  | none => simp
  | some value =>
      intro other isValue
      cases isValue
      unfold withinBound castInt at within
      dsimp only at within
      split at within
      · exact of_decide_eq_true (Except.ok.inj within)
      · cases within

theorem withinBound_false {bound : Int} {held : Option Int}
    (beyond : withinBound bound held = .ok false) : ¬ ∀ value ∈ held, value ≤ bound := by
  cases held with
  | none => cases beyond
  | some value =>
      intro within
      unfold withinBound castInt at beyond
      dsimp only at beyond
      split at beyond
      · exact of_decide_eq_false (Except.ok.inj beyond) (within value rfl)
      · cases beyond

/-- The condition of the query evaluates for the rows whose integers it can cast. -/
theorem fits_ok_iff (timestamptz : Time → String → Option Time) (agent : AgentRow)
    (row : TaskRow) :
    (∃ result, fits agent row = .ok result) ↔
      (Considered agent row → (Deployment.pgsql timestamptz).Harmless agent row) := by
  unfold fits
  split
  · rename_i considered
    have isConsidered : Considered agent row :=
      ⟨considered.1, considered.2.1, (all_decide_iff _ _).mp considered.2.2⟩
    have cast := withinBound_ok_iff agent.resourcesCpuCores
      (row.constraints.integerMember "cpu_cores")
    have castToo := withinBound_ok_iff agent.resourcesRamMb
      (row.constraints.integerMember "ram_mb")
    simp only [isConsidered, true_implies, Deployment.Harmless, ← cast, ← castToo]
    cases tested : withinBound agent.resourcesCpuCores
        (row.constraints.integerMember "cpu_cores") with
    | error error => simp [bind, Except.bind]
    | ok passes =>
        cases passes with
        | true =>
            have within := withinBound_true tested
            constructor
            · rintro ⟨result, returned⟩
              exact ⟨⟨true, rfl⟩, fun _ => ⟨result, returned⟩⟩
            · rintro ⟨_, second⟩
              exact second within
        | false =>
            have beyond := withinBound_false tested
            exact iff_of_true ⟨false, rfl⟩ ⟨⟨false, rfl⟩, fun within => absurd within beyond⟩
  · rename_i skipped
    refine iff_of_true ⟨false, rfl⟩ ?_
    intro considered
    refine absurd ⟨considered.queued, considered.unassigned, ?_⟩ skipped
    exact (all_decide_iff _ _).mpr considered.os

theorem provisioned_of_fits {agent : AgentRow} {row : TaskRow}
    (fitting : fits agent row = .ok true) : Provisioned agent row := by
  unfold fits at fitting
  split at fitting
  · obtain ⟨passes, tested, rest⟩ := exists_of_bind_eq_ok fitting
    cases passes with
    | true => exact ⟨withinBound_true tested, withinBound_true rest⟩
    | false => cases rest
  · cases fitting

theorem selectWhere_ok_iff (condition : TaskRow → Except DbError Bool) (rows : List TaskRow) :
    (∃ chosen, selectWhere condition rows = .ok chosen) ↔
      ∀ row ∈ rows, ∃ result, condition row = .ok result := by
  induction rows with
  | nil => simp [selectWhere]
  | cons row rows ih =>
      rw [List.forall_mem_cons, ← ih]
      constructor
      · rintro ⟨chosen, selected⟩
        obtain ⟨passes, tested, rest⟩ := exists_of_bind_eq_ok selected
        obtain ⟨others, selectedToo, _⟩ := exists_of_bind_eq_ok rest
        exact ⟨⟨passes, tested⟩, others, selectedToo⟩
      · rintro ⟨⟨passes, tested⟩, others, selected⟩
        refine ⟨if passes then row :: others else others, ?_⟩
        rw [selectWhere, tested, selected]
        rfl

end PgBroker

namespace Deployment

/-- The filter of the Mongo broker compares the copies, which are narrowed to `int`. -/
theorem CreatedFrom.matches_iff {deployment : Deployment} {task : TaskInput} {row : TaskRow}
    (created : deployment.CreatedFrom task row) (onMongo : deployment.OnMongo)
    (agent : AgentRow) :
    (MongoBroker.candidateFilter agent).matches row = true ↔
      Considered agent row ∧
        (∀ cores ∈ row.constraints.integerMember "cpu_cores",
          toInt32 cores ≤ agent.resourcesCpuCores) ∧
        ∀ ram ∈ row.constraints.integerMember "ram_mb", toInt32 ram ≤ agent.resourcesRamMb := by
  obtain ⟨os, cpuCores, ramMb⟩ := created.copies_eq onMongo
  simp only [MongoBroker.candidateFilter, TaskFilter.matches, os, cpuCores, ramMb,
    Option.all_none, Option.all_some, List.mem_singleton, Bool.true_and, Bool.and_eq_true,
    decide_eq_true_eq, all_decide_iff, Option.mem_map, forall_exists_index, and_imp,
    forall_apply_eq_imp_iff₂]
  constructor
  · rintro ⟨⟨⟨⟨queued, unassigned⟩, os⟩, cpuCores⟩, ramMb⟩
    exact ⟨⟨queued, unassigned, os⟩, cpuCores, ramMb⟩
  · rintro ⟨⟨queued, unassigned, os⟩, cpuCores, ramMb⟩
    exact ⟨⟨⟨⟨queued, unassigned⟩, os⟩, cpuCores⟩, ramMb⟩

/-- The query selects rows, and all of them are within what the agent has. -/
theorem fitting_provisioned_iff {deployment : Deployment} {accepted : TaskInput → Prop}
    {store : Store} (created : deployment.CreatedWith accepted store) (agent : AgentRow) :
    (∃ rows, deployment.fitting agent store.tasks.rows = .ok rows ∧
        ∀ row ∈ rows, Provisioned agent row) ↔
      ∀ row ∈ store.tasks.rows, Considered agent row → deployment.Harmless agent row := by
  have onMongo : deployment.OnMongo →
      ((∀ row ∈ store.tasks.rows.filter (MongoBroker.candidateFilter agent).matches,
          Provisioned agent row) ↔
        ∀ row ∈ store.tasks.rows, Considered agent row → deployment.Harmless agent row) := by
    intro onMongo
    have isHarmless : deployment.Harmless agent = mongo.Harmless agent := by
      rcases onMongo.eq_or with rfl | rfl <;> rfl
    simp only [List.mem_filter, and_imp]
    apply forall₂_congr
    intro row member
    obtain ⟨task, _, fromTask⟩ := created row member
    rw [fromTask.matches_iff onMongo agent, isHarmless]
    constructor
    · intro sound considered cpuCores ramMb
      exact sound ⟨considered, cpuCores, ramMb⟩
    · rintro harmless ⟨considered, cpuCores, ramMb⟩
      exact harmless considered cpuCores ramMb
  cases deployment with
  | pgsql timestamptz =>
      simp only [← PgBroker.fits_ok_iff timestamptz, ← PgBroker.selectWhere_ok_iff, fitting]
      constructor
      · rintro ⟨rows, selected, _⟩
        exact ⟨rows, selected⟩
      · rintro ⟨rows, selected⟩
        refine ⟨rows, selected, fun row member => ?_⟩
        exact PgBroker.provisioned_of_fits ((PgBroker.selectWhere_subset selected).2 row member)
  | mongo => simpa [fitting] using onMongo trivial
  | mongoStandalone => simpa [fitting] using onMongo trivial

/-- A query that fails ends the pass. -/
theorem pollTasksForAgentPass_of_fitting_error {deployment : Deployment} {store : Store}
    {agentId : String} {agent : AgentRow} (registered : store.agent agentId = some agent)
    {freeSlots : Int} (offered : 0 < freeSlots) {error : DbError}
    (failed : deployment.fitting agent store.tasks.rows = .error error) (attempt : Attempt) :
    deployment.pollTasksForAgentPass agentId freeSlots attempt store = (.error error, store) := by
  have some : ¬ freeSlots ≤ 0 := by omega
  let polled := store.updateAgent agentId (fun row => { row with lastHeartbeat := attempt.now })
    (agentId_polledRow attempt)
  have failedToo : deployment.fitting agent polled.tasks.rows = .error error := failed
  unfold pollTasksForAgentPass
  simp only [registered, some, if_false]
  rw [failedToo]

/-- All rows, when the limit is large enough. -/
theorem mem_oldest {rank : Int → Nat} {rows : List TaskRow} {row : TaskRow} :
    row ∈ oldest rank (rows.length + 1) rows ↔ row ∈ rows := by
  have long : (rows.insertionSort (OldestFirst rank)).length ≤ (rows.length + 1 : Int).toNat := by
    rw [List.length_insertionSort]
    omega
  rw [oldest, List.take_of_length_le long, List.mem_insertionSort]

end Deployment

/-- For every store whose tasks came in through `CreateTask`. -/
theorem polls_are_sound_iff (deployment : Deployment) {store : Store}
    (created : deployment.CreatedWith TaskInput.Accepted store) {agent : AgentRow}
    (registered : store.agent agent.agentId = some agent) :
    (∀ attempts freeSlots, deployment.Healthy attempts → 0 < freeSlots →
        PollIsSound deployment store agent attempts freeSlots) ↔
      ∀ row ∈ store.tasks.rows, Considered agent row → deployment.Harmless agent row := by
  have loop := deployment.pollTasksForAgentLoop agent.agentId
  rw [← Deployment.fitting_provisioned_iff created agent]
  constructor
  · intro sound
    have healthy := deployment.healthy_calmAttempt 0
    cases selected : deployment.fitting agent store.tasks.rows with
    | error error =>
        obtain ⟨sent, after, returned, _⟩ := sound _ 1 healthy one_pos
        obtain ⟨attempt, _, answered⟩ := (loop 1).exists_pass healthy
          fun _ _ _ raised => deployment.pollTasksForAgentPass_error raised
        have failed := Deployment.pollTasksForAgentPass_of_fitting_error registered one_pos
          selected attempt
        cases deployment with
        | pgsql timestamptz =>
            have raised := answered.trans failed
            rw [returned] at raised
            cases raised
        | mongo => cases selected
        | mongoStandalone => cases selected
    | ok rows =>
        refine ⟨rows, rfl, fun row member => ?_⟩
        obtain ⟨after, passed, _⟩ := Deployment.pollTasksForAgentPass_of_fitting registered
          (by omega : (0 : Int) < rows.length + 1) selected (deployment.calmAttempt 0)
        have answered := (loop _).first_returns
          (healthy.attempt _ (List.mem_singleton.mpr rfl)) [] passed
        obtain ⟨sent, afterToo, returned, provisioned⟩ :=
          sound _ (rows.length + 1 : Int) healthy (by omega)
        have isSent : sent = (oldest (deployment.calmAttempt 0).rank (rows.length + 1) rows).map
            deployment.taskDispatch := by
          rw [answered] at returned
          cases returned
          rfl
        obtain ⟨held, found, within⟩ := provisioned (deployment.taskDispatch row)
          (isSent ▸ List.mem_map_of_mem (Deployment.mem_oldest.mpr member))
        have inTable := (deployment.mem_of_fitting selected member).1
        have isRow : store.task row.taskId = some row := KeyedTable.lookup_of_mem inTable
        rw [deployment.taskId_taskDispatch, isRow] at found
        cases found
        exact within
  · rintro ⟨rows, selected, provisioned⟩ attempts freeSlots healthy offered
    obtain ⟨attempt, spare, rfl⟩ := List.exists_cons_of_ne_nil healthy.nonempty
    obtain ⟨after, passed, _⟩ :=
      Deployment.pollTasksForAgentPass_of_fitting registered offered selected attempt
    refine ⟨_, after, (loop freeSlots).first_returns
      (healthy.attempt attempt (List.mem_cons_self ..)) spare passed, ?_⟩
    intro dispatch member
    obtain ⟨row, chosen, rfl⟩ := List.mem_map.mp member
    have among := mem_of_mem_oldest chosen
    refine ⟨row, ?_, provisioned row among⟩
    rw [deployment.taskId_taskDispatch]
    exact KeyedTable.lookup_of_mem (deployment.mem_of_fitting selected among).1

/-- An agent with four cores registers, and a task arrives that asks for so many cores. -/
def coresWanted (deployment : Deployment) (cores : Int) : List MasterStep :=
  [.calm deployment 0 (AgentClient.registerAgent
      { agentId := "agent-1", os := "linux", version := "dev", cpuCores := 4, ramMb := 1024 }),
    .calm deployment 1000 (.createTask (.json (.object
      [("command", .string "true"), ("constraints", .object [("cpu_cores", .integer cores)])])))]

def storeWithCoresWanted (deployment : Deployment) (cores : Int) : Store :=
  run (masterStep deployment {}) Store.empty (coresWanted deployment cores)

def fourCores : AgentRow where
  agentId := "agent-1"
  os := "linux"
  version := "dev"
  resourcesCpuCores := 4
  resourcesRamMb := 1024
  resourcesSlots := 1
  status := .idle
  lastHeartbeat := 0

theorem storeWithCoresWanted_created (deployment : Deployment) (cores : Int) :
    deployment.CreatedWith TaskInput.Accepted (storeWithCoresWanted deployment cores) := by
  have empty := Deployment.CreatedWith.empty deployment TaskInput.Accepted
  have atomic := MasterStep.atomic_calm deployment
  apply masterRun_createdWith {} empty
  · simp only [coresWanted, List.forall_mem_cons, List.not_mem_nil, false_implies, implies_true,
      and_true]
    exact ⟨atomic _ _, atomic _ _⟩
  · simp only [coresWanted, List.forall_mem_cons, List.not_mem_nil, false_implies, implies_true,
      and_true]
    refine ⟨trivial, fun task parsed => ?_⟩
    obtain ⟨body, accepted⟩ := ControlService.parseBody_ok parsed
    exact ⟨body, accepted⟩

theorem polls_are_sound_iff_twoCores :
    PollIsSound .mongo (storeWithCoresWanted .mongo 2) fourCores
      [Deployment.calmAttempt .mongo 2000] 1 := by
  refine (polls_are_sound_iff .mongo (storeWithCoresWanted_created .mongo 2) (by decide)).mpr ?_ _ 1
    (Deployment.healthy_calmAttempt .mongo 2000) one_pos
  intro row member considered _ _
  have isRow := List.mem_singleton.mp member
  subst isRow
  constructor
  · rintro cores ⟨⟩
    decide
  · rintro ram ⟨⟩

/-- A task that asks for `2 ^ 32 + 1` cores makes the polls of PostgreSQL fail, and is handed
to an agent with four cores by the Mongo broker. -/
theorem oversized_constraint_breaks_polls :
    let pg := Deployment.pgsql fun _ _ => none
    ¬ PollIsSound pg (storeWithCoresWanted pg 4294967297) fourCores [pg.calmAttempt 2000] 1 ∧
      ¬ PollIsSound .mongo (storeWithCoresWanted .mongo 4294967297) fourCores
        [Deployment.calmAttempt .mongo 2000] 1 := by
  constructor
  · rintro ⟨sent, after, returned, _⟩
    cases returned
  · rintro ⟨sent, after, returned, provisioned⟩
    have sentIds : ((Deployment.mongo.broker.pollTasksForAgent
        [Deployment.calmAttempt .mongo 2000] "agent-1" 1
          (storeWithCoresWanted .mongo 4294967297)).1.toOption.join.map
            fun sent => sent.map TaskDispatch.taskId) = some [1] := by decide
    have wanted : ((storeWithCoresWanted .mongo 4294967297).task 1).map (fun row =>
        row.constraints.integerMember "cpu_cores") = some (some 4294967297) := by decide
    rw [show fourCores.agentId = "agent-1" from rfl] at returned
    rw [returned] at sentIds
    have isSent : sent.map TaskDispatch.taskId = [1] := Option.some.inj sentIds
    obtain ⟨dispatch, member, isTask⟩ := List.mem_map.mp (isSent ▸ List.mem_singleton.mpr rfl)
    obtain ⟨row, found, within⟩ := provisioned dispatch member
    rw [isTask] at found
    rw [found] at wanted
    exact absurd (within.cpuCores 4294967297 (Option.some.inj wanted)) (by decide)

end DistributedComputing
