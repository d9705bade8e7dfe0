import DistributedComputing.BrokerLists

/-!
# Tables and collections that say the same

MongoDB holds every row of PostgreSQL as a document, with copies of the constraints beside
their text.  Writes that treat a row and its document alike keep the two databases so.
-/

namespace DistributedComputing

open Store

/-- A value of an `INTEGER` column. -/
def FitsInt (value : Int) : Prop :=
  -2 ^ 31 ≤ value ∧ value < 2 ^ 31

/-- Constraints as both brokers store them, with integers that PostgreSQL can cast. -/
structure Castable (constraints : Json) : Prop where
  normalized : normalizeConstraints constraints = constraints
  cpuCores : ∀ value, constraints.integerMember "cpu_cores" = some value → FitsInt value
  ramMb : ∀ value, constraints.integerMember "ram_mb" = some value → FitsInt value

theorem castable_normalizeConstraints {constraints : Json}
    (fits : ∀ name ∈ ["cpu_cores", "ram_mb"], ∀ value,
      constraints.integerMember name = some value → FitsInt value) :
    Castable (normalizeConstraints constraints) := by
  refine ⟨Json.normalizeConstraints_normalizeConstraints constraints, ?_, ?_⟩
  · intro value held
    rw [Json.integerMember_normalizeConstraints constraints (.inl rfl)] at held
    exact fits "cpu_cores" (by simp) value held
  · intro value held
    rw [Json.integerMember_normalizeConstraints constraints (.inr rfl)] at held
    exact fits "ram_mb" (by simp) value held

/-- The document that the Mongo broker keeps for a row. -/
def TaskRow.document (row : TaskRow) : TaskRow :=
  { row with
    constraintsOs := row.constraints.stringMember "os"
    constraintsCpuCores := row.constraints.integerMember "cpu_cores"
    constraintsRamMb := row.constraints.integerMember "ram_mb" }

/-- The times of a task are not before 1970, where the brokers round them differently. -/
structure TaskRow.SinceEpoch (row : TaskRow) : Prop where
  createdAt : 0 ≤ row.createdAt
  startedAt : ∀ time, row.startedAt = some time → (0 : Int) ≤ time
  finishedAt : ∀ time, row.finishedAt = some time → (0 : Int) ≤ time

/-- Both databases say the same; the histories of assignments, which no call shows, aside. -/
structure Mirrors (pg mongo : Store) : Prop where
  agents : mongo.agents = pg.agents
  tasks : mongo.tasks.rows = pg.tasks.rows.map TaskRow.document
  taskSeq : mongo.taskSeq = pg.taskSeq
  castable : ∀ row ∈ pg.tasks.rows, Castable row.constraints
  distinct : (pg.tasks.rows.map TaskRow.createdAt).Nodup
  agentTimes : ∀ row ∈ pg.agents.rows, 0 ≤ row.lastHeartbeat
  taskTimes : ∀ row ∈ pg.tasks.rows, row.SinceEpoch

namespace Mirrors

theorem empty : Mirrors Store.empty Store.empty where
  agents := rfl
  tasks := rfl
  taskSeq := rfl
  castable := by
    intro row member
    cases member
  distinct := List.nodup_nil
  agentTimes := by
    intro row member
    cases member
  taskTimes := by
    intro row member
    cases member

variable {pg mongo : Store} (mirrors : Mirrors pg mongo)

include mirrors

theorem agent (agentId : String) : mongo.agent agentId = pg.agent agentId := by
  unfold Store.agent
  rw [mirrors.agents]

theorem task (taskId : Int) :
    mongo.task taskId = (pg.task taskId).map TaskRow.document := by
  unfold Store.task KeyedTable.lookup
  rw [mirrors.tasks, List.find?_map]
  rfl

theorem castable_of_task {taskId : Int} {row : TaskRow} (found : pg.task taskId = some row) :
    Castable row.constraints :=
  mirrors.castable row (KeyedTable.mem_of_lookup found)

theorem sinceEpoch_of_task {taskId : Int} {row : TaskRow} (found : pg.task taskId = some row) :
    row.SinceEpoch :=
  mirrors.taskTimes row (KeyedTable.mem_of_lookup found)

/-- Writes to the histories alone. -/
theorem of_sameTables {pgAfter mongoAfter : Store} (agents : pgAfter.agents = pg.agents)
    (tasks : pgAfter.tasks = pg.tasks) (taskSeq : pgAfter.taskSeq = pg.taskSeq)
    (agentsToo : mongoAfter.agents = mongo.agents) (tasksToo : mongoAfter.tasks = mongo.tasks)
    (taskSeqToo : mongoAfter.taskSeq = mongo.taskSeq) : Mirrors pgAfter mongoAfter where
  agents := by rw [agents, agentsToo, mirrors.agents]
  tasks := by rw [tasks, tasksToo, mirrors.tasks]
  taskSeq := by rw [taskSeq, taskSeqToo, mirrors.taskSeq]
  castable := by
    rw [tasks]
    exact mirrors.castable
  distinct := by
    rw [tasks]
    exact mirrors.distinct
  agentTimes := by
    rw [agents]
    exact mirrors.agentTimes
  taskTimes := by
    rw [tasks]
    exact mirrors.taskTimes

/-! ## Writes to the agents -/

theorem updateAgent (agentId : String) (change : AgentRow → AgentRow)
    (keeps : ∀ row, (change row).agentId = row.agentId)
    (times : ∀ row, 0 ≤ row.lastHeartbeat → 0 ≤ (change row).lastHeartbeat) :
    Mirrors (pg.updateAgent agentId change keeps) (mongo.updateAgent agentId change keeps) where
  agents := congrArg (fun table => KeyedTable.updateAt table agentId change keeps) mirrors.agents
  tasks := mirrors.tasks
  taskSeq := mirrors.taskSeq
  castable := mirrors.castable
  distinct := mirrors.distinct
  agentTimes := by
    intro row member
    obtain ⟨old, oldMember, rfl⟩ := List.mem_map.mp member
    split
    · exact times old (mirrors.agentTimes old oldMember)
    · exact mirrors.agentTimes old oldMember
  taskTimes := mirrors.taskTimes

theorem upsertAgent (row : AgentRow) (change : AgentRow → AgentRow)
    (keeps : ∀ row, (change row).agentId = row.agentId) (time : 0 ≤ row.lastHeartbeat)
    (times : ∀ row, 0 ≤ row.lastHeartbeat → 0 ≤ (change row).lastHeartbeat) :
    Mirrors (pg.upsertAgent row change keeps) (mongo.upsertAgent row change keeps) := by
  have agents := mirrors.agents
  unfold Store.upsertAgent
  by_cases fresh : pg.agents.lookup row.agentId = none
  · have freshToo : mongo.agents.lookup row.agentId = none := by rw [agents, fresh]
    rw [dif_pos fresh, dif_pos freshToo]
    refine ⟨?_, mirrors.tasks, mirrors.taskSeq, mirrors.castable, mirrors.distinct, ?_,
      mirrors.taskTimes⟩
    · apply KeyedTable.ext
      exact congrArg (fun table : KeyedTable AgentRow.agentId => table.rows ++ [row]) agents
    · intro other member
      rcases List.mem_append.mp member with old | new
      · exact mirrors.agentTimes other old
      · rw [List.mem_singleton.mp new]
        exact time
  · have presentToo : ¬ mongo.agents.lookup row.agentId = none := by rwa [agents]
    rw [dif_neg fresh, dif_neg presentToo]
    exact mirrors.updateAgent row.agentId change keeps times

/-! ## Writes to the tasks -/

/-- A change of rows and the same change of their documents. -/
theorem updateTasks {pgTest mongoTest : TaskRow → Bool} {pgChange mongoChange : TaskRow → TaskRow}
    {pgKeeps : ∀ row, (pgChange row).taskId = row.taskId}
    {mongoKeeps : ∀ row, (mongoChange row).taskId = row.taskId}
    (sameTest : ∀ row, mongoTest row.document = pgTest row)
    (sameChange : ∀ row ∈ pg.tasks.rows, pgTest row = true →
      mongoChange row.document = (pgChange row).document)
    (constraints : ∀ row, (pgChange row).constraints = row.constraints)
    (createdAt : ∀ row, (pgChange row).createdAt = row.createdAt)
    (times : ∀ row, row.SinceEpoch → (pgChange row).SinceEpoch) :
    Mirrors (pg.updateTasks pgTest pgChange pgKeeps)
      (mongo.updateTasks mongoTest mongoChange mongoKeeps) where
  agents := mirrors.agents
  tasks := by
    have changed :
        (mongo.tasks.rows.map fun row => if mongoTest row then mongoChange row else row) =
          (pg.tasks.rows.map fun row => if pgTest row then pgChange row else row).map
            TaskRow.document := by
      rw [mirrors.tasks, List.map_map, List.map_map]
      apply List.map_congr_left
      intro row member
      simp only [Function.comp_apply, sameTest]
      split
      · rename_i passes
        exact sameChange row member passes
      · rfl
    exact changed
  taskSeq := mirrors.taskSeq
  castable := by
    intro row member
    obtain ⟨old, oldMember, rfl⟩ := List.mem_map.mp member
    split
    · rw [constraints]
      exact mirrors.castable old oldMember
    · exact mirrors.castable old oldMember
  distinct := by
    have sameTimes : (pg.tasks.rows.map fun row => if pgTest row then pgChange row else row).map
        TaskRow.createdAt = pg.tasks.rows.map TaskRow.createdAt := by
      rw [List.map_map]
      apply List.map_congr_left
      intro row _
      simp only [Function.comp_apply]
      split
      · exact createdAt row
      · rfl
    have distinct := mirrors.distinct
    rw [← sameTimes] at distinct
    exact distinct
  agentTimes := mirrors.agentTimes
  taskTimes := by
    intro row member
    obtain ⟨old, oldMember, rfl⟩ := List.mem_map.mp member
    split
    · exact times old (mirrors.taskTimes old oldMember)
    · exact mirrors.taskTimes old oldMember

theorem updateTask {taskId : Int} {pgChange mongoChange : TaskRow → TaskRow}
    {pgKeeps : ∀ row, (pgChange row).taskId = row.taskId}
    {mongoKeeps : ∀ row, (mongoChange row).taskId = row.taskId}
    (sameChange : ∀ row, pg.task taskId = some row →
      mongoChange row.document = (pgChange row).document)
    (constraints : ∀ row, (pgChange row).constraints = row.constraints)
    (createdAt : ∀ row, (pgChange row).createdAt = row.createdAt)
    (times : ∀ row, row.SinceEpoch → (pgChange row).SinceEpoch) :
    Mirrors (pg.updateTask taskId pgChange pgKeeps)
      (mongo.updateTask taskId mongoChange mongoKeeps) := by
  refine mirrors.updateTasks (fun _ => rfl) ?_ constraints createdAt times
  intro row member isTask
  apply sameChange row
  rw [← of_decide_eq_true isTask]
  exact KeyedTable.lookup_of_mem member

theorem advanceTaskSeq {taskSeq : Int} (bounds : pg.taskSeq ≤ taskSeq ∧ taskSeq ≤ maxTaskId)
    (boundsToo : mongo.taskSeq ≤ taskSeq ∧ taskSeq ≤ maxTaskId) :
    Mirrors (pg.advanceTaskSeq taskSeq bounds) (mongo.advanceTaskSeq taskSeq boundsToo) where
  agents := mirrors.agents
  tasks := mirrors.tasks
  taskSeq := rfl
  castable := mirrors.castable
  distinct := mirrors.distinct
  agentTimes := mirrors.agentTimes
  taskTimes := mirrors.taskTimes

/-- A new task with a time of its own. -/
theorem insertTask {row document : TaskRow} (isDocument : document = row.document)
    (castable : Castable row.constraints) (times : row.SinceEpoch)
    (fresh : pg.task row.taskId = none) (bounds : 0 < row.taskId ∧ row.taskId ≤ pg.taskSeq)
    (freshToo : mongo.task document.taskId = none)
    (boundsToo : 0 < document.taskId ∧ document.taskId ≤ mongo.taskSeq)
    (ownTime : ∀ other ∈ pg.tasks.rows, other.createdAt ≠ row.createdAt) :
    Mirrors (pg.insertTask row fresh bounds) (mongo.insertTask document freshToo boundsToo) where
  agents := mirrors.agents
  tasks := by
    subst isDocument
    have inserted : mongo.tasks.rows ++ [row.document] =
        (pg.tasks.rows ++ [row]).map TaskRow.document := by
      rw [List.map_append, mirrors.tasks]
      rfl
    exact inserted
  taskSeq := mirrors.taskSeq
  castable := by
    intro other member
    rcases List.mem_append.mp member with old | new
    · exact mirrors.castable other old
    · rw [List.mem_singleton.mp new]
      exact castable
  distinct := by
    have distinct : ((pg.tasks.rows ++ [row]).map TaskRow.createdAt).Nodup := by
      rw [List.map_append, List.nodup_append]
      refine ⟨mirrors.distinct, by simp, ?_⟩
      rintro _ first _ second rfl
      obtain ⟨other, member, sameTime⟩ := List.mem_map.mp first
      simp only [List.map_cons, List.map_nil, List.mem_singleton] at second
      exact ownTime other member (sameTime.trans second)
    exact distinct
  agentTimes := mirrors.agentTimes
  taskTimes := by
    intro other member
    rcases List.mem_append.mp member with old | new
    · exact mirrors.taskTimes other old
    · rw [List.mem_singleton.mp new]
      exact times

end Mirrors

/-! ## Queries -/

theorem withinBound_of_fitsInt (bound : Int) {held : Option Int}
    (fits : ∀ value, held = some value → FitsInt value) :
    PgBroker.withinBound bound held = .ok (held.all fun own => decide (own ≤ bound)) := by
  cases held with
  | none => rfl
  | some value =>
      have inRange : -2 ^ 31 ≤ value ∧ value < 2 ^ 31 := fits value rfl
      unfold PgBroker.withinBound PgBroker.castInt
      dsimp only
      rw [if_pos inRange]
      rfl

/-- The condition of the SQL query is the filter of the Mongo broker. -/
theorem fits_eq_matches (agent : AgentRow) {row : TaskRow} (castable : Castable row.constraints) :
    PgBroker.fits agent row = .ok ((MongoBroker.candidateFilter agent).matches row.document) := by
  unfold PgBroker.fits
  rw [withinBound_of_fitsInt agent.resourcesCpuCores castable.cpuCores,
    withinBound_of_fitsInt agent.resourcesRamMb castable.ramMb]
  unfold MongoBroker.candidateFilter TaskFilter.matches TaskRow.document
  by_cases claimable : row.state = .queued ∧ row.assignedAgent = none ∧
      (row.constraints.stringMember "os").all (fun os => decide (os = agent.os))
  · obtain ⟨queued, unassigned, sameOs⟩ := claimable
    rw [if_pos ⟨queued, unassigned, sameOs⟩]
    simp only [bind, Except.bind, Option.all_none, Option.all_some, queued, unassigned, sameOs,
      List.mem_singleton, decide_true, Bool.true_and]
    cases ((row.constraints.integerMember "cpu_cores").all fun own =>
      decide (own ≤ agent.resourcesCpuCores)) <;> simp
  · rw [if_neg claimable]
    have rejected : (decide (row.state ∈ [TaskState.queued]) && decide (row.assignedAgent = none) &&
        (row.constraints.stringMember "os").all fun os => decide (os = agent.os)) = false := by
      rw [Bool.eq_false_iff]
      intro passes
      simp only [Bool.and_eq_true, decide_eq_true_eq, List.mem_singleton] at passes
      exact claimable ⟨passes.1.1, passes.1.2, passes.2⟩
    simp only [Option.all_none, Option.all_some, Bool.true_and, rejected, Bool.false_and]

theorem selectWhere_eq_filter (agent : AgentRow) {rows : List TaskRow}
    (castable : ∀ row ∈ rows, Castable row.constraints) :
    PgBroker.selectWhere (PgBroker.fits agent) rows =
      .ok (rows.filter fun row => (MongoBroker.candidateFilter agent).matches row.document) := by
  induction rows with
  | nil => rfl
  | cons row rows ih =>
      have others := ih fun other member => castable other (List.mem_cons_of_mem row member)
      rw [PgBroker.selectWhere, fits_eq_matches agent (castable row (List.mem_cons_self ..)),
        others, List.filter_cons]
      rfl

section Sorting

variable {rows : List TaskRow} (distinct : (rows.map TaskRow.createdAt).Nodup)

include distinct

theorem eq_of_createdAt_eq {first second : TaskRow} (firstMember : first ∈ rows)
    (secondMember : second ∈ rows) (same : first.createdAt = second.createdAt) :
    first = second :=
  List.inj_on_of_nodup_map distinct firstMember secondMember same

/-- Without ties, however they are broken, the rows and their documents are sorted alike. -/
theorem insertionSort_document {order otherOrder : TaskRow → TaskRow → Prop}
    [DecidableRel order] [DecidableRel otherOrder] (reflexive : ∀ row, order row row)
    (reflexiveToo : ∀ row, otherOrder row row)
    (same : ∀ first second, first.createdAt ≠ second.createdAt →
      (order first second ↔ otherOrder first.document second.document)) :
    (rows.map TaskRow.document).insertionSort otherOrder =
      (rows.insertionSort order).map TaskRow.document := by
  refine (List.map_insertionSort order otherOrder TaskRow.document rows ?_).symm
  intro first firstMember second secondMember
  by_cases tie : first.createdAt = second.createdAt
  · rw [eq_of_createdAt_eq distinct firstMember secondMember tie]
    exact iff_of_true (reflexive second) (reflexiveToo second.document)
  · exact same first second tie

theorem oldest_document (rank otherRank : Int → Nat) (limit : Int) :
    oldest otherRank limit (rows.map TaskRow.document) =
      (oldest rank limit rows).map TaskRow.document := by
  have reflexive : ∀ rank row, OldestFirst rank row row := fun _ _ => .inr ⟨rfl, le_rfl⟩
  unfold oldest
  rw [insertionSort_document distinct (reflexive rank) (reflexive otherRank), List.map_take]
  intro first second different
  simp only [OldestFirst, TaskRow.document, different, false_and, or_false]

theorem newestFirst_document (rank otherRank : Int → Nat) :
    (rows.map TaskRow.document).insertionSort (NewestFirst otherRank) =
      (rows.insertionSort (NewestFirst rank)).map TaskRow.document := by
  have reflexive : ∀ rank row, NewestFirst rank row row := fun _ _ => .inr ⟨rfl, le_rfl⟩
  apply insertionSort_document distinct (reflexive rank) (reflexive otherRank)
  intro first second different
  simp only [NewestFirst, TaskRow.document, different, false_and, or_false]

theorem nodup_createdAt_filter (test : TaskRow → Bool) :
    ((rows.filter test).map TaskRow.createdAt).Nodup :=
  distinct.sublist (List.filter_sublist.map TaskRow.createdAt)

end Sorting

end DistributedComputing
