import DistributedComputing.KeyedTable
import DistributedComputing.BrokerRecords

/-!
# The tables behind a broker

Both backends keep the same three tables and a counter for task ids.  A missing field
of a document and a null column are both `none`: no operation tells them apart.
-/

namespace DistributedComputing

structure AgentRow where
  agentId : String
  os : String
  version : String
  resourcesCpuCores : Int
  resourcesRamMb : Int
  resourcesSlots : Int
  status : AgentStatus
  lastHeartbeat : Time
  deriving DecidableEq

/-- A row of `tasks`.  The three fields after `constraints` are the copies of its
members that the Mongo broker keeps beside the text; PostgreSQL has no such columns. -/
structure TaskRow where
  taskId : Int
  state : TaskState
  command : String
  args : Json
  env : Json
  constraints : Json
  constraintsOs : Option String := none
  constraintsCpuCores : Option Int := none
  constraintsRamMb : Option Int := none
  timeoutSec : Option Int
  assignedAgent : Option String := none
  createdAt : Time
  startedAt : Option Time := none
  finishedAt : Option Time := none
  exitCode : Option Int := none
  errorMessage : Option String := none

structure AssignmentRow where
  taskId : Int
  agentId : String
  assignedAt : Time
  unassignedAt : Option Time := none
  reason : Option String := none
  deriving DecidableEq

/-- The largest value of a `BIGINT` and of a 64-bit BSON integer. -/
def maxTaskId : Int :=
  2 ^ 63 - 1

/-- The database.  Task ids come from a counter that only grows. -/
structure Store where
  agents : KeyedTable AgentRow.agentId
  tasks : KeyedTable TaskRow.taskId
  taskAssignments : List AssignmentRow
  taskSeq : Int
  taskIdBounds : ∀ row ∈ tasks.rows, 0 < row.taskId ∧ row.taskId ≤ taskSeq
  taskSeqBounds : 0 ≤ taskSeq ∧ taskSeq ≤ maxTaskId

namespace Store

@[ext]
theorem ext {first second : Store} (agentsEq : first.agents = second.agents)
    (tasksEq : first.tasks = second.tasks)
    (taskAssignmentsEq : first.taskAssignments = second.taskAssignments)
    (taskSeqEq : first.taskSeq = second.taskSeq) : first = second := by
  cases first
  cases second
  cases agentsEq
  cases tasksEq
  cases taskAssignmentsEq
  cases taskSeqEq
  rfl

/-- The database after the migrations. -/
def empty : Store where
  agents := KeyedTable.empty
  tasks := KeyedTable.empty
  taskAssignments := []
  taskSeq := 0
  taskIdBounds := by simp [KeyedTable.empty]
  taskSeqBounds := by simp [maxTaskId]

def agent (store : Store) (agentId : String) : Option AgentRow :=
  store.agents.lookup agentId

def task (store : Store) (taskId : Int) : Option TaskRow :=
  store.tasks.lookup taskId

theorem task_bounds {store : Store} {taskId : Int} {row : TaskRow}
    (found : store.task taskId = some row) : 0 < taskId ∧ taskId ≤ store.taskSeq := by
  have bounds := store.taskIdBounds row (KeyedTable.mem_of_lookup found)
  rwa [KeyedTable.key_of_lookup found] at bounds

/-- No task has an id that the counter has not reached. -/
theorem task_eq_none_of_lt {store : Store} {taskId : Int} (beyond : store.taskSeq < taskId) :
    store.task taskId = none := by
  cases found : store.task taskId with
  | none => rfl
  | some row =>
      have bounds := task_bounds found
      omega

def updateAgent (store : Store) (agentId : String) (change : AgentRow → AgentRow)
    (keeps : ∀ row, (change row).agentId = row.agentId := by intro; rfl) : Store :=
  { store with agents := store.agents.updateAt agentId change keeps }

/-- Insert the agent, or change the row that has its id. -/
def upsertAgent (store : Store) (row : AgentRow) (change : AgentRow → AgentRow)
    (keeps : ∀ row, (change row).agentId = row.agentId := by intro; rfl) : Store :=
  if fresh : store.agents.lookup row.agentId = none then
    { store with agents := store.agents.insert row fresh }
  else store.updateAgent row.agentId change keeps

def updateTasks (store : Store) (test : TaskRow → Bool) (change : TaskRow → TaskRow)
    (keeps : ∀ row, (change row).taskId = row.taskId := by intro; rfl) : Store :=
  { store with
    tasks := store.tasks.updateWhere test change keeps
    taskIdBounds := by
      intro row member
      obtain ⟨old, oldMember, rfl⟩ := List.mem_map.mp member
      split
      · rw [keeps]
        exact store.taskIdBounds old oldMember
      · exact store.taskIdBounds old oldMember }

def updateTask (store : Store) (taskId : Int) (change : TaskRow → TaskRow)
    (keeps : ∀ row, (change row).taskId = row.taskId := by intro; rfl) : Store :=
  store.updateTasks (fun row => decide (row.taskId = taskId)) change keeps

def updateAssignments (store : Store) (test : AssignmentRow → Bool)
    (change : AssignmentRow → AssignmentRow) : Store :=
  { store with
    taskAssignments := store.taskAssignments.map fun row =>
      if test row then change row else row }

def insertAssignment (store : Store) (row : AssignmentRow) : Store :=
  { store with taskAssignments := store.taskAssignments ++ [row] }

/-- Move the counter forward. -/
def advanceTaskSeq (store : Store) (taskSeq : Int)
    (bounds : store.taskSeq ≤ taskSeq ∧ taskSeq ≤ maxTaskId) : Store :=
  { store with
    taskSeq := taskSeq
    taskIdBounds := by
      intro row member
      have rowBounds := store.taskIdBounds row member
      omega
    taskSeqBounds := by
      have seqBounds := store.taskSeqBounds
      omega }

/-- Insert a task under an id that the counter has given out and no task has. -/
def insertTask (store : Store) (row : TaskRow) (fresh : store.task row.taskId = none)
    (bounds : 0 < row.taskId ∧ row.taskId ≤ store.taskSeq) : Store :=
  { store with
    tasks := store.tasks.insert row fresh
    taskIdBounds := by
      intro other member
      rcases List.mem_append.mp member with old | new
      · exact store.taskIdBounds other old
      · rw [List.mem_singleton.mp new]
        exact bounds }

/-- An update of one task depends on what it makes of the row of that task only. -/
theorem updateTask_congr {store : Store} {taskId : Int} {row : TaskRow}
    (found : store.task taskId = some row) {first second : TaskRow → TaskRow}
    {firstKeeps : ∀ row, (first row).taskId = row.taskId}
    {secondKeeps : ∀ row, (second row).taskId = row.taskId} (same : first row = second row) :
    store.updateTask taskId first firstKeeps = store.updateTask taskId second secondKeeps := by
  apply Store.ext
  · rfl
  · apply KeyedTable.ext
    apply List.map_congr_left
    intro other member
    by_cases isTask : other.taskId = taskId
    · have isRow : other = row := by
        have held : store.task other.taskId = some other := KeyedTable.lookup_of_mem member
        rw [isTask, found] at held
        exact (Option.some.inj held).symm
      simp [isRow, same]
    · simp [isTask]
  · rfl
  · rfl

section Reading

variable (store : Store)

@[simp]
theorem task_updateTasks (test : TaskRow → Bool) (change : TaskRow → TaskRow)
    (keeps : ∀ row, (change row).taskId = row.taskId) (taskId : Int) :
    (store.updateTasks test change keeps).task taskId =
      (store.task taskId).map fun row => if test row then change row else row :=
  KeyedTable.lookup_updateWhere store.tasks test change keeps taskId

@[simp]
theorem task_updateTask (taskId : Int) (change : TaskRow → TaskRow)
    (keeps : ∀ row, (change row).taskId = row.taskId) (other : Int) :
    (store.updateTask taskId change keeps).task other =
      if other = taskId then (store.task taskId).map change else store.task other :=
  KeyedTable.lookup_updateAt store.tasks taskId change keeps other

@[simp]
theorem task_advanceTaskSeq (taskSeq : Int)
    (bounds : store.taskSeq ≤ taskSeq ∧ taskSeq ≤ maxTaskId) (taskId : Int) :
    (store.advanceTaskSeq taskSeq bounds).task taskId = store.task taskId :=
  rfl

@[simp]
theorem task_insertTask (row : TaskRow) (fresh : store.task row.taskId = none)
    (bounds : 0 < row.taskId ∧ row.taskId ≤ store.taskSeq) (taskId : Int) :
    (store.insertTask row fresh bounds).task taskId =
      if row.taskId = taskId then some row else store.task taskId :=
  KeyedTable.lookup_insert store.tasks row fresh taskId

@[simp]
theorem agent_updateAgent (agentId : String) (change : AgentRow → AgentRow)
    (keeps : ∀ row, (change row).agentId = row.agentId) (other : String) :
    (store.updateAgent agentId change keeps).agent other =
      if other = agentId then (store.agent agentId).map change else store.agent other :=
  KeyedTable.lookup_updateAt store.agents agentId change keeps other

theorem agent_upsertAgent (row : AgentRow) (change : AgentRow → AgentRow)
    (keeps : ∀ row, (change row).agentId = row.agentId) (other : String) :
    (store.upsertAgent row change keeps).agent other =
      if other = row.agentId then
        some (match store.agent row.agentId with
          | none => row
          | some old => change old)
      else store.agent other := by
  unfold upsertAgent
  split
  · rename_i fresh
    have absent : store.agent row.agentId = none := fresh
    have looked := KeyedTable.lookup_insert store.agents row fresh other
    simp only [absent, @eq_comm _ other]
    exact looked
  · rename_i present
    obtain ⟨old, found⟩ := Option.ne_none_iff_exists'.mp present
    have held : store.agent row.agentId = some old := found
    rw [agent_updateAgent, held]
    rfl

@[simp]
theorem task_updateAgent (agentId : String) (change : AgentRow → AgentRow)
    (keeps : ∀ row, (change row).agentId = row.agentId) (taskId : Int) :
    (store.updateAgent agentId change keeps).task taskId = store.task taskId :=
  rfl

@[simp]
theorem taskAssignments_updateAgent (agentId : String) (change : AgentRow → AgentRow)
    (keeps : ∀ row, (change row).agentId = row.agentId) :
    (store.updateAgent agentId change keeps).taskAssignments = store.taskAssignments :=
  rfl

@[simp]
theorem tasks_upsertAgent (row : AgentRow) (change : AgentRow → AgentRow)
    (keeps : ∀ row, (change row).agentId = row.agentId) :
    (store.upsertAgent row change keeps).tasks = store.tasks := by
  unfold upsertAgent
  split <;> rfl

@[simp]
theorem taskAssignments_upsertAgent (row : AgentRow) (change : AgentRow → AgentRow)
    (keeps : ∀ row, (change row).agentId = row.agentId) :
    (store.upsertAgent row change keeps).taskAssignments = store.taskAssignments := by
  unfold upsertAgent
  split <;> rfl

@[simp]
theorem agent_updateTasks (test : TaskRow → Bool) (change : TaskRow → TaskRow)
    (keeps : ∀ row, (change row).taskId = row.taskId) (agentId : String) :
    (store.updateTasks test change keeps).agent agentId = store.agent agentId :=
  rfl

@[simp]
theorem taskAssignments_updateTasks (test : TaskRow → Bool) (change : TaskRow → TaskRow)
    (keeps : ∀ row, (change row).taskId = row.taskId) :
    (store.updateTasks test change keeps).taskAssignments = store.taskAssignments :=
  rfl

@[simp]
theorem agent_updateTask (taskId : Int) (change : TaskRow → TaskRow)
    (keeps : ∀ row, (change row).taskId = row.taskId) (agentId : String) :
    (store.updateTask taskId change keeps).agent agentId = store.agent agentId :=
  rfl

@[simp]
theorem taskAssignments_updateTask (taskId : Int) (change : TaskRow → TaskRow)
    (keeps : ∀ row, (change row).taskId = row.taskId) :
    (store.updateTask taskId change keeps).taskAssignments = store.taskAssignments :=
  rfl

@[simp]
theorem task_updateAssignments (test : AssignmentRow → Bool)
    (change : AssignmentRow → AssignmentRow) (taskId : Int) :
    (store.updateAssignments test change).task taskId = store.task taskId :=
  rfl

@[simp]
theorem agent_updateAssignments (test : AssignmentRow → Bool)
    (change : AssignmentRow → AssignmentRow) (agentId : String) :
    (store.updateAssignments test change).agent agentId = store.agent agentId :=
  rfl

@[simp]
theorem task_insertAssignment (row : AssignmentRow) (taskId : Int) :
    (store.insertAssignment row).task taskId = store.task taskId :=
  rfl

@[simp]
theorem agent_insertAssignment (row : AssignmentRow) (agentId : String) :
    (store.insertAssignment row).agent agentId = store.agent agentId :=
  rfl

end Reading

end Store

end DistributedComputing
