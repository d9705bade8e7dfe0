import DistributedComputing.BrokerInterface
import DistributedComputing.CallProgram

/-!
# Calls of the MongoDB driver

Filters and `$set` documents as the Mongo broker builds them, the calls it makes with
them, and what each call does to the collections when it runs alone and when it is cut
short by an exception.
-/

namespace DistributedComputing

/-- A filter over `tasks`.  `assignedAgent := some none` asks for a missing or null
field; the last three ask for a constraint that is missing or within the agent's offer. -/
structure TaskFilter where
  taskId : Option Int := none
  states : Option (List TaskState) := none
  assignedAgent : Option (Option String) := none
  constraintsOs : Option String := none
  constraintsCpuCores : Option Int := none
  constraintsRamMb : Option Int := none

def TaskFilter.matches (filter : TaskFilter) (row : TaskRow) : Bool :=
  filter.taskId.all (fun taskId => decide (row.taskId = taskId)) &&
    filter.states.all (fun states => decide (row.state ∈ states)) &&
    filter.assignedAgent.all (fun agentId => decide (row.assignedAgent = agentId)) &&
    filter.constraintsOs.all (fun os => row.constraintsOs.all fun own => decide (own = os)) &&
    filter.constraintsCpuCores.all
      (fun cores => row.constraintsCpuCores.all fun own => decide (own ≤ cores)) &&
    filter.constraintsRamMb.all
      (fun ram => row.constraintsRamMb.all fun own => decide (own ≤ ram))

/-- A `$set` document over `tasks`; `some none` sets a field to null. -/
structure TaskSet where
  state : Option TaskState := none
  assignedAgent : Option (Option String) := none
  startedAt : Option (Option Time) := none
  finishedAt : Option Time := none
  exitCode : Option Int := none
  errorMessage : Option String := none

def TaskSet.apply (set : TaskSet) (row : TaskRow) : TaskRow :=
  { row with
    state := set.state.getD row.state
    assignedAgent := set.assignedAgent.getD row.assignedAgent
    startedAt := set.startedAt.getD row.startedAt
    finishedAt := set.finishedAt.or row.finishedAt
    exitCode := set.exitCode.or row.exitCode
    errorMessage := set.errorMessage.or row.errorMessage }

theorem TaskSet.taskId_apply (set : TaskSet) (row : TaskRow) :
    (set.apply row).taskId = row.taskId :=
  rfl

/-- A document that is written again changes nothing. -/
theorem TaskSet.apply_apply (set : TaskSet) (row : TaskRow) :
    set.apply (set.apply row) = set.apply row := by
  have again : ∀ {Value : Type} (value : Option Value) (held : Value),
      value.getD (value.getD held) = value.getD held := by
    intro Value value held
    cases value <;> rfl
  simp only [TaskSet.apply, again, ← Option.or_assoc, Option.or_self]

/-- Whether the update changes the document, which is what `modified_count` counts. -/
def TaskSet.modifies (set : TaskSet) (row : TaskRow) : Bool :=
  let fields := fun row : TaskRow =>
    (row.state, row.assignedAgent, row.startedAt, row.finishedAt, row.exitCode,
      row.errorMessage)
  decide (fields (set.apply row) ≠ fields row)

/-- A filter over `agents`: the status differs, the last heartbeat is earlier. -/
structure AgentFilter where
  statusNot : AgentStatus
  lastHeartbeatBefore : Time

def AgentFilter.matches (filter : AgentFilter) (row : AgentRow) : Bool :=
  decide (row.status ≠ filter.statusNot) &&
    decide (row.lastHeartbeat < filter.lastHeartbeatBefore)

/-- A `$set` document over one document of `agents`. -/
structure AgentSet where
  status : Option AgentStatus := none
  lastHeartbeat : Option Time := none

def AgentSet.apply (set : AgentSet) (row : AgentRow) : AgentRow :=
  { row with
    status := set.status.getD row.status
    lastHeartbeat := set.lastHeartbeat.getD row.lastHeartbeat }

theorem AgentSet.agentId_apply (set : AgentSet) (row : AgentRow) :
    (set.apply row).agentId = row.agentId :=
  rfl

/-- A filter over `task_assignments`; every one also asks for a missing `unassigned_at`. -/
structure AssignmentFilter where
  taskId : Option Int := none
  agentId : Option String := none

def AssignmentFilter.matches (filter : AssignmentFilter) (row : AssignmentRow) : Bool :=
  filter.taskId.all (fun taskId => decide (row.taskId = taskId)) &&
    filter.agentId.all (fun agentId => decide (row.agentId = agentId)) &&
    row.unassignedAt.isNone

/-- A `$set` document over `task_assignments`. -/
structure AssignmentSet where
  unassignedAt : Time
  reason : String

def AssignmentSet.apply (set : AssignmentSet) (row : AssignmentRow) : AssignmentRow :=
  { row with unassignedAt := some set.unassignedAt, reason := some set.reason }

/-- The calls, named after collection and method.  `countersFindOneAndUpdate` adds one
to the sequence of task ids and returns it. -/
inductive MongoCall
  | agentsFindOne (agentId : String)
  | agentsFind (filter : AgentFilter)
  | agentsFindPage (status : Option AgentStatus) (limit skip : Int)
  | agentsUpdateOne (agentId : String) (set : AgentSet)
  | agentsUpsertOne (agent : AgentRow)
  | tasksFindOne (taskId : Int)
  | tasksFind (filter : TaskFilter) (limit : Int)
  | tasksFindPage (filter : TaskFilter) (limit skip : Int)
  | tasksInsertOne (row : TaskRow)
  | tasksUpdateOne (filter : TaskFilter) (set : TaskSet)
  | tasksUpdateMany (filter : TaskFilter) (set : TaskSet)
  | taskAssignmentsInsertOne (row : AssignmentRow)
  | taskAssignmentsUpdateMany (filter : AssignmentFilter) (set : AssignmentSet)
  | countersFindOneAndUpdate

structure UpdateResult where
  matchedCount : Nat
  modifiedCount : Nat

namespace MongoCall

abbrev Reply : MongoCall → Type
  | agentsFindOne _ => Option AgentRow
  | agentsFind _ => List AgentRow
  | agentsFindPage _ _ _ => List AgentRow
  | agentsUpdateOne _ _ => UpdateResult
  | agentsUpsertOne _ => Unit
  | tasksFindOne _ => Option TaskRow
  | tasksFind _ _ => List TaskRow
  | tasksFindPage _ _ _ => List TaskRow
  | tasksInsertOne _ => Unit
  | tasksUpdateOne _ _ => UpdateResult
  | tasksUpdateMany _ _ => Unit
  | taskAssignmentsInsertOne _ => Unit
  | taskAssignmentsUpdateMany _ _ => Unit
  | countersFindOneAndUpdate => Int

/-- The options `limit` and `skip` of a query: a limit of zero is none, and of a negative
one the absolute value counts. -/
def page {Row : Type} (limit skip : Int) (rows : List Row) : Except DbError (List Row) :=
  if skip < 0 then .error ⟨"Skip value must be non-negative"⟩
  else
    let rest := rows.drop skip.toNat
    .ok (if limit = 0 then rest else rest.take limit.natAbs)

/-- What a call does when nothing else happens at the same time. -/
def exec (rank : Int → Nat) : (call : MongoCall) → Store → Except DbError (Reply call) × Store
  | agentsFindOne agentId, store => (.ok (store.agent agentId), store)
  | agentsFind filter, store => (.ok (store.agents.rows.filter filter.matches), store)
  | agentsFindPage status limit skip, store =>
      (page limit skip ((store.agents.rows.filter fun row =>
          status.all fun status => decide (row.status = status)).insertionSort
        fun first second => first.agentId ≤ second.agentId), store)
  | agentsUpdateOne agentId set, store =>
      match store.agent agentId with
      | none => (.ok ⟨0, 0⟩, store)
      | some row =>
          (.ok ⟨1, if set.apply row = row then 0 else 1⟩,
            store.updateAgent agentId set.apply set.agentId_apply)
  | agentsUpsertOne agent, store =>
      (.ok (), store.upsertAgent agent fun row =>
        { row with
          os := agent.os
          version := agent.version
          resourcesCpuCores := agent.resourcesCpuCores
          resourcesRamMb := agent.resourcesRamMb
          resourcesSlots := agent.resourcesSlots
          status := agent.status
          lastHeartbeat := agent.lastHeartbeat })
  | tasksFindOne taskId, store => (.ok (store.task taskId), store)
  | tasksFind filter limit, store =>
      (.ok (oldest rank limit (store.tasks.rows.filter filter.matches)), store)
  | tasksFindPage filter limit skip, store =>
      (page limit skip ((store.tasks.rows.filter filter.matches).insertionSort
        (NewestFirst rank)), store)
  | tasksInsertOne row, store =>
      if allowed : store.task row.taskId = none ∧ 0 < row.taskId ∧ row.taskId ≤ store.taskSeq then
        (.ok (), store.insertTask row allowed.1 allowed.2)
      else (.error ⟨"E11000 duplicate key error"⟩, store)
  | tasksUpdateOne filter set, store =>
      match store.tasks.rows.find? filter.matches with
      | none => (.ok ⟨0, 0⟩, store)
      | some row =>
          (.ok ⟨1, if set.modifies row then 1 else 0⟩,
            store.updateTask row.taskId set.apply set.taskId_apply)
  | tasksUpdateMany filter set, store =>
      (.ok (), store.updateTasks filter.matches set.apply set.taskId_apply)
  | taskAssignmentsInsertOne row, store => (.ok (), store.insertAssignment row)
  | taskAssignmentsUpdateMany filter set, store =>
      (.ok (), store.updateAssignments filter.matches set.apply)
  | countersFindOneAndUpdate, store =>
      if room : store.taskSeq + 1 ≤ maxTaskId then
        (.ok (store.taskSeq + 1), store.advanceTaskSeq (store.taskSeq + 1) (by omega))
      else (.error ⟨"$inc would overflow"⟩, store)

/-- The part of `tasksUpdateMany` that reached the tasks with the given ids. -/
def updateReachedTasks (filter : TaskFilter) (set : TaskSet) (reached : Progress)
    (store : Store) : Store :=
  store.updateTasks (fun row => filter.matches row && reached row.taskId.toNat) set.apply
    set.taskId_apply

/-- The part of `taskAssignmentsUpdateMany` that reached the given positions. -/
def updateReachedAssignments (filter : AssignmentFilter) (set : AssignmentSet)
    (reached : Progress) (store : Store) : Store :=
  { store with
    taskAssignments := store.taskAssignments.mapIdx fun position row =>
      if filter.matches row && reached position then set.apply row else row }

/-- The effect of a call that raised.  Updates of many documents may have reached any of
them; a call on one document took effect or did not. -/
def interrupted (rank : Int → Nat) (call : MongoCall) (progress : Progress)
    (store : Store) : Store :=
  match call with
  | tasksUpdateMany filter set => updateReachedTasks filter set progress store
  | taskAssignmentsUpdateMany filter set =>
      updateReachedAssignments filter set progress store
  | call => if progress 0 then (call.exec rank store).2 else store

end MongoCall

/-- A sequence of driver calls that each may depend on the replies so far. -/
abbrev MongoProgram (Result : Type) :=
  CallProgram MongoCall MongoCall.Reply DbError Result

/-- The program that makes one call. -/
abbrev issue (call : MongoCall) : MongoProgram call.Reply :=
  CallProgram.perform call

/-- How the code inside a session ends. -/
inductive SessionEnd (Result : Type)
  | abort (result : Result)
  | commit (result : Result)

/-- The body of a session as the transaction it runs in. -/
def sessionBody {Result : Type} (rank : Int → Nat)
    (body : MongoProgram (SessionEnd Result)) (store : Store) :
    Except DbError (TxEnd Store Result) :=
  match body.run (MongoCall.exec rank) store with
  | (.ok (.abort result), _) => .ok (.abort result)
  | (.ok (.commit result), after) => .ok (.commit result after)
  | (.error error, _) => .error error

/-- Run a program without a session. -/
def runCalls {Result : Type} (attempt : Attempt) (program : MongoProgram Result) :
    DbAction Result :=
  program.runUntil (MongoCall.exec attempt.rank) (MongoCall.interrupted attempt.rank)
    attempt.error attempt.raisingCall

/-- The pattern of the transactional methods: when the first call in the session raises
because the deployment has no transactions, the function without them runs instead. -/
def withTransaction {Result : Type} (attempt : Attempt)
    (body : MongoProgram (SessionEnd Result)) (noTransaction : MongoProgram Result) :
    DbAction Result :=
  match attempt.transaction with
  | some fault => TxEnd.attempt fault attempt.error (sessionBody attempt.rank body)
  | none => runCalls attempt noTransaction

namespace MongoBroker

/-- Whether the call with the given number reached the given element before another call
raised, or while it raised itself. -/
def reaches (raising : Option (Nat × Progress)) (call element : Nat) : Bool :=
  match raising with
  | none => true
  | some (index, progress) => decide (call < index) || (decide (call = index) && progress element)

theorem reaches_succ (index : Nat) (progress : Progress) (call element shift : Nat) :
    reaches (some (index + shift, progress)) (call + shift) element =
      reaches (some (index, progress)) call element := by
  simp [reaches]

end MongoBroker

end DistributedComputing
