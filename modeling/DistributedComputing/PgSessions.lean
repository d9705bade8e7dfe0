import DistributedComputing.PgBroker
import DistributedComputing.RowLockPrograms

/-!
# The statements of the PostgreSQL broker

Each method of `PgBroker` as the statements that its transaction sends, one row at a time.
A statement finds its rows in what is committed when it begins, then locks each of them,
looks at it again and changes it.  `SKIP LOCKED` passes over the rows that others hold.
-/

namespace DistributedComputing

inductive RowKey
  | agent (agentId : String)
  | task (taskId : Int)
  | assignment (position : Nat)
  deriving DecidableEq

/-- A change of one row, or a new row.  Every update of an assignment ends it. -/
inductive RowChange
  | agent (agentId : String) (change : AgentRow → AgentRow)
      (keeps : ∀ row, (change row).agentId = row.agentId)
  | upsertAgent (row : AgentRow) (change : AgentRow → AgentRow)
      (keeps : ∀ row, (change row).agentId = row.agentId)
  | insertTask (row : TaskRow)
  | task (taskId : Int) (change : TaskRow → TaskRow)
      (keeps : ∀ row, (change row).taskId = row.taskId)
  | insertAssignment (row : AssignmentRow)
  | assignment (position : Nat) (change : AssignmentRow → AssignmentRow)
      (ends : ∀ row, (change row).unassignedAt.isSome = true)

namespace Store

/-- Change the assignment at one position. -/
def updateAssignment (store : Store) (position : Nat)
    (change : AssignmentRow → AssignmentRow) : Store :=
  { store with taskAssignments := store.taskAssignments.modify position change }

/-- Insert a task under an id that the sequence has given out. -/
def tryInsertTask (store : Store) (row : TaskRow) : Store :=
  if fresh : store.task row.taskId = none ∧ 0 < row.taskId ∧ row.taskId ≤ store.taskSeq then
    store.insertTask row fresh.1 fresh.2
  else store

end Store

namespace RowChange

def apply (store : Store) : RowChange → Store
  | agent agentId change keeps => store.updateAgent agentId change keeps
  | upsertAgent row change keeps => store.upsertAgent row change keeps
  | insertTask row => store.tryInsertTask row
  | task taskId change keeps => store.updateTask taskId change keeps
  | insertAssignment row => store.insertAssignment row
  | assignment position change _ => store.updateAssignment position change

/-- The rows that a change holds.  The primary key of a new task holds its place, and the
foreign keys of a new assignment hold its task and its agent. -/
def locks : RowChange → List RowKey
  | agent agentId _ _ => [.agent agentId]
  | upsertAgent row _ _ => [.agent row.agentId]
  | insertTask row => [.task row.taskId]
  | task taskId _ _ => [.task taskId]
  | insertAssignment row => [.task row.taskId, .agent row.agentId]
  | assignment position _ _ => [.assignment position]

end RowChange

theorem Store.nextTaskSeq {store : Store} (inRange : store.taskSeq + 1 ≤ maxTaskId) :
    store.taskSeq ≤ store.taskSeq + 1 ∧ store.taskSeq + 1 ≤ maxTaskId :=
  ⟨by omega, inRange⟩

/-- `nextval` of the sequence of task ids. -/
def nextval (store : Store) : Except DbError (Int × Store) :=
  if inRange : store.taskSeq + 1 ≤ maxTaskId then
    .ok (store.taskSeq + 1, store.advanceTaskSeq (store.taskSeq + 1) (Store.nextTaskSeq inRange))
  else .error ⟨"nextval: reached maximum value of sequence"⟩

/-- PostgreSQL at the isolation level `READ COMMITTED`. -/
def pgEngine : RowEngine Store RowKey RowChange Int DbError where
  apply := RowChange.apply
  locks := RowChange.locks
  draw := nextval
  deadlock := ⟨"deadlock detected"⟩

abbrev PgProgram (Result : Type) :=
  CallProgram (SessionCall RowKey RowChange) (SessionCall.Reply Store Int) DbError Result

namespace PgSessions

abbrev ask (call : SessionCall RowKey RowChange) : PgProgram (call.Reply Store Int) :=
  CallProgram.perform call

/-- An exception leaves the scope of `pqxx::work` before its commit. -/
def abort {Result : Type} (error : DbError) : PgProgram Result := do
  ask .rollback
  .raise error

def writeIf (condition : Bool) (change : RowChange) : PgProgram Unit :=
  if condition then ask (.write change) else .done ()

/-! ## Statements -/

/-- Lock the rows that a statement has found one after the other, and change those that
still pass. -/
def updateEach {Item : Type} (key : Item → RowKey) (passes : Item → Store → Bool)
    (change : Item → RowChange) : List Item → PgProgram Unit
  | [] => .done ()
  | item :: items => do
      let current ← ask (.lock (key item))
      writeIf (passes item current) (change item)
      updateEach key passes change items

/-- `UPDATE agents SET … WHERE agent_id = …`, with the number of affected rows. -/
def updateAgent (agentId : String) (change : AgentRow → AgentRow)
    (keeps : ∀ row, (change row).agentId = row.agentId) : PgProgram Nat := do
  let snapshot ← ask .view
  let found := (snapshot.agent agentId).toList
  updateEach (fun row => .agent row.agentId) (fun row current =>
    (current.agent row.agentId).isSome) (fun _ => .agent agentId change keeps) found
  return found.length

/-- `UPDATE tasks SET … WHERE …`, with the number of rows found. -/
def updateTasks (test : TaskRow → Bool) (change : TaskRow → TaskRow)
    (keeps : ∀ row, (change row).taskId = row.taskId) : PgProgram Nat := do
  let snapshot ← ask .view
  let found := snapshot.tasks.rows.filter test
  updateEach (fun row => .task row.taskId) (fun row current =>
    (current.task row.taskId).any test) (fun row => .task row.taskId change keeps) found
  return found.length

/-- The positions of the assignments that pass a test. -/
def positions (test : AssignmentRow → Bool) (store : Store) : List Nat :=
  (List.range store.taskAssignments.length).filter fun position =>
    store.taskAssignments[position]?.any test

/-- `UPDATE task_assignments SET unassigned_at = …, reason = … WHERE …`. -/
def updateAssignments (test : AssignmentRow → Bool) (change : AssignmentRow → AssignmentRow)
    (ends : ∀ row, (change row).unassignedAt.isSome = true) :
    PgProgram Unit := do
  let snapshot ← ask .view
  updateEach .assignment (fun position current => current.taskAssignments[position]?.any test)
    (fun position => .assignment position change ends) (positions test snapshot)

/-! ## Agents -/

def beaten (now : Time) (row : AgentRow) : AgentRow :=
  { row with lastHeartbeat := now }

def withStatus (status : AgentStatus) (row : AgentRow) : AgentRow :=
  { row with status := status }

def upsertAgent (attempt : Attempt) (agent : AgentInput) : PgProgram Bool := do
  ask .start
  let _ ← ask (.lock (.agent agent.agentId))
  ask (.write (.upsertAgent
    { agentId := agent.agentId
      os := PgBroker.textParam agent.os
      version := PgBroker.textParam agent.version
      resourcesCpuCores := agent.cpuCores
      resourcesRamMb := agent.ramMb
      resourcesSlots := agent.slots
      status := .idle
      lastHeartbeat := attempt.now }
    (fun row =>
      { row with
        os := PgBroker.textParam agent.os
        version := PgBroker.textParam agent.version
        resourcesCpuCores := agent.cpuCores
        resourcesRamMb := agent.ramMb
        resourcesSlots := agent.slots
        status := .idle
        lastHeartbeat := attempt.now }) fun _ => rfl))
  ask .commit
  return true

def heartbeatRow (now : Time) (status : AgentStatus) (row : AgentRow) : AgentRow :=
  { row with status := status, lastHeartbeat := now }

def updateHeartbeat (attempt : Attempt) (heartbeat : AgentHeartbeat) : PgProgram Bool := do
  ask .start
  let affected ← updateAgent heartbeat.agentId (heartbeatRow attempt.now heartbeat.status)
    fun _ => rfl
  if affected = 0 then do
    ask .rollback
    return false
  else do
    ask .commit
    return true

/-! ## Tasks -/

/-- The insert of a task, after its parameters have been converted. -/
def insertTask (attempt : Attempt) (task : TaskInput) : PgProgram Int := do
  let taskId ← ask .draw
  let current ← ask (.lock (.task taskId))
  if (current.task taskId).isSome then
    abort ⟨"duplicate key value violates unique constraint"⟩
  else do
    ask (.write (.insertTask (PgBroker.newTask attempt.now taskId task)))
    ask .commit
    return taskId

def createTask (attempt : Attempt) (task : TaskInput) : PgProgram Int := do
  ask .start
  match PgBroker.jsonbError task with
  | some error => abort error
  | none => insertTask attempt task

/-- A candidate that was locked: its dispatch, if it still fits. -/
def recheck (agent : AgentRow) : Option TaskRow → Except DbError (Option TaskDispatch)
  | none => .ok none
  | some row => (PgBroker.fits agent row).map fun fitting =>
      if fitting then some (PgBroker.taskDispatch row) else none

/-- `FOR UPDATE OF t SKIP LOCKED LIMIT …` over the candidates in their order. -/
def lockFitting (agent : AgentRow) : Nat → List TaskRow → PgProgram (List TaskDispatch)
  | _, [] => .done []
  | 0, _ :: _ => .done []
  | slots + 1, row :: rows => do
      let locked ← ask (.tryLock (.task row.taskId))
      match locked with
      | none => lockFitting agent (slots + 1) rows
      | some current =>
          match recheck agent (current.task row.taskId) with
          | .error error => abort error
          | .ok none => lockFitting agent (slots + 1) rows
          | .ok (some dispatch) => do
              let dispatches ← lockFitting agent slots rows
              return dispatch :: dispatches

def assignedTask (now : Time) (agentId : String) (row : TaskRow) : TaskRow :=
  { row with
    state := .running
    assignedAgent := some agentId
    startedAt := some now }

/-- The two statements that assign one task. -/
def assign (now : Time) (agentId : String) (dispatch : TaskDispatch) : PgProgram Unit := do
  let _ ← updateTasks (fun row => decide (row.taskId = dispatch.taskId))
    (assignedTask now agentId) fun _ => rfl
  ask (.write (.insertAssignment
    { taskId := dispatch.taskId, agentId := agentId, assignedAt := now }))

def assignAll (now : Time) (agentId : String) : List TaskDispatch → PgProgram Unit
  | [] => .done ()
  | dispatch :: dispatches => do
      assign now agentId dispatch
      assignAll now agentId dispatches

/-- What a poll does after its heartbeat when slots are free. -/
def claimTasks (attempt : Attempt) (agentId : String) (agent : AgentRow) (freeSlots : Int) :
    PgProgram (Option (List TaskDispatch)) := do
  let snapshot ← ask .view
  match PgBroker.selectWhere (PgBroker.fits agent) snapshot.tasks.rows with
  | .error error => abort error
  | .ok rows => do
      let dispatches ← lockFitting agent freeSlots.toNat
        (rows.insertionSort (OldestFirst attempt.rank))
      assignAll attempt.now agentId dispatches
      let status := if dispatches.isEmpty then .idle else .busy
      let _ ← updateAgent agentId (withStatus status) fun _ => rfl
      ask .commit
      return some dispatches

def pollTasksForAgent (attempt : Attempt) (agentId : String) (freeSlots : Int) :
    PgProgram (Option (List TaskDispatch)) := do
  ask .start
  let snapshot ← ask .view
  match snapshot.agent agentId with
  | none => do
      ask .rollback
      return none
  | some agent => do
      let _ ← updateAgent agentId (beaten attempt.now) fun _ => rfl
      if freeSlots ≤ 0 then do
        ask .commit
        return some []
      else claimTasks attempt agentId agent freeSlots

section Status

variable (timestamptz : Time → String → Option Time)

/-- The first statement of a status report, with its parameters converted. -/
def reportTask (attempt : Attempt) (update : TaskStatusUpdate)
    (startedParam finishedParam : Option Time) (row : TaskRow) : TaskRow :=
  { row with
    state := update.state
    exitCode := update.exitCode.or row.exitCode
    startedAt := startedParam.or
      (if update.startedAt.isNone && decide (update.state = .running) then some attempt.now
      else row.startedAt)
    finishedAt := finishedParam.or
      (if update.finishedAt.isNone && update.state.terminal then some attempt.now
      else row.finishedAt)
    errorMessage := (update.errorMessage.map PgBroker.textParam).or row.errorMessage }

/-- The time at which a final report ends the assignment. -/
def reportedEnd (attempt : Attempt) (update : TaskStatusUpdate) (finishedParam : Option Time) :
    Option Time :=
  finishedParam.or (if update.finishedAt.isNone then some attempt.now else none)

def reportedAssignment (state : TaskState) (time : Time) (row : AssignmentRow) :
    AssignmentRow :=
  { row with
    unassignedAt := some time
    reason := some (if state = .canceled then "canceled" else "completed") }

/-- The second statement, sent for a final state only.  There always is a time then: the
parameter has converted, or it is absent and `NOW()` is asked for. -/
def reportAssignments (attempt : Attempt) (taskId : Int) (update : TaskStatusUpdate)
    (finishedParam : Option Time) : PgProgram Unit :=
  match update.state.terminal, reportedEnd attempt update finishedParam with
  | true, some time =>
      updateAssignments (fun row => decide (row.taskId = taskId) && row.unassignedAt.isNone)
        (reportedAssignment update.state time) fun _ => rfl
  | _, _ => .done ()

/-- What a status report does with its converted parameters. -/
def writeReport (attempt : Attempt) (taskId : Int) (update : TaskStatusUpdate)
    (startedParam finishedParam : Option Time) : PgProgram Bool := do
  let affected ← updateTasks (fun row => decide (row.taskId = taskId))
    (reportTask attempt update startedParam finishedParam) fun _ => rfl
  if affected = 0 then do
    ask .rollback
    return false
  else do
    reportAssignments attempt taskId update finishedParam
    ask .commit
    return true

def updateTaskStatus (attempt : Attempt) (taskId : Int) (update : TaskStatusUpdate) :
    PgProgram Bool := do
  ask .start
  match PgBroker.timestamptzParam timestamptz attempt.now update.startedAt,
      PgBroker.timestamptzParam timestamptz attempt.now update.finishedAt with
  | .error error, _ => abort error
  | _, .error error => abort error
  | .ok startedParam, .ok finishedParam =>
      writeReport attempt taskId update startedParam finishedParam

end Status

def canceledTask (now : Time) (row : TaskRow) : TaskRow :=
  { row with
    state := .canceled
    finishedAt := some now
    errorMessage := row.errorMessage.or (some "canceled_by_user") }

def canceledAssignment (now : Time) (row : AssignmentRow) : AssignmentRow :=
  { row with
    unassignedAt := some now
    reason := some "canceled_by_user" }

def cancelTask (attempt : Attempt) (taskId : Int) : PgProgram CancelTaskResult := do
  ask .start
  let snapshot ← ask .view
  match snapshot.task taskId with
  | none => do
      ask .rollback
      return .notFound
  | some row =>
      if row.state.terminal then do
        ask .rollback
        return .invalidState
      else do
        let _ ← updateTasks (fun row => decide (row.taskId = taskId))
          (canceledTask attempt.now) fun _ => rfl
        updateAssignments (fun row => decide (row.taskId = taskId) && row.unassignedAt.isNone)
          (canceledAssignment attempt.now) fun _ => rfl
        ask .commit
        return .ok

/-! ## The offline sweep -/

/-- An agent past the heartbeat threshold. -/
def isStale (now : Time) (offlineAfterSec : Int) (row : AgentRow) : Bool :=
  decide (row.status ≠ .offline) && decide (row.lastHeartbeat < now - offlineAfterSec * 1000)

/-- `SELECT agent_id FROM agents WHERE … FOR UPDATE` over the agents that were found. -/
def lockStale (now : Time) (offlineAfterSec : Int) : List String → PgProgram (List String)
  | [] => .done []
  | agentId :: agentIds => do
      let current ← ask (.lock (.agent agentId))
      let others ← lockStale now offlineAfterSec agentIds
      return if (current.agent agentId).any (isStale now offlineAfterSec) then
        agentId :: others else others

def offlineAssignment (now : Time) (row : AssignmentRow) : AssignmentRow :=
  { row with
    unassignedAt := some now
    reason := some "agent_offline" }

def requeuedTask (row : TaskRow) : TaskRow :=
  { row with
    state := .queued
    assignedAgent := none
    startedAt := none
    errorMessage := row.errorMessage.or (some "agent_offline_requeued") }

/-- The three statements for one agent past the heartbeat threshold. -/
def takeOffline (now : Time) (agentId : String) : PgProgram Unit := do
  let _ ← updateAgent agentId (withStatus .offline) fun _ => rfl
  updateAssignments (fun row => decide (row.agentId = agentId) && row.unassignedAt.isNone)
    (offlineAssignment now) fun _ => rfl
  let _ ← updateTasks (fun row => decide (row.assignedAgent = some agentId) &&
    (decide (row.state = .running) || decide (row.state = .queued))) requeuedTask fun _ => rfl
  return ()

def takeAllOffline (now : Time) : List String → PgProgram Unit
  | [] => .done ()
  | agentId :: agentIds => do
      takeOffline now agentId
      takeAllOffline now agentIds

def markOfflineAgentsAndRequeue (attempt : Attempt) (offlineAfterSec : Int) :
    PgProgram Int := do
  ask .start
  let snapshot ← ask .view
  let found := snapshot.agents.rows.filter (isStale attempt.now offlineAfterSec)
  let agentIds ← lockStale attempt.now offlineAfterSec (found.map AgentRow.agentId)
  if agentIds.isEmpty then do
    ask .rollback
    return 0
  else do
    takeAllOffline attempt.now agentIds
    ask .commit
    return agentIds.length

end PgSessions

end DistributedComputing
