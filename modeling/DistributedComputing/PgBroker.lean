import Mathlib.Data.List.TakeWhile
import DistributedComputing.BrokerInterface

/-!
# The PostgreSQL broker

Every method opens one transaction.  Its statements are written in order over the
store; a transaction that ends without `commit` is rolled back.  `NOW()` is the start
of the transaction, so all its statements see one reading.  A text that is written ends at
its first NUL (`textParam`).  The agent ids that the methods take are those that reach the
statements: `Deployment.service` cuts them.
-/

namespace DistributedComputing

namespace PgBroker

/-- Run the body of `pqxx::work`.  PostgreSQL always has transactions, so an attempt
that speaks of none is an attempt that fails before its commit. -/
def transaction {Result : Type} (attempt : Attempt)
    (body : Store → Except DbError (TxEnd Store Result)) : DbAction Result :=
  TxEnd.attempt (attempt.transaction.getD .beforeCommit) attempt.error body

/-- What a statement gets of a text: libpq passes its parameters as C strings. -/
def textParam (text : String) : String :=
  String.ofList (text.toList.takeWhile fun char => char ≠ Char.ofNat 0)

theorem textParam_of_not_holdsNul {text : String} (whole : textHoldsNul text = false) :
    textParam text = text := by
  have absent : Char.ofNat 0 ∉ text.toList := by simpa [textHoldsNul] using whole
  have kept : (text.toList.takeWhile fun char => char ≠ Char.ofNat 0) = text.toList := by
    rw [List.takeWhile_eq_self_iff]
    intro char member
    exact decide_eq_true fun isNul => absent (isNul ▸ member)
  rw [textParam, kept, String.ofList_toList]

def agentRecord (row : AgentRow) : AgentRecord where
  agentId := row.agentId
  os := row.os
  version := row.version
  cpuCores := row.resourcesCpuCores
  ramMb := row.resourcesRamMb
  slots := row.resourcesSlots
  status := row.status
  lastHeartbeat := IsoTime.isoUtc row.lastHeartbeat

def taskRecord (row : TaskRow) : TaskRecord where
  taskId := row.taskId
  state := row.state
  command := row.command
  args := row.args
  env := row.env
  timeoutSec := row.timeoutSec
  assignedAgent := row.assignedAgent
  createdAt := IsoTime.isoUtc row.createdAt
  startedAt := row.startedAt.map IsoTime.isoUtc
  finishedAt := row.finishedAt.map IsoTime.isoUtc
  exitCode := row.exitCode
  errorMessage := row.errorMessage
  constraints := normalizeConstraints row.constraints

def taskDispatch (row : TaskRow) : TaskDispatch where
  taskId := row.taskId
  command := row.command
  args := row.args
  env := row.env
  timeoutSec := row.timeoutSec
  constraints := normalizeConstraints row.constraints

def upsertAgent (attempts : List Attempt) (agent : AgentInput) : DbAction Bool :=
  executeWithRetry attempts fun attempt => transaction attempt fun store =>
    .ok (.commit true (store.upsertAgent
      { agentId := agent.agentId
        os := textParam agent.os
        version := textParam agent.version
        resourcesCpuCores := agent.cpuCores
        resourcesRamMb := agent.ramMb
        resourcesSlots := agent.slots
        status := .idle
        lastHeartbeat := attempt.now }
      fun row =>
        { row with
          os := textParam agent.os
          version := textParam agent.version
          resourcesCpuCores := agent.cpuCores
          resourcesRamMb := agent.ramMb
          resourcesSlots := agent.slots
          status := .idle
          lastHeartbeat := attempt.now }))

def updateHeartbeat (attempts : List Attempt) (heartbeat : AgentHeartbeat) : DbAction Bool :=
  executeWithRetry attempts fun attempt => transaction attempt fun store =>
    match store.agent heartbeat.agentId with
    | none => .ok (.abort false)
    | some _ =>
        .ok (.commit true (store.updateAgent heartbeat.agentId fun row =>
          { row with status := heartbeat.status, lastHeartbeat := attempt.now }))

def getAgent (attempts : List Attempt) (agentId : String) :
    DbAction (Option AgentRecord) :=
  executeWithRetry attempts fun attempt => transaction attempt fun store =>
    .ok (.abort ((store.agent agentId).map agentRecord))

/-- The rows of a query with `LIMIT` and `OFFSET`, neither of which may be negative. -/
def page {Row : Type} (limit offset : Int) (rows : List Row) : Except DbError (List Row) :=
  if limit < 0 then .error ⟨"LIMIT must not be negative"⟩
  else if offset < 0 then .error ⟨"OFFSET must not be negative"⟩
  else .ok ((rows.drop offset.toNat).take limit.toNat)

def listAgents (attempts : List Attempt) (status : Option AgentStatus) (limit offset : Int) :
    DbAction (List AgentRecord) :=
  executeWithRetry attempts fun attempt => transaction attempt fun store => do
    let chosen := store.agents.rows.filter fun row =>
      status.all fun status => decide (row.status = status)
    let rows ← page limit offset
      (chosen.insertionSort fun first second => attempt.collation first.agentId second.agentId)
    return .abort (rows.map agentRecord)

/-- The row that `CreateTask` inserts. -/
def newTask (now : Time) (taskId : Int) (task : TaskInput) : TaskRow where
  taskId := taskId
  state := .queued
  command := textParam task.command
  args := if task.args.isNull then .array [] else task.args
  env := if task.env.isNull then .object [] else task.env
  constraints := normalizeConstraints task.constraints
  timeoutSec := task.timeoutSec
  createdAt := now

theorem nextTaskId_bounds (store : Store) (gap : Nat) :
    0 < store.taskSeq + gap + 1 ∧ store.taskSeq + gap + 1 ≤ store.taskSeq + gap + 1 := by
  have bounds := store.taskSeqBounds
  omega

/-- `jsonb` takes no `\u0000`, which is how `dump` writes a NUL. -/
def jsonbError (task : TaskInput) : Option DbError :=
  if task.args.holdsNul || task.env.holdsNul ||
      (normalizeConstraints task.constraints).holdsNul then
    some ⟨"unsupported Unicode escape sequence"⟩
  else none

/-- `task_id` is drawn from a sequence.  Drawn values are not returned by a rollback,
so an insert may find that the sequence has moved on by `sequenceGap`. -/
def createTaskBody (attempt : Attempt) (task : TaskInput) (store : Store) :
    Except DbError (TxEnd Store Int) :=
  match jsonbError task with
  | some error => .error error
  | none =>
      let taskId := store.taskSeq + attempt.sequenceGap + 1
      if inRange : taskId ≤ maxTaskId then
        .ok (.commit taskId
          ((store.advanceTaskSeq taskId (by omega)).insertTask (newTask attempt.now taskId task)
            (by
              rw [Store.task_advanceTaskSeq]
              exact Store.task_eq_none_of_lt (by simp only [newTask]; omega))
            (by
              simp only [newTask, Store.advanceTaskSeq]
              exact nextTaskId_bounds store attempt.sequenceGap)))
      else .error ⟨"nextval: reached maximum value of sequence"⟩

theorem createTaskBody_of_accepted {task : TaskInput} (accepted : jsonbError task = none)
    (attempt : Attempt) {store : Store}
    (room : store.taskSeq + attempt.sequenceGap + 1 ≤ maxTaskId) :
    ∃ bounds fresh inRange, createTaskBody attempt task store =
      .ok (.commit (store.taskSeq + attempt.sequenceGap + 1)
        ((store.advanceTaskSeq (store.taskSeq + attempt.sequenceGap + 1) bounds).insertTask
          (newTask attempt.now (store.taskSeq + attempt.sequenceGap + 1) task) fresh inRange)) := by
  refine ⟨by omega, ?_, nextTaskId_bounds store attempt.sequenceGap, ?_⟩
  · rw [Store.task_advanceTaskSeq]
    exact Store.task_eq_none_of_lt (by simp only [newTask]; omega)
  · simp only [createTaskBody, accepted, room, dite_true]

def createTask (attempts : List Attempt) (task : TaskInput) : DbAction Int :=
  executeWithRetry attempts fun attempt => transaction attempt (createTaskBody attempt task)

def getTask (attempts : List Attempt) (taskId : Int) : DbAction (Option TaskRecord) :=
  executeWithRetry attempts fun attempt => transaction attempt fun store =>
    .ok (.abort ((store.task taskId).map taskRecord))

def taskSummary (row : TaskRow) : TaskSummary where
  taskId := row.taskId
  state := row.state

def listTasks (attempts : List Attempt) (state : Option TaskState) (agentId : Option String)
    (limit offset : Int) : DbAction (List TaskSummary) :=
  executeWithRetry attempts fun attempt => transaction attempt fun store => do
    let chosen := store.tasks.rows.filter fun row =>
      state.all (fun state => decide (row.state = state)) &&
        agentId.all fun agentId => decide (row.assignedAgent = some agentId)
    let rows ← page limit offset (chosen.insertionSort (NewestFirst attempt.rank))
    return .abort (rows.map taskSummary)

/-- `value::int` for the text of a JSON integer. -/
def castInt (value : Int) : Except DbError Int :=
  if -2 ^ 31 ≤ value ∧ value < 2 ^ 31 then .ok value
  else .error ⟨"value is out of range for type integer"⟩

/-- `value IS NULL OR value::int <= bound`. -/
def withinBound (bound : Int) : Option Int → Except DbError Bool
  | none => .ok true
  | some value => (castInt value).map fun cast => decide (cast ≤ bound)

/-- The condition on `t` in the query for the tasks to hand out, from left to right. -/
def fits (agent : AgentRow) (row : TaskRow) : Except DbError Bool :=
  if row.state = .queued ∧ row.assignedAgent = none ∧
      (row.constraints.stringMember "os").all (fun os => decide (os = agent.os)) then do
    let cpuFits ← withinBound agent.resourcesCpuCores (row.constraints.integerMember "cpu_cores")
    if cpuFits then withinBound agent.resourcesRamMb (row.constraints.integerMember "ram_mb")
    else .ok false
  else .ok false

/-- The rows a condition selects, unless evaluating it fails for one of them. -/
def selectWhere (condition : TaskRow → Except DbError Bool) :
    List TaskRow → Except DbError (List TaskRow)
  | [] => .ok []
  | row :: rows => do
      let chosen ← condition row
      let others ← selectWhere condition rows
      .ok (if chosen then row :: others else others)

/-- The two statements that assign one task. -/
def assign (now : Time) (agentId : String) (store : Store) (dispatch : TaskDispatch) :
    Store :=
  (store.updateTask dispatch.taskId fun row =>
      { row with
        state := .running
        assignedAgent := some agentId
        startedAt := some now }).insertAssignment
    { taskId := dispatch.taskId, agentId := agentId, assignedAt := now }

def pollTasksForAgentBody (attempt : Attempt) (agentId : String) (freeSlots : Int)
    (store : Store) : Except DbError (TxEnd Store (Option (List TaskDispatch))) :=
  match store.agent agentId with
  | none => .ok (.abort none)
  | some agent => do
      let store := store.updateAgent agentId fun row =>
        { row with lastHeartbeat := attempt.now }
      if freeSlots ≤ 0 then
        return .commit (some []) store
      let rows ← selectWhere (fits agent) store.tasks.rows
      let dispatches := (oldest attempt.rank freeSlots rows).map taskDispatch
      let store := dispatches.foldl (assign attempt.now agentId) store
      let status := if dispatches.isEmpty then .idle else .busy
      return .commit (some dispatches)
        (store.updateAgent agentId fun row => { row with status := status })

def pollTasksForAgent (attempts : List Attempt) (agentId : String) (freeSlots : Int) :
    DbAction (Option (List TaskDispatch)) :=
  executeWithRetry attempts fun attempt =>
    transaction attempt (pollTasksForAgentBody attempt agentId freeSlots)

section Status

-- The input conversion of `timestamptz`, which may depend on the clock.
variable (timestamptz : Time → String → Option Time)

/-- A time that is null or must convert. -/
def timestamptzParam (now : Time) : Option String → Except DbError (Option Time)
  | none => .ok none
  | some text =>
      match timestamptz now (textParam text) with
      | some time => .ok (some time)
      | none => .error ⟨"invalid input syntax for type timestamp with time zone"⟩

def updateTaskStatusBody (attempt : Attempt) (taskId : Int) (update : TaskStatusUpdate)
    (store : Store) : Except DbError (TxEnd Store Bool) := do
  let setStartedNow := update.startedAt.isNone && decide (update.state = .running)
  let setFinishedNow := update.finishedAt.isNone && update.state.terminal
  let startedParam ← timestamptzParam timestamptz attempt.now update.startedAt
  let finishedParam ← timestamptzParam timestamptz attempt.now update.finishedAt
  match store.task taskId with
  | none => return .abort false
  | some _ =>
      let store := store.updateTask taskId fun row =>
        { row with
          state := update.state
          exitCode := update.exitCode.or row.exitCode
          startedAt := startedParam.or
            (if setStartedNow then some attempt.now else row.startedAt)
          finishedAt := finishedParam.or
            (if setFinishedNow then some attempt.now else row.finishedAt)
          errorMessage := (update.errorMessage.map textParam).or row.errorMessage }
      if update.state.terminal then
        let reason := if update.state = .canceled then "canceled" else "completed"
        return .commit true (store.updateAssignments
          (fun row => decide (row.taskId = taskId) && row.unassignedAt.isNone)
          fun row =>
            { row with
              unassignedAt := finishedParam.or
                (if setFinishedNow then some attempt.now else row.unassignedAt)
              reason := some reason })
      return .commit true store

def updateTaskStatus (attempts : List Attempt) (taskId : Int) (update : TaskStatusUpdate) :
    DbAction Bool :=
  executeWithRetry attempts fun attempt =>
    transaction attempt (updateTaskStatusBody timestamptz attempt taskId update)

end Status

def cancelTaskBody (attempt : Attempt) (taskId : Int) (store : Store) :
    Except DbError (TxEnd Store CancelTaskResult) :=
  match store.task taskId with
  | none => .ok (.abort .notFound)
  | some row =>
      if row.state.terminal then .ok (.abort .invalidState)
      else
        .ok (.commit .ok
          ((store.updateTask taskId fun row =>
            { row with
              state := .canceled
              finishedAt := some attempt.now
              errorMessage := row.errorMessage.or (some "canceled_by_user") }).updateAssignments
            (fun row => decide (row.taskId = taskId) && row.unassignedAt.isNone)
            fun row =>
              { row with
                unassignedAt := some attempt.now
                reason := some "canceled_by_user" }))

def cancelTask (attempts : List Attempt) (taskId : Int) : DbAction CancelTaskResult :=
  executeWithRetry attempts fun attempt => transaction attempt (cancelTaskBody attempt taskId)

/-- The three statements for one agent past the heartbeat threshold. -/
def takeOffline (now : Time) (store : Store) (agentId : String) : Store :=
  ((store.updateAgent agentId fun row => { row with status := .offline }).updateAssignments
      (fun row => decide (row.agentId = agentId) && row.unassignedAt.isNone)
      fun row =>
        { row with
          unassignedAt := some now
          reason := some "agent_offline" }).updateTasks
    (fun row => decide (row.assignedAgent = some agentId) &&
      (decide (row.state = .running) || decide (row.state = .queued)))
    fun row =>
      { row with
        state := .queued
        assignedAgent := none
        startedAt := none
        errorMessage := row.errorMessage.or (some "agent_offline_requeued") }

def markOfflineAgentsAndRequeueBody (attempt : Attempt) (offlineAfterSec : Int)
    (store : Store) : Except DbError (TxEnd Store Int) :=
  let agents := store.agents.rows.filter fun row =>
    decide (row.status ≠ .offline) &&
      decide (row.lastHeartbeat < attempt.now - offlineAfterSec * 1000)
  if agents.isEmpty then .ok (.abort 0)
  else
    .ok (.commit agents.length
      ((agents.map AgentRow.agentId).foldl (takeOffline attempt.now) store))

def markOfflineAgentsAndRequeue (attempts : List Attempt) (offlineAfterSec : Int) :
    DbAction Int :=
  executeWithRetry attempts fun attempt =>
    transaction attempt (markOfflineAgentsAndRequeueBody attempt offlineAfterSec)

end PgBroker

/-- `PgBroker` over a database with the given timestamp conversion. -/
def pgBroker (timestamptz : Time → String → Option Time) : Broker where
  upsertAgent := PgBroker.upsertAgent
  updateHeartbeat := PgBroker.updateHeartbeat
  getAgent := PgBroker.getAgent
  listAgents := PgBroker.listAgents
  createTask := PgBroker.createTask
  getTask := PgBroker.getTask
  listTasks := PgBroker.listTasks
  pollTasksForAgent := PgBroker.pollTasksForAgent
  updateTaskStatus := PgBroker.updateTaskStatus timestamptz
  cancelTask := PgBroker.cancelTask
  markOfflineAgentsAndRequeue := PgBroker.markOfflineAgentsAndRequeue

end DistributedComputing
