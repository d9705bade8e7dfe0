import DistributedComputing.MongoCalls

/-!
# The MongoDB broker

The transactional methods and the `…NoTransaction` functions they fall back to, as
programs over driver calls.  Every method turns an exception that outlasts the retries
into a default result.
-/

namespace DistributedComputing

namespace MongoBroker

open CallProgram MongoCall

/-- `try { … } catch (...) { return result; }`. -/
def orElse {Result : Type} (result : Result) (action : DbAction Result) :
    DbAction Result := fun store =>
  match action store with
  | (.ok returned, after) => (.ok returned, after)
  | (.error _, after) => (.ok result, after)

def agentRecord (row : AgentRow) : AgentRecord where
  agentId := row.agentId
  os := row.os
  version := row.version
  cpuCores := row.resourcesCpuCores
  ramMb := row.resourcesRamMb
  slots := row.resourcesSlots
  status := row.status
  lastHeartbeat := IsoTime.dateToIsoUtc row.lastHeartbeat

def taskRecord (row : TaskRow) : TaskRecord where
  taskId := row.taskId
  state := row.state
  command := row.command
  args := row.args
  env := row.env
  timeoutSec := row.timeoutSec
  assignedAgent := row.assignedAgent
  createdAt := IsoTime.dateToIsoUtc row.createdAt
  startedAt := row.startedAt.map IsoTime.dateToIsoUtc
  finishedAt := row.finishedAt.map IsoTime.dateToIsoUtc
  exitCode := row.exitCode
  errorMessage := row.errorMessage
  constraints := row.constraints

def taskDispatch (row : TaskRow) : TaskDispatch where
  taskId := row.taskId
  command := row.command
  args := row.args
  env := row.env
  timeoutSec := row.timeoutSec
  constraints := row.constraints

def upsertAgentOnce (attempt : Attempt) (agent : AgentInput) : MongoProgram Bool := do
  issue (.agentsUpsertOne
    { agentId := agent.agentId
      os := agent.os
      version := agent.version
      resourcesCpuCores := agent.cpuCores
      resourcesRamMb := agent.ramMb
      resourcesSlots := agent.slots
      status := .idle
      lastHeartbeat := attempt.now })
  return true

def upsertAgent (attempts : List Attempt) (agent : AgentInput) : DbAction Bool :=
  orElse false (executeWithRetry attempts fun attempt =>
    runCalls attempt (upsertAgentOnce attempt agent))

def updateHeartbeatOnce (attempt : Attempt) (heartbeat : AgentHeartbeat) :
    MongoProgram Bool := do
  let result ← issue (.agentsUpdateOne heartbeat.agentId
    { status := some heartbeat.status, lastHeartbeat := some attempt.now })
  return decide (0 < result.matchedCount)

def updateHeartbeat (attempts : List Attempt) (heartbeat : AgentHeartbeat) :
    DbAction Bool :=
  orElse false (executeWithRetry attempts fun attempt =>
    runCalls attempt (updateHeartbeatOnce attempt heartbeat))

def getAgentOnce (agentId : String) : MongoProgram (Option AgentRecord) := do
  let row ← issue (.agentsFindOne agentId)
  return row.map agentRecord

def getAgent (attempts : List Attempt) (agentId : String) :
    DbAction (Option AgentRecord) :=
  orElse none (executeWithRetry attempts fun attempt => runCalls attempt (getAgentOnce agentId))

def listAgentsOnce (status : Option AgentStatus) (limit offset : Int) :
    MongoProgram (List AgentRecord) := do
  let rows ← issue (.agentsFindPage status limit offset)
  return (rows : List AgentRow).map agentRecord

def listAgents (attempts : List Attempt) (status : Option AgentStatus) (limit offset : Int) :
    DbAction (List AgentRecord) :=
  orElse [] (executeWithRetry attempts fun attempt =>
    runCalls attempt (listAgentsOnce status limit offset))

/-- The document that both forms of `CreateTask` insert. -/
def newTask (now : Time) (taskId : Int) (task : TaskInput) : TaskRow :=
  let constraints := normalizeConstraints task.constraints
  { taskId := taskId
    state := .queued
    command := task.command
    args := if task.args.isNull then .array [] else task.args
    env := if task.env.isNull then .object [] else task.env
    constraints := constraints
    constraintsOs := constraints.stringMember "os"
    constraintsCpuCores := (constraints.integerMember "cpu_cores").map toInt32
    constraintsRamMb := (constraints.integerMember "ram_mb").map toInt32
    timeoutSec := task.timeoutSec
    createdAt := now }

def createTaskTransaction (attempt : Attempt) (task : TaskInput) :
    MongoProgram (SessionEnd Int) := do
  let taskId ← issue .countersFindOneAndUpdate
  issue (.tasksInsertOne (newTask attempt.now taskId task))
  return .commit taskId

def createTaskNoTransaction (attempt : Attempt) (task : TaskInput) : MongoProgram Int := do
  let taskId ← issue .countersFindOneAndUpdate
  issue (.tasksInsertOne (newTask attempt.now taskId task))
  return taskId

def createTask (attempts : List Attempt) (task : TaskInput) : DbAction Int :=
  orElse 0 (executeWithRetry attempts fun attempt =>
    withTransaction attempt (createTaskTransaction attempt task)
      (createTaskNoTransaction attempt task))

def getTaskOnce (taskId : Int) : MongoProgram (Option TaskRecord) := do
  let row ← issue (.tasksFindOne taskId)
  return row.map taskRecord

def getTask (attempts : List Attempt) (taskId : Int) : DbAction (Option TaskRecord) :=
  orElse none (executeWithRetry attempts fun attempt => runCalls attempt (getTaskOnce taskId))

def taskSummary (row : TaskRow) : TaskSummary where
  taskId := row.taskId
  state := row.state

/-- The filter of `ListTasks`.  An empty agent id is no condition. -/
def listFilter (state : Option TaskState) (agentId : Option String) : TaskFilter where
  states := state.map fun state => [state]
  assignedAgent := (agentId.filter fun agentId => !agentId.isEmpty).map some

def listTasksOnce (state : Option TaskState) (agentId : Option String) (limit offset : Int) :
    MongoProgram (List TaskSummary) := do
  let rows ← issue (.tasksFindPage (listFilter state agentId) limit offset)
  return (rows : List TaskRow).map taskSummary

def listTasks (attempts : List Attempt) (state : Option TaskState) (agentId : Option String)
    (limit offset : Int) : DbAction (List TaskSummary) :=
  orElse [] (executeWithRetry attempts fun attempt =>
    runCalls attempt (listTasksOnce state agentId limit offset))

/-- The filter of the query for candidates. -/
def candidateFilter (agent : AgentRow) : TaskFilter where
  states := some [.queued]
  assignedAgent := some none
  constraintsOs := some agent.os
  constraintsCpuCores := some agent.resourcesCpuCores
  constraintsRamMb := some agent.resourcesRamMb

/-- `assign_filter`: the task is still queued and unassigned. -/
def assignFilter (taskId : Int) : TaskFilter where
  taskId := some taskId
  states := some [.queued]
  assignedAgent := some none

def assignSet (now : Time) (agentId : String) : TaskSet where
  state := some .running
  assignedAgent := some (some agentId)
  startedAt := some (some now)

/-- The loop over the candidates, with the dispatches collected so far. -/
def assignLoop (now : Time) (agentId : String) :
    List TaskRow → List TaskDispatch → MongoProgram (List TaskDispatch)
  | [], dispatches => return dispatches
  | candidate :: candidates, dispatches => do
      let result ← issue (.tasksUpdateOne (assignFilter candidate.taskId)
        (assignSet now agentId))
      if result.modifiedCount = 0 then
        assignLoop now agentId candidates dispatches
      else do
        issue (.taskAssignmentsInsertOne
          { taskId := candidate.taskId, agentId := agentId, assignedAt := now })
        assignLoop now agentId candidates (dispatches ++ [taskDispatch candidate])

def pollTasksForAgentTransaction (attempt : Attempt) (agentId : String) (freeSlots : Int) :
    MongoProgram (SessionEnd (Option (List TaskDispatch))) := do
  let found ← issue (.agentsFindOne agentId)
  match (found : Option AgentRow) with
  | none => return .abort none
  | some agent =>
      let _ ← issue (.agentsUpdateOne agentId { lastHeartbeat := some attempt.now })
      if freeSlots ≤ 0 then
        return .commit (some [])
      else do
        let candidates ← issue (.tasksFind (candidateFilter agent) freeSlots)
        let dispatches ← assignLoop attempt.now agentId candidates []
        let _ ← issue (.agentsUpdateOne agentId
          { status := some (if dispatches.isEmpty then .idle else .busy) })
        return .commit (some dispatches)

def pollTasksForAgentNoTransaction (attempt : Attempt) (agentId : String)
    (freeSlots : Int) : MongoProgram (Option (List TaskDispatch)) := do
  let found ← issue (.agentsFindOne agentId)
  match (found : Option AgentRow) with
  | none => return none
  | some agent =>
      let _ ← issue (.agentsUpdateOne agentId { lastHeartbeat := some attempt.now })
      if freeSlots ≤ 0 then
        return some []
      else do
        let candidates ← issue (.tasksFind (candidateFilter agent) freeSlots)
        let dispatches ← assignLoop attempt.now agentId candidates []
        let _ ← issue (.agentsUpdateOne agentId
          { status := some (if dispatches.isEmpty then .idle else .busy) })
        return some dispatches

def pollTasksForAgent (attempts : List Attempt) (agentId : String) (freeSlots : Int) :
    DbAction (Option (List TaskDispatch)) :=
  orElse (some []) (executeWithRetry attempts fun attempt =>
    withTransaction attempt (pollTasksForAgentTransaction attempt agentId freeSlots)
      (pollTasksForAgentNoTransaction attempt agentId freeSlots))

/-- `set_doc` of a status report.  A time that does not parse is left out. -/
def statusSet (attempt : Attempt) (current : TaskRow) (update : TaskStatusUpdate) :
    TaskSet where
  state := some update.state
  exitCode := update.exitCode
  errorMessage := update.errorMessage.filter fun message => !message.isEmpty
  startedAt :=
    match update.startedAt with
    | some text => (IsoTime.parseIsoUtc attempt.getTime text).map some
    | none =>
        if update.state = .running ∧ current.startedAt = none then some (some attempt.now)
        else none
  finishedAt :=
    match update.finishedAt with
    | some text => IsoTime.parseIsoUtc attempt.getTime text
    | none =>
        if update.state.terminal ∧ current.finishedAt = none then some attempt.now else none

/-- The `$set` document that closes the open rows of a task after a report. -/
def reportUnassign (attempt : Attempt) (update : TaskStatusUpdate) : AssignmentSet where
  unassignedAt := (update.finishedAt.bind (IsoTime.parseIsoUtc attempt.getTime)).getD attempt.now
  reason := if update.state = .canceled then "canceled" else "completed"

def updateTaskStatusTransaction (attempt : Attempt) (taskId : Int)
    (update : TaskStatusUpdate) : MongoProgram (SessionEnd Bool) := do
  let found ← issue (.tasksFindOne taskId)
  match (found : Option TaskRow) with
  | none => return .abort false
  | some current =>
      let _ ← issue (.tasksUpdateOne { taskId := some taskId }
        (statusSet attempt current update))
      if update.state.terminal then
        issue (.taskAssignmentsUpdateMany { taskId := some taskId }
          (reportUnassign attempt update))
        return .commit true
      else return .commit true

def updateTaskStatusNoTransaction (attempt : Attempt) (taskId : Int)
    (update : TaskStatusUpdate) : MongoProgram Bool := do
  let found ← issue (.tasksFindOne taskId)
  match (found : Option TaskRow) with
  | none => return false
  | some current =>
      let _ ← issue (.tasksUpdateOne { taskId := some taskId }
        (statusSet attempt current update))
      if update.state.terminal then
        issue (.taskAssignmentsUpdateMany { taskId := some taskId }
          (reportUnassign attempt update))
        return true
      else return true

def updateTaskStatus (attempts : List Attempt) (taskId : Int) (update : TaskStatusUpdate) :
    DbAction Bool :=
  orElse false (executeWithRetry attempts fun attempt =>
    withTransaction attempt (updateTaskStatusTransaction attempt taskId update)
      (updateTaskStatusNoTransaction attempt taskId update))

/-- `set_doc` of a cancel. -/
def cancelSet (now : Time) (current : TaskRow) : TaskSet where
  state := some .canceled
  finishedAt := some now
  errorMessage := if current.errorMessage = none then some "canceled_by_user" else none

def cancelUnassign (now : Time) : AssignmentSet where
  unassignedAt := now
  reason := "canceled_by_user"

def cancelTaskTransaction (attempt : Attempt) (taskId : Int) :
    MongoProgram (SessionEnd CancelTaskResult) := do
  let found ← issue (.tasksFindOne taskId)
  match (found : Option TaskRow) with
  | none => return .abort .notFound
  | some current =>
      if current.state.terminal then
        return .abort .invalidState
      else do
        let _ ← issue (.tasksUpdateOne { taskId := some taskId }
          (cancelSet attempt.now current))
        issue (.taskAssignmentsUpdateMany { taskId := some taskId }
          (cancelUnassign attempt.now))
        return .commit .ok

def cancelTaskNoTransaction (attempt : Attempt) (taskId : Int) :
    MongoProgram CancelTaskResult := do
  let found ← issue (.tasksFindOne taskId)
  match (found : Option TaskRow) with
  | none => return .notFound
  | some current =>
      if current.state.terminal then
        return .invalidState
      else do
        let _ ← issue (.tasksUpdateOne { taskId := some taskId }
          (cancelSet attempt.now current))
        issue (.taskAssignmentsUpdateMany { taskId := some taskId }
          (cancelUnassign attempt.now))
        return .ok

def cancelTask (attempts : List Attempt) (taskId : Int) : DbAction CancelTaskResult :=
  orElse .error (executeWithRetry attempts fun attempt =>
    withTransaction attempt (cancelTaskTransaction attempt taskId)
      (cancelTaskNoTransaction attempt taskId))

/-- The agents whose last heartbeat is before the cutoff and who are not offline yet. -/
def staleFilter (now : Time) (offlineAfterSec : Int) : AgentFilter where
  statusNot := .offline
  lastHeartbeatBefore := now - offlineAfterSec * 1000

def offlineUnassign (now : Time) : AssignmentSet where
  unassignedAt := now
  reason := "agent_offline"

def activeTasksOf (agentId : String) : TaskFilter where
  assignedAgent := some (some agentId)
  states := some [.running, .queued]

def requeueSet : TaskSet where
  state := some .queued
  assignedAgent := some none
  startedAt := some none
  errorMessage := some "agent_offline_requeued"

/-- The loop over the agents to take offline: three writes for each. -/
def requeueLoop (now : Time) : List String → MongoProgram Unit
  | [] => return ()
  | agentId :: agentIds => do
      let _ ← issue (.agentsUpdateOne agentId { status := some .offline })
      issue (.taskAssignmentsUpdateMany { agentId := some agentId } (offlineUnassign now))
      issue (.tasksUpdateMany (activeTasksOf agentId) requeueSet)
      requeueLoop now agentIds

def markOfflineAgentsAndRequeueTransaction (attempt : Attempt) (offlineAfterSec : Int) :
    MongoProgram (SessionEnd Int) := do
  let candidates ← issue (.agentsFind (staleFilter attempt.now offlineAfterSec))
  let offlineIds := (candidates : List AgentRow).map AgentRow.agentId
  if offlineIds.isEmpty then
    return .commit 0
  else do
    requeueLoop attempt.later offlineIds
    return .commit offlineIds.length

def markOfflineAgentsAndRequeueNoTransaction (attempt : Attempt) (offlineAfterSec : Int) :
    MongoProgram Int := do
  let candidates ← issue (.agentsFind (staleFilter attempt.now offlineAfterSec))
  let offlineIds := (candidates : List AgentRow).map AgentRow.agentId
  if offlineIds.isEmpty then
    return 0
  else do
    requeueLoop attempt.later offlineIds
    return offlineIds.length

def markOfflineAgentsAndRequeue (attempts : List Attempt) (offlineAfterSec : Int) :
    DbAction Int :=
  orElse 0 (executeWithRetry attempts fun attempt =>
    withTransaction attempt (markOfflineAgentsAndRequeueTransaction attempt offlineAfterSec)
      (markOfflineAgentsAndRequeueNoTransaction attempt offlineAfterSec))

end MongoBroker

def mongoBroker : Broker where
  upsertAgent := MongoBroker.upsertAgent
  updateHeartbeat := MongoBroker.updateHeartbeat
  getAgent := MongoBroker.getAgent
  listAgents := MongoBroker.listAgents
  createTask := MongoBroker.createTask
  getTask := MongoBroker.getTask
  listTasks := MongoBroker.listTasks
  pollTasksForAgent := MongoBroker.pollTasksForAgent
  updateTaskStatus := MongoBroker.updateTaskStatus
  cancelTask := MongoBroker.cancelTask
  markOfflineAgentsAndRequeue := MongoBroker.markOfflineAgentsAndRequeue

end DistributedComputing
