import DistributedComputing.ApiMappers
import DistributedComputing.PgBroker
import DistributedComputing.MongoBroker

/-!
# The request handlers of the master

Each handler takes the part of the path that its route matches and the body of the
request, calls the broker, and answers.
-/

namespace DistributedComputing

/-- A request body as `ParseJsonBody` sees it: empty, not JSON, or a JSON text. -/
inductive Body
  | empty
  | invalid (what : String)
  | json (value : Json)

structure Response where
  status : Nat
  body : Json

namespace ControlService

def makeError (code message : String) (details : Json := .object []) : Json :=
  .object [("error", .object
    [("code", .string code), ("message", .string message), ("details", details)])]

def errorResponse (status : Nat) (code message : String) (details : Json := .object []) :
    Response where
  status := status
  body := makeError code message details

def okResponse : Response where
  status := 200
  body := .object [("status", .string "ok")]

def dbErrorResponse (error : DbError) : Response :=
  errorResponse 500 "DB_ERROR" error.what

def taskNotFoundResponse (taskId : Int) : Response :=
  errorResponse 404 "TASK_NOT_FOUND" "Task not found" (.object [("task_id", .integer taskId)])

def agentNotFoundResponse (agentId : String) : Response :=
  errorResponse 404 "AGENT_NOT_FOUND" "Agent not found"
    (.object [("agent_id", .string agentId)])

def invalidTaskIdResponse : Response :=
  errorResponse 400 "BAD_REQUEST" "Invalid task_id"

/-- `ParseJsonBody` with the answer that every handler gives when it fails. -/
def parseJsonBody : Body → Except Response Json
  | .empty => .ok (.object [])
  | .invalid what =>
      .error (errorResponse 400 "BAD_REQUEST" "Invalid JSON" (.object [("error", .string what)]))
  | .json value => .ok value

/-- Parse a body with one of the functions of `api_mappers`. -/
def parseBody {Result : Type} (parse : Json → Except String Result) (body : Body) :
    Except Response Result := do
  let json ← parseJsonBody body
  match parse json with
  | .ok result => .ok result
  | .error message => .error (errorResponse 400 "BAD_REQUEST" message)

/-- The only field of a poll request. -/
def parseFreeSlots (body : Json) : Except String Int :=
  match body.integerMember "free_slots" with
  | some freeSlots => .ok (toInt32 freeSlots)
  | none => .error "Missing free_slots"

/-- `std::stoi`: blanks, a sign and the digits up to the first other character. -/
def stoi (value : String) : Option Int :=
  let (negative, rest) := match value.toList.dropWhile isSpace with
    | '-' :: rest => (true, rest)
    | '+' :: rest => (false, rest)
    | rest => (false, rest)
  let digits := rest.takeWhile Char.isDigit
  let magnitude : Int :=
    digits.foldl (fun total digit => 10 * total + (digit.toNat - '0'.toNat : Nat)) 0
  let number := if negative then -magnitude else magnitude
  if digits ≠ [] ∧ -2 ^ 31 ≤ number ∧ number < 2 ^ 31 then some number else none

/-- `GetQueryParamInt`. -/
def getQueryParamInt (value : Option String) (fallback : Int) : Int :=
  (value.bind stoi).getD fallback

/-- A query parameter that must name a status or a state when it is there. -/
def parseQueryParam {Value : Type} (parse : String → Option Value) (message : String) :
    Option String → Except Response (Option Value)
  | none => .ok none
  | some raw =>
      match parse raw with
      | some value => .ok (some value)
      | none => .error (errorResponse 400 "BAD_REQUEST" message)

section Handlers

variable (broker : Broker)

/-- Upsert an agent.  What `UpsertAgent` returns is not looked at. -/
def handleUpsertAgent (heartbeatIntervalSec : Int) (attempts : List Attempt)
    (agentId : String) (body : Body) (store : Store) : Response × Store :=
  match parseBody (Api.parseAgentInput agentId) body with
  | .error response => (response, store)
  | .ok agent =>
      match broker.upsertAgent attempts agent store with
      | (.error error, after) => (dbErrorResponse error, after)
      | (.ok _, after) =>
          ({ status := 200
             body := .object
              [("status", .string "ok"),
                ("heartbeat_interval_sec", .integer heartbeatIntervalSec)] }, after)

def handleAgentHeartbeat (attempts : List Attempt) (agentId : String) (body : Body)
    (store : Store) : Response × Store :=
  match parseBody (Api.parseAgentHeartbeat agentId) body with
  | .error response => (response, store)
  | .ok heartbeat =>
      match broker.updateHeartbeat attempts heartbeat store with
      | (.error error, after) => (dbErrorResponse error, after)
      | (.ok false, after) => (agentNotFoundResponse agentId, after)
      | (.ok true, after) => (okResponse, after)

/-- The answer to a poll that found the agent. -/
def dispatchesResponse (dispatches : List TaskDispatch) : Response where
  status := 200
  body := .object [("tasks", .array (dispatches.map Api.taskDispatchToJson))]

def handlePollTasks (attempts : List Attempt) (agentId : String) (body : Body)
    (store : Store) : Response × Store :=
  match parseBody parseFreeSlots body with
  | .error response => (response, store)
  | .ok freeSlots =>
      match broker.pollTasksForAgent attempts agentId freeSlots store with
      | (.error error, after) => (dbErrorResponse error, after)
      | (.ok none, after) => (agentNotFoundResponse agentId, after)
      | (.ok (some dispatches), after) => (dispatchesResponse dispatches, after)

def handleCreateTask (attempts : List Attempt) (body : Body) (store : Store) :
    Response × Store :=
  match parseBody Api.parseTaskCreate body with
  | .error response => (response, store)
  | .ok task =>
      match broker.createTask attempts task store with
      | (.error error, after) => (dbErrorResponse error, after)
      | (.ok taskId, after) =>
          if taskId ≤ 0 then (errorResponse 500 "DB_ERROR" "Failed to create task", after)
          else ({ status := 201, body := .object [("task_id", .integer taskId)] }, after)

def handleGetTask (attempts : List Attempt) (taskIdRaw : String) (store : Store) :
    Response × Store :=
  match Api.parseTaskId taskIdRaw with
  | none => (invalidTaskIdResponse, store)
  | some taskId =>
      match broker.getTask attempts taskId store with
      | (.error error, after) => (dbErrorResponse error, after)
      | (.ok none, after) => (taskNotFoundResponse taskId, after)
      | (.ok (some task), after) =>
          ({ status := 200, body := .object [("task", Api.taskRecordToJson task)] }, after)

def handleGetAgent (attempts : List Attempt) (agentId : String) (store : Store) :
    Response × Store :=
  match broker.getAgent attempts agentId store with
  | (.error error, after) => (dbErrorResponse error, after)
  | (.ok none, after) => (agentNotFoundResponse agentId, after)
  | (.ok (some agent), after) =>
      ({ status := 200, body := .object [("agent", Api.agentRecordToJson agent)] }, after)

def handleListTasks (attempts : List Attempt) (state agentId limit offset : Option String)
    (store : Store) : Response × Store :=
  match parseQueryParam taskStateFromApi "Invalid task state" state with
  | .error response => (response, store)
  | .ok state =>
      match broker.listTasks attempts state agentId (getQueryParamInt limit 50)
          (getQueryParamInt offset 0) store with
      | (.error error, after) => (dbErrorResponse error, after)
      | (.ok tasks, after) =>
          ({ status := 200
             body := .object [("tasks", .array (tasks.map Api.taskSummaryToJson))] }, after)

def handleListAgents (attempts : List Attempt) (status limit offset : Option String)
    (store : Store) : Response × Store :=
  match parseQueryParam agentStatusFromApi "Invalid agent status" status with
  | .error response => (response, store)
  | .ok status =>
      match broker.listAgents attempts status (getQueryParamInt limit 50)
          (getQueryParamInt offset 0) store with
      | (.error error, after) => (dbErrorResponse error, after)
      | (.ok agents, after) =>
          ({ status := 200
             body := .object [("agents", .array (agents.map Api.agentSummaryToJson))] }, after)

/-- The first half of `HandleUpdateTaskStatus`: parse, read the task, check the
transition.  What passes is the write that the second half makes. -/
def checkStatusUpdate (attempts : List Attempt) (taskIdRaw : String) (body : Body)
    (store : Store) : Except Response (Int × TaskStatusUpdate) × Store :=
  match Api.parseTaskId taskIdRaw with
  | none => (.error invalidTaskIdResponse, store)
  | some taskId =>
      match parseBody Api.parseTaskStatusUpdate body with
      | .error response => (.error response, store)
      | .ok update =>
          match broker.getTask attempts taskId store with
          | (.error error, after) => (.error (dbErrorResponse error), after)
          | (.ok none, after) => (.error (taskNotFoundResponse taskId), after)
          | (.ok (some current), after) =>
              if Api.isValidTaskStateTransition current.state update.state then
                (.ok (taskId, update), after)
              else
                (.error (errorResponse 409 "INVALID_STATE_TRANSITION"
                  "Invalid task state transition"
                  (.object [("from", .string (taskStateToApi current.state)),
                    ("to", .string (taskStateToApi update.state))])), after)

/-- The second half of `HandleUpdateTaskStatus`: the write, whatever the task is now. -/
def writeStatusUpdate (attempts : List Attempt) (taskId : Int) (update : TaskStatusUpdate)
    (store : Store) : Response × Store :=
  match broker.updateTaskStatus attempts taskId update store with
  | (.error error, after) => (dbErrorResponse error, after)
  | (.ok false, after) => (taskNotFoundResponse taskId, after)
  | (.ok true, after) => (okResponse, after)

def handleUpdateTaskStatus (readAttempts writeAttempts : List Attempt)
    (taskIdRaw : String) (body : Body) (store : Store) : Response × Store :=
  match checkStatusUpdate broker readAttempts taskIdRaw body store with
  | (.error response, after) => (response, after)
  | (.ok (taskId, update), after) => writeStatusUpdate broker writeAttempts taskId update after

def handleCancelTask (attempts : List Attempt) (taskIdRaw : String) (store : Store) :
    Response × Store :=
  match Api.parseTaskId taskIdRaw with
  | none => (invalidTaskIdResponse, store)
  | some taskId =>
      match broker.cancelTask attempts taskId store with
      | (.error error, after) => (dbErrorResponse error, after)
      | (.ok .notFound, after) => (taskNotFoundResponse taskId, after)
      | (.ok .invalidState, after) =>
          (errorResponse 409 "TASK_INVALID_STATE" "Task already finished; cannot cancel"
            (.object [("task_id", .integer taskId)]), after)
      | (.ok .ok, after) => (okResponse, after)
      | (.ok .error, after) => (errorResponse 500 "DB_ERROR" "Failed to cancel task", after)

/-- One pass of the maintenance thread; its exceptions are only logged. -/
def maintenance (attempts : List Attempt) (offlineAfterSec : Int) (store : Store) : Store :=
  (broker.markOfflineAgentsAndRequeue attempts offlineAfterSec store).2

end Handlers

end ControlService

/-- A request to one of the routes that reach the broker. -/
inductive Request
  | upsertAgent (agentId : String) (body : Body)
  | agentHeartbeat (agentId : String) (body : Body)
  | pollTasks (agentId : String) (body : Body)
  | createTask (body : Body)
  | getTask (taskId : String)
  | listTasks (state agentId limit offset : Option String)
  | getAgent (agentId : String)
  | listAgents (status limit offset : Option String)
  | updateTaskStatus (taskId : String) (body : Body)
  | cancelTask (taskId : String)

/-- The schedules of the one or two broker calls of a request. -/
structure Schedule where
  first : List Attempt
  second : List Attempt := []

/-- What a deployment configures. -/
structure MasterConfig where
  heartbeatIntervalSec : Int := 30
  offlineAfterSec : Int := 120

/-- A complete request, from its arrival to its answer. -/
def ControlService.handle (config : MasterConfig) (broker : Broker) (schedule : Schedule) :
    Request → Store → Response × Store
  | .upsertAgent agentId body =>
      handleUpsertAgent broker config.heartbeatIntervalSec schedule.first agentId body
  | .agentHeartbeat agentId body => handleAgentHeartbeat broker schedule.first agentId body
  | .pollTasks agentId body => handlePollTasks broker schedule.first agentId body
  | .createTask body => handleCreateTask broker schedule.first body
  | .getTask taskId => handleGetTask broker schedule.first taskId
  | .listTasks state agentId limit offset =>
      handleListTasks broker schedule.first state agentId limit offset
  | .getAgent agentId => handleGetAgent broker schedule.first agentId
  | .listAgents status limit offset =>
      handleListAgents broker schedule.first status limit offset
  | .updateTaskStatus taskId body =>
      handleUpdateTaskStatus broker schedule.first schedule.second taskId body
  | .cancelTask taskId => handleCancelTask broker schedule.first taskId

end DistributedComputing
