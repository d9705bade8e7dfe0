import DistributedComputing.ControlService

/-!
# The worker's client

The bodies that `AgentClient` sends and what it reads from the answers.  An answer is
absent when the request failed on the way.
-/

namespace DistributedComputing

namespace AgentClient

structure AgentRegistration where
  agentId : String
  os : String
  version : String
  cpuCores : Int := 0
  ramMb : Int := 0
  slots : Int := 1

/-- A task as the worker receives it; its id is a text here. -/
structure TaskDispatch where
  taskId : String
  command : String
  args : List String
  env : Json
  timeoutSec : Option Int
  constraints : Json

def registerAgent (registration : AgentRegistration) : Request :=
  .upsertAgent registration.agentId <| .json <| .object
    [("os", .string registration.os), ("version", .string registration.version),
      ("resources", .object
        [("cpu_cores", .integer registration.cpuCores), ("ram_mb", .integer registration.ramMb),
          ("slots", .integer registration.slots)])]

def sendHeartbeat (agentId status : String) : Request :=
  .agentHeartbeat agentId (.json (.object [("status", .string status)]))

def pollTasks (agentId : String) (freeSlots : Int) : Request :=
  .pollTasks agentId (.json (.object [("free_slots", .integer freeSlots)]))

def getTaskState (taskId : String) : Request :=
  .getTask taskId

def updateTaskStatus (taskId state : String) (exitCode : Option Int)
    (startedAt finishedAt errorMessage : Option String) : Request :=
  .updateTaskStatus taskId <| .json <|
    ((((Json.object [("state", .string state)]).insertSome
      "exit_code" (exitCode.map .integer)).insertSome
      "started_at" (startedAt.map .string)).insertSome
      "finished_at" (finishedAt.map .string)).insertSome
      "error_message" (errorMessage.map .string)

/-- `IsSuccess`: an answer of the 200 family arrived. -/
def isSuccess : Option Response → Bool
  | some response => decide (200 ≤ response.status ∧ response.status < 300)
  | none => false

/-- One item of a poll answer.  An item without id or command is skipped; a command
that is not a string raises, which makes the whole answer useless. -/
def parseDispatch (item : Json) : Option (Option TaskDispatch) :=
  match item.integerMember "task_id", item.member "command" with
  | some taskId, some command => do
      let command ← command.asString
      return some
        { taskId := toString taskId
          command := command
          args := ((item.arrayMember "args").getD []).filterMap Json.asString
          env := (item.objectMember "env").getD (.object [])
          timeoutSec := (item.integerMember "timeout_sec").map toInt32
          constraints := (item.objectMember "constraints").getD (.object []) }
  | _, _ => some none

/-- The tasks of a poll answer, when the poll succeeded. -/
def receivedTasks (answer : Option Response) : Option (List TaskDispatch) :=
  match answer with
  | none => none
  | some response =>
      if isSuccess answer then do
        let items ← response.body.arrayMember "tasks"
        let tasks ← items.mapM parseDispatch
        return tasks.filterMap id
      else none

/-- The state in the answer to `GetTaskState`. -/
def receivedState (answer : Option Response) : Option String :=
  match answer with
  | none => none
  | some response =>
      if isSuccess answer then (response.body.objectMember "task").bind (Json.stringMember "state")
      else none

end AgentClient

/-! ## What the master reads from these bodies -/

namespace Json

@[simp]
theorem isObject_object (members : List (String × Json)) : (Json.object members).IsObject :=
  trivial

end Json

namespace ControlService

open AgentClient

/-- The update that a status body stands for. -/
theorem parseBody_updateTaskStatus {state : String} {parsed : TaskState}
    (known : taskStateFromApi state = some parsed) (exitCode : Option Int)
    (startedAt finishedAt errorMessage : Option String) :
    ∃ body, (∀ taskId, updateTaskStatus taskId state exitCode startedAt finishedAt errorMessage =
        .updateTaskStatus taskId body) ∧
      parseBody Api.parseTaskStatusUpdate body = .ok
        { state := parsed
          exitCode := exitCode.map toInt32
          startedAt := startedAt.filter fun value => !value.isEmpty
          finishedAt := finishedAt.filter fun value => !value.isEmpty
          errorMessage := errorMessage.filter fun value => !value.isEmpty } := by
  refine ⟨_, fun _ => rfl, ?_⟩
  cases exitCode <;> cases startedAt <;> cases finishedAt <;> cases errorMessage <;>
    simp [parseBody, parseJsonBody, Api.parseTaskStatusUpdate, Api.optionalNonEmptyStringField,
      Json.insertSome, Json.assign, Json.stringMember, Json.integerMember, Json.find,
      Json.asString, Json.asInteger, known, bind, Except.bind, Option.filter]

end ControlService

/-! ## What the worker reads from the answers -/

namespace AgentClient

open ControlService

/-- What the worker makes of a task that the broker sends. -/
def received (dispatch : DistributedComputing.TaskDispatch) : TaskDispatch where
  taskId := toString dispatch.taskId
  command := dispatch.command
  args := (dispatch.args.asArray.getD []).filterMap Json.asString
  env := if dispatch.env.isObject then dispatch.env else .object []
  timeoutSec := dispatch.timeoutSec.map toInt32
  constraints := if dispatch.constraints.isObject then dispatch.constraints else .object []

theorem parseDispatch_taskDispatchToJson (dispatch : DistributedComputing.TaskDispatch) :
    parseDispatch (Api.taskDispatchToJson dispatch) = some (some (received dispatch)) := by
  let sent := Json.object
    [("task_id", .integer dispatch.taskId), ("command", .string dispatch.command),
      ("args", dispatch.args), ("env", dispatch.env)]
  have isObject : sent.IsObject := trivial
  have early : ∀ name, "timeout_sec" ≠ name → "constraints" ≠ name →
      (Api.taskDispatchToJson dispatch).member name = sent.member name := by
    intro name notTimeout notConstraints
    unfold Api.taskDispatchToJson
    rw [Json.member_insertSome_of_ne notConstraints, Json.member_insertSome_of_ne notTimeout]
  have command : (Api.taskDispatchToJson dispatch).member "command" =
      some (.string dispatch.command) := early "command" (by decide) (by decide)
  have args : (Api.taskDispatchToJson dispatch).arrayMember "args" = dispatch.args.asArray := by
    rw [Json.arrayMember, early "args" (by decide) (by decide)]
    rfl
  have env : (Api.taskDispatchToJson dispatch).objectMember "env" =
      if dispatch.env.isObject then some dispatch.env else none := by
    rw [Json.objectMember, early "env" (by decide) (by decide)]
    exact Option.filter_some
  have timeoutSec : (Api.taskDispatchToJson dispatch).integerMember "timeout_sec" =
      dispatch.timeoutSec := by
    unfold Api.taskDispatchToJson Json.integerMember
    rw [Json.member_insertSome_of_ne (by decide), isObject.member_insertSome_self _ _ rfl]
    cases dispatch.timeoutSec <;> rfl
  have constraints : (Api.taskDispatchToJson dispatch).objectMember "constraints" =
      if dispatch.constraints.isObject then some dispatch.constraints else none := by
    have withTimeout := isObject.insertSome "timeout_sec" (dispatch.timeoutSec.map .integer)
    have absent : (sent.insertSome "timeout_sec" (dispatch.timeoutSec.map .integer)).member
        "constraints" = none := by
      rw [Json.member_insertSome_of_ne (by decide)]
      rfl
    unfold Api.taskDispatchToJson Json.objectMember
    rw [withTimeout.member_insertSome_self _ _ absent]
    cases dispatch.constraints <;> rfl
  unfold parseDispatch
  rw [Api.integerMember_taskDispatchToJson, command, args, env, timeoutSec, constraints]
  unfold received
  simp only [apply_ite (fun held : Option Json => held.getD (.object [])), Option.getD_some,
    Option.getD_none]
  rfl

/-- The worker receives every task of the answer to its poll. -/
theorem receivedTasks_dispatchesResponse (dispatches : List DistributedComputing.TaskDispatch) :
    receivedTasks (some (dispatchesResponse dispatches)) = some (dispatches.map received) := by
  have parsed : (dispatches.map Api.taskDispatchToJson).mapM parseDispatch =
      some (dispatches.map fun dispatch => some (received dispatch)) := by
    induction dispatches with
    | nil => rfl
    | cons dispatch dispatches ih =>
        rw [List.map_cons, List.mapM_cons, parseDispatch_taskDispatchToJson, ih]
        rfl
  have items : (dispatchesResponse dispatches).body.arrayMember "tasks" =
      some (dispatches.map Api.taskDispatchToJson) := rfl
  have succeeds : isSuccess (some (dispatchesResponse dispatches)) = true := rfl
  simp only [receivedTasks, succeeds, if_true, items, parsed, bind, Option.bind, pure]
  simp

theorem receivedState_getTask (task : TaskRecord) :
    receivedState (some { status := 200, body := .object [("task", Api.taskRecordToJson task)] }) =
      some (taskStateToApi task.state) := by
  have isObject : (Api.taskRecordToJson task).isObject = true := by
    apply Json.IsObject.isObject_eq
    unfold Api.taskRecordToJson
    repeat first | apply Json.IsObject.insertSome | apply Json.IsObject.insert
    trivial
  have state : (Api.taskRecordToJson task).stringMember "state" =
      some (taskStateToApi task.state) := by
    unfold Api.taskRecordToJson Json.stringMember
    rw [Json.member_insert_of_ne (by decide)]
    repeat rw [Json.member_insertSome_of_ne (by decide)]
    rw [Json.member_insert_of_ne (by decide)]
    repeat rw [Json.member_insertSome_of_ne (by decide)]
    rfl
  simp [receivedState, isSuccess, Json.objectMember, Json.find, Option.filter, isObject, state]

end AgentClient

end DistributedComputing
