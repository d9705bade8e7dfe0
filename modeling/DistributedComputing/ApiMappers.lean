import DistributedComputing.BrokerRecords

/-!
# Mapping between JSON bodies and broker records
-/

namespace DistributedComputing

namespace Api

/-- `OptionalNonEmptyStringField`. -/
def optionalNonEmptyStringField (body : Json) (name : String) : Option String :=
  (body.stringMember name).filter fun value => !value.isEmpty

/-- `SanitizeStringArray`: the strings among the items of an array. -/
def sanitizeStringArray : Json → Json
  | .array items => .array (items.filter fun item => item.asString.isSome)
  | _ => .array []

def parseAgentInput (agentId : String) (body : Json) : Except String AgentInput :=
  match body.stringMember "os", body.stringMember "version", body.objectMember "resources" with
  | some os, some version, some resources =>
      match resources.integerMember "cpu_cores", resources.integerMember "ram_mb",
          resources.integerMember "slots" with
      | some cpuCores, some ramMb, some slots =>
          .ok
            { agentId := agentId
              os := os
              version := version
              cpuCores := toInt32 cpuCores
              ramMb := toInt32 ramMb
              slots := toInt32 slots }
      | _, _, _ => .error "Invalid resources payload"
  | _, _, _ => .error "Missing required fields"

def parseAgentHeartbeat (agentId : String) (body : Json) : Except String AgentHeartbeat :=
  match body.stringMember "status" with
  | none => .error "Missing status"
  | some status =>
      match agentStatusFromApi status with
      | none => .error "Invalid agent status"
      | some parsed => .ok { agentId := agentId, status := parsed }

theorem agentId_of_parseAgentInput {agentId : String} {body : Json} {agent : AgentInput}
    (parsed : parseAgentInput agentId body = .ok agent) : agent.agentId = agentId := by
  unfold parseAgentInput at parsed
  split at parsed
  · split at parsed
    · cases parsed
      rfl
    · cases parsed
  · cases parsed

theorem agentId_of_parseAgentHeartbeat {agentId : String} {body : Json}
    {heartbeat : AgentHeartbeat} (parsed : parseAgentHeartbeat agentId body = .ok heartbeat) :
    heartbeat.agentId = agentId := by
  unfold parseAgentHeartbeat at parsed
  split at parsed
  · cases parsed
  · split at parsed
    · cases parsed
    · cases parsed
      rfl

def parseTaskCreate (body : Json) : Except String TaskInput :=
  match body.stringMember "command" with
  | none => .error "Missing command"
  | some command =>
      .ok
        { command := command
          args := match body.member "args" with
            | some args => sanitizeStringArray args
            | none => .array []
          env := (body.objectMember "env").getD (.object [])
          timeoutSec := (body.integerMember "timeout_sec").map toInt32
          constraints := (body.objectMember "constraints").getD (.object []) }

def parseTaskStatusUpdate (body : Json) : Except String TaskStatusUpdate :=
  match body.stringMember "state" with
  | none => .error "Missing state"
  | some state =>
      match taskStateFromApi state with
      | none => .error "Invalid task state"
      | some parsed =>
          .ok
            { state := parsed
              exitCode := (body.integerMember "exit_code").map toInt32
              startedAt := optionalNonEmptyStringField body "started_at"
              finishedAt := optionalNonEmptyStringField body "finished_at"
              errorMessage := optionalNonEmptyStringField body "error_message" }

def agentRecordToJson (agent : AgentRecord) : Json :=
  .object
    [("agent_id", .string agent.agentId), ("os", .string agent.os),
      ("version", .string agent.version),
      ("resources", .object
        [("cpu_cores", .integer agent.cpuCores), ("ram_mb", .integer agent.ramMb),
          ("slots", .integer agent.slots)]),
      ("status", .string (agentStatusToApi agent.status)),
      ("last_heartbeat", .string agent.lastHeartbeat)]

def taskRecordToJson (task : TaskRecord) : Json :=
  (((((((Json.object
    [("task_id", .integer task.taskId), ("state", .string (taskStateToApi task.state)),
      ("command", .string task.command), ("args", task.args), ("env", task.env)]).insertSome
    "timeout_sec" (task.timeoutSec.map .integer)).insertSome
    "assigned_agent" (task.assignedAgent.map .string)).insert
    "created_at" (.string task.createdAt)).insertSome
    "started_at" (task.startedAt.map .string)).insertSome
    "finished_at" (task.finishedAt.map .string)).insertSome
    "exit_code" (task.exitCode.map .integer)).insertSome
    "error_message" (task.errorMessage.map .string)
    |>.insert "constraints" task.constraints

def agentSummaryToJson (agent : AgentRecord) : Json :=
  .object [("agent_id", .string agent.agentId), ("status", .string (agentStatusToApi agent.status))]

def taskSummaryToJson (task : TaskSummary) : Json :=
  .object [("task_id", .integer task.taskId), ("state", .string (taskStateToApi task.state))]

def taskDispatchToJson (task : TaskDispatch) : Json :=
  ((Json.object
    [("task_id", .integer task.taskId), ("command", .string task.command),
      ("args", task.args), ("env", task.env)]).insertSome
    "timeout_sec" (task.timeoutSec.map .integer)).insertSome
    "constraints" (if task.constraints.isNull then none else some task.constraints)

@[simp]
theorem integerMember_taskDispatchToJson (dispatch : TaskDispatch) :
    (taskDispatchToJson dispatch).integerMember "task_id" = some dispatch.taskId := by
  unfold taskDispatchToJson Json.integerMember
  rw [Json.member_insertSome_of_ne (by decide), Json.member_insertSome_of_ne (by decide)]
  rfl

/-- `ParseTaskId`: decimal digits only, positive, and within 64 bits. -/
def parseTaskId (raw : String) : Option Int :=
  let digits := raw.toList
  if digits ≠ [] ∧ digits.all Char.isDigit then
    let value := digits.foldl (fun total digit => 10 * total + (digit.toNat - '0'.toNat)) 0
    if 0 < value ∧ value < 2 ^ 63 then some value else none
  else none

/-- The text of an id is read back as that id, if it is one that a task can have. -/
theorem parseTaskId_toString (taskId : Int) :
    parseTaskId (toString taskId) =
      if 0 < taskId ∧ taskId < 2 ^ 63 then some taskId else none := by
  cases taskId with
  | ofNat number =>
      have digits : (toString (Int.ofNat number)).toList = Nat.toDigits 10 number :=
        Nat.toList_repr
      have isDigit : (Nat.toDigits 10 number).all Char.isDigit = true := by
        rw [List.all_eq_true]
        exact fun char member => Nat.isDigit_of_mem_toDigits (by decide) (by decide) member
      have value := Nat.ofDigitChars_ten_toDigits (n := number)
      rw [Nat.ofDigitChars_eq_foldl] at value
      have sameRange : (0 < Int.ofNat number ∧ Int.ofNat number < 2 ^ 63) ↔
          (0 < number ∧ number < 2 ^ 63) := by
        simp only [Int.ofNat_eq_natCast]
        omega
      unfold parseTaskId
      simp only [digits, isDigit, value, sameRange, and_true, ne_eq, Nat.toDigits_ne_nil,
        not_false_eq_true, if_true]
      rfl
  | negSucc number =>
      have minus : (toString (Int.negSucc number)).toList =
          '-' :: (Nat.repr (number + 1)).toList :=
        String.toList_append
      unfold parseTaskId
      rw [minus]
      simp

def isValidTaskStateTransition (before after : TaskState) : Bool :=
  if before = after then true
  else
    match before with
    | .queued => decide (after = .running) || decide (after = .canceled)
    | .running =>
        decide (after = .succeeded) || decide (after = .failed) || decide (after = .canceled)
    | _ => false

end Api

end DistributedComputing
