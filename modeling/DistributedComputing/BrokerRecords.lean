import DistributedComputing.JsonValue
import DistributedComputing.IsoTime

/-!
# States, statuses and records of the broker interface

The enumerations with their three spellings (in the API, in the database, in C++) and
the records that `Broker` takes and returns.
-/

namespace DistributedComputing

/-- `ToLowerCopy`: ASCII letters to lower case. -/
def toLowerCopy (value : String) : String :=
  String.ofList (value.toList.map Char.toLower)

/-- `isspace`. -/
def isSpace (char : Char) : Bool :=
  char ∈ [' ', '\t', '\n', Char.ofNat 11, Char.ofNat 12, '\r']

inductive AgentStatus
  | idle
  | busy
  | offline
  deriving DecidableEq, Repr

inductive TaskState
  | queued
  | running
  | succeeded
  | failed
  | canceled
  deriving DecidableEq, Repr

def agentStatusFromApi (value : String) : Option AgentStatus :=
  if value.isEmpty then none
  else
    let lower := toLowerCopy value
    if lower = "idle" then some .idle
    else if lower = "busy" then some .busy
    else if lower = "offline" then some .offline
    else none

def taskStateFromApi (value : String) : Option TaskState :=
  if value.isEmpty then none
  else
    let lower := toLowerCopy value
    if lower = "queued" then some .queued
    else if lower = "running" then some .running
    else if lower = "succeeded" then some .succeeded
    else if lower = "failed" then some .failed
    else if lower = "canceled" then some .canceled
    else none

def agentStatusToDb : AgentStatus → String
  | .idle => "Idle"
  | .busy => "Busy"
  | .offline => "Offline"

def taskStateToDb : TaskState → String
  | .queued => "Queued"
  | .running => "Running"
  | .succeeded => "Succeeded"
  | .failed => "Failed"
  | .canceled => "Canceled"

def agentStatusToApi : AgentStatus → String
  | .idle => "idle"
  | .busy => "busy"
  | .offline => "offline"

def taskStateToApi : TaskState → String
  | .queued => "queued"
  | .running => "running"
  | .succeeded => "succeeded"
  | .failed => "failed"
  | .canceled => "canceled"

/-- What the database stores for a state is read back as that state. -/
@[simp]
theorem taskStateFromApi_toDb (state : TaskState) :
    taskStateFromApi (taskStateToDb state) = some state := by
  cases state <;> decide

@[simp]
theorem taskStateFromApi_toApi (state : TaskState) :
    taskStateFromApi (taskStateToApi state) = some state := by
  cases state <;> decide

@[simp]
theorem agentStatusFromApi_toDb (status : AgentStatus) :
    agentStatusFromApi (agentStatusToDb status) = some status := by
  cases status <;> decide

@[simp]
theorem agentStatusFromApi_toApi (status : AgentStatus) :
    agentStatusFromApi (agentStatusToApi status) = some status := by
  cases status <;> decide

/-- The states after which a task is over. -/
def TaskState.terminal : TaskState → Bool
  | .succeeded => true
  | .failed => true
  | .canceled => true
  | _ => false

structure AgentInput where
  agentId : String
  os : String
  version : String
  cpuCores : Int := 0
  ramMb : Int := 0
  slots : Int := 0

structure AgentHeartbeat where
  agentId : String
  status : AgentStatus := .idle

structure AgentRecord where
  agentId : String
  os : String
  version : String
  cpuCores : Int := 0
  ramMb : Int := 0
  slots : Int := 0
  status : AgentStatus := .idle
  lastHeartbeat : String

structure TaskInput where
  command : String
  args : Json
  env : Json
  timeoutSec : Option Int
  constraints : Json

structure TaskRecord where
  taskId : Int := 0
  state : TaskState := .queued
  command : String
  args : Json
  env : Json
  timeoutSec : Option Int
  assignedAgent : Option String
  createdAt : String
  startedAt : Option String
  finishedAt : Option String
  exitCode : Option Int
  errorMessage : Option String
  constraints : Json

structure TaskSummary where
  taskId : Int := 0
  state : TaskState := .queued

structure TaskDispatch where
  taskId : Int := 0
  command : String
  args : Json
  env : Json
  timeoutSec : Option Int
  constraints : Json

/-- The optional fields of a status report, as `UpdateTaskStatus` takes them. -/
structure TaskStatusUpdate where
  state : TaskState := .queued
  exitCode : Option Int
  startedAt : Option String
  finishedAt : Option String
  errorMessage : Option String

inductive CancelTaskResult
  | ok
  | notFound
  | invalidState
  | error
  deriving DecidableEq

/-- `NormalizeConstraints`: the members the scheduler knows, with the right types. -/
def normalizeConstraints (input : Json) : Json :=
  if input.isObject then
    (((Json.object []).insertSome "os" ((input.stringMember "os").map .string)).insertSome
      "cpu_cores" ((input.integerMember "cpu_cores").map .integer)).insertSome
      "ram_mb" ((input.integerMember "ram_mb").map .integer)
      |>.insertSome "labels" ((input.arrayMember "labels").map .array)
  else .object []

namespace Json

theorem isObject_normalizeConstraints (input : Json) : (normalizeConstraints input).IsObject := by
  unfold normalizeConstraints
  split
  · repeat apply IsObject.insertSome
    trivial
  · trivial

/-- The value of a member that the scheduler knows, if it has the right type. -/
def constraint (input : Json) (name : String) : Option Json :=
  if name = "labels" then (input.arrayMember "labels").map .array
  else if name = "ram_mb" then (input.integerMember "ram_mb").map .integer
  else if name = "cpu_cores" then (input.integerMember "cpu_cores").map .integer
  else if name = "os" then (input.stringMember "os").map .string
  else none

theorem constraint_of_not_isObject {input : Json} (noObject : ¬ input.isObject = true)
    (name : String) : input.constraint name = none := by
  have noMember : ∀ other, input.member other = none := by
    intro other
    cases input <;> simp_all [member, Json.isObject]
  have noString : ∀ other, input.stringMember other = none := fun other => by
    rw [stringMember, noMember, Option.bind_none]
  have noInteger : ∀ other, input.integerMember other = none := fun other => by
    rw [integerMember, noMember, Option.bind_none]
  have noArray : ∀ other, input.arrayMember other = none := fun other => by
    rw [arrayMember, noMember, Option.bind_none]
  simp only [constraint, noString, noInteger, noArray, Option.map_none, ite_self]

theorem member_normalizeConstraints (input : Json) (name : String) :
    (normalizeConstraints input).member name = input.constraint name := by
  by_cases isObject : input.isObject = true
  · rw [normalizeConstraints, if_pos isObject]
    have empty : (Json.object []).IsObject := trivial
    have withOs := empty.insertSome "os" ((input.stringMember "os").map .string)
    have withCpuCores :=
      withOs.insertSome "cpu_cores" ((input.integerMember "cpu_cores").map .integer)
    have withRamMb :=
      withCpuCores.insertSome "ram_mb" ((input.integerMember "ram_mb").map .integer)
    simp only [withRamMb.member_insertSome, withCpuCores.member_insertSome,
      withOs.member_insertSome, empty.member_insertSome, member_object, find, Option.or_none,
      String.reduceEq, if_false]
    rfl
  · rw [normalizeConstraints, if_neg isObject, constraint_of_not_isObject isObject]
    rfl

theorem integerMember_normalizeConstraints (input : Json) {name : String}
    (known : name = "cpu_cores" ∨ name = "ram_mb") :
    (normalizeConstraints input).integerMember name = input.integerMember name := by
  rw [integerMember, member_normalizeConstraints]
  rcases known with rfl | rfl
  · cases held : input.integerMember "cpu_cores" <;> simp [constraint, held, asInteger]
  · cases held : input.integerMember "ram_mb" <;> simp [constraint, held, asInteger]

/-- Normalising twice is normalising once. -/
theorem normalizeConstraints_normalizeConstraints (input : Json) :
    normalizeConstraints (normalizeConstraints input) = normalizeConstraints input := by
  have os : (normalizeConstraints input).stringMember "os" = input.stringMember "os" := by
    rw [stringMember, member_normalizeConstraints]
    cases held : input.stringMember "os" <;> simp [constraint, held, asString]
  have cpuCores : (normalizeConstraints input).integerMember "cpu_cores" =
      input.integerMember "cpu_cores" := integerMember_normalizeConstraints input (.inl rfl)
  have ramMb : (normalizeConstraints input).integerMember "ram_mb" =
      input.integerMember "ram_mb" := integerMember_normalizeConstraints input (.inr rfl)
  have labels : (normalizeConstraints input).arrayMember "labels" =
      input.arrayMember "labels" := by
    rw [arrayMember, member_normalizeConstraints]
    cases held : input.arrayMember "labels" <;> simp [constraint, held, asArray]
  by_cases isObject : input.isObject = true
  · rw [normalizeConstraints, (isObject_normalizeConstraints input).isObject_eq, os, cpuCores,
      ramMb, labels]
    simp [normalizeConstraints, isObject]
  · simp [normalizeConstraints, isObject, stringMember, integerMember, arrayMember, find,
      insertSome]

end Json

end DistributedComputing
