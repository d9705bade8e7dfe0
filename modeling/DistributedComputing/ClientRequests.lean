import DistributedComputing.Routes
import Mathlib.Data.List.Nodup

/-!
# Requests of the clients

What the worker and the command line send, and what arrives at the service: every request arrives
at the handler that it is for, with its id and with all of its parameters.
-/

namespace DistributedComputing

open Httplib

/-! ## Requests -/

/-- What the HTTP client is asked to send. -/
structure Sent where
  method : Bytes
  path : Bytes
  params : Params := noParams

/-- The target in the request line. -/
def Sent.target (sent : Sent) : Bytes :=
  pathWithQuery (getPath sent.path sent.params)

def Sent.stream (sent : Sent) : Bytes :=
  requestLine sent.method sent.target

/-- A handler that is called, the id that it gets and the parameters that it can find. -/
structure Call where
  endpoint : Endpoint
  id : Bytes := []
  params : Params := noParams

/-- What the service calls for a request when these routes are registered. -/
def arrive (routes : List Endpoint) (stream : Bytes) : Option Call :=
  (receive stream).bind fun request =>
    (routing routes request.method request.path).map fun found =>
      { endpoint := found.1, id := found.2, params := request.params }

def buildTaskPath (taskId suffix : Bytes) : Bytes :=
  tasksPath ++ taskId ++ suffix

/-- The bytes of a text. -/
def utf8 (text : String) : Bytes :=
  text.toByteArray.data.toList

/-- `std::to_string`. -/
def toDecimal (number : Int) : Bytes :=
  utf8 (toString number)

namespace Cli

def addParam (params : Params) (key : Bytes) (value : Option Bytes) : Params :=
  (value.filter fun value => !value.isEmpty).elim params (params.emplace key)

def pageParams (filtered : Params) (limit offset : Int) : Params :=
  (filtered.emplace (ascii "limit") (toDecimal limit)).emplace (ascii "offset") (toDecimal offset)

def tasksListParams (state agentId : Option Bytes) (limit offset : Int) : Params :=
  pageParams (addParam (addParam noParams (ascii "state") state) (ascii "agent_id") agentId)
    limit offset

def agentsListParams (status : Option Bytes) (limit offset : Int) : Params :=
  pageParams (addParam noParams (ascii "status") status) limit offset

def streamParams (stream : Bytes) : Params :=
  noParams.emplace (ascii "stream") stream

def tailParams (stream : Bytes) (offset : Nat) : Params :=
  (streamParams stream).emplace (ascii "from") (toDecimal offset)

end Cli

/-- The requests of `AgentClient` and of the commands. -/
inductive ClientRequest
  | registerAgent (agentId : Bytes)
  | sendHeartbeat (agentId : Bytes)
  | pollTasks (agentId : Bytes)
  | updateTaskStatus (taskId : Bytes)
  | uploadTaskLog (taskId : Bytes)
  | getTaskState (taskId : Bytes)
  | tasksList (state agentId : Option Bytes) (limit offset : Int)
  | tasksGet (taskId : Bytes)
  | tasksSubmit
  | tasksCancel (taskId : Bytes)
  | tasksLogs (taskId stream : Bytes)
  | tasksFollow (taskId stream : Bytes) (offset : Nat)
  | agentsList (status : Option Bytes) (limit offset : Int)
  | agentsGet (agentId : Bytes)

namespace ClientRequest

/-- What is sent.  The worker hands its paths over as C strings. -/
def sent : ClientRequest → Sent
  | .registerAgent agentId => ⟨ascii "PUT", cString (buildAgentPath agentId []), noParams⟩
  | .sendHeartbeat agentId =>
      ⟨ascii "POST", cString (buildAgentPath agentId (ascii "/heartbeat")), noParams⟩
  | .pollTasks agentId =>
      ⟨ascii "POST", cString (buildAgentPath agentId (ascii "/tasks:poll")), noParams⟩
  | .updateTaskStatus taskId =>
      ⟨ascii "POST", cString (buildTaskPath taskId (ascii "/status")), noParams⟩
  | .uploadTaskLog taskId =>
      ⟨ascii "POST", cString (buildTaskPath taskId (ascii "/logs:upload")), noParams⟩
  | .getTaskState taskId => ⟨ascii "GET", cString (buildTaskPath taskId []), noParams⟩
  | .tasksList state agentId limit offset =>
      ⟨ascii "GET", ascii "/api/v1/tasks", Cli.tasksListParams state agentId limit offset⟩
  | .tasksGet taskId => ⟨ascii "GET", tasksPath ++ taskId, noParams⟩
  | .tasksSubmit => ⟨ascii "POST", ascii "/api/v1/tasks", noParams⟩
  | .tasksCancel taskId => ⟨ascii "POST", tasksPath ++ taskId ++ ascii "/cancel", noParams⟩
  | .tasksLogs taskId stream =>
      ⟨ascii "GET", tasksPath ++ taskId ++ ascii "/logs", Cli.streamParams stream⟩
  | .tasksFollow taskId stream offset =>
      ⟨ascii "GET", tasksPath ++ taskId ++ ascii "/logs:tail", Cli.tailParams stream offset⟩
  | .agentsList status limit offset =>
      ⟨ascii "GET", ascii "/api/v1/agents", Cli.agentsListParams status limit offset⟩
  | .agentsGet agentId => ⟨ascii "GET", agentsPath ++ agentId, noParams⟩

/-- What is meant. -/
def call : ClientRequest → Call
  | .registerAgent agentId => ⟨.upsertAgent, agentId, noParams⟩
  | .sendHeartbeat agentId => ⟨.agentHeartbeat, agentId, noParams⟩
  | .pollTasks agentId => ⟨.pollTasks, agentId, noParams⟩
  | .updateTaskStatus taskId => ⟨.updateTaskStatus, taskId, noParams⟩
  | .uploadTaskLog taskId => ⟨.uploadLogs, taskId, noParams⟩
  | .getTaskState taskId => ⟨.getTask, taskId, noParams⟩
  | .tasksList state agentId limit offset =>
      ⟨.listTasks, [], Cli.tasksListParams state agentId limit offset⟩
  | .tasksGet taskId => ⟨.getTask, taskId, noParams⟩
  | .tasksSubmit => ⟨.createTask, [], noParams⟩
  | .tasksCancel taskId => ⟨.cancelTask, taskId, noParams⟩
  | .tasksLogs taskId stream => ⟨.getLogs, taskId, Cli.streamParams stream⟩
  | .tasksFollow taskId stream offset => ⟨.tailLogs, taskId, Cli.tailParams stream offset⟩
  | .agentsList status limit offset =>
      ⟨.listAgents, [], Cli.agentsListParams status limit offset⟩
  | .agentsGet agentId => ⟨.getAgent, agentId, noParams⟩

end ClientRequest

/-! ## Ids -/

/-- An id that stands for itself in a path. -/
structure IsSegment (id : Bytes) : Prop where
  filled : id ≠ []
  noZero : 0 ∉ id
  noDelimiter : ∀ delimiter ∈ ascii "/?#", delimiter ∉ id
  noTab : id.getLast? ≠ some (byte '\t')
  noEscape : decodePathComponent id = id

/-- `IsValidTaskId`. -/
def Cli.isValidTaskId (taskId : Bytes) : Bool :=
  !taskId.isEmpty && taskId.all fun value => decide (48 ≤ value.toNat ∧ value.toNat ≤ 57)

theorem decodePathComponent_of_not_mem {text : Bytes} (noPercent : byte '%' ∉ text) :
    decodePathComponent text = text := by
  induction text with
  | nil => rfl
  | cons first rest ih =>
      rw [List.mem_cons, not_or] at noPercent
      rw [decodePathComponent_of_ne (Ne.symm noPercent.1), ih noPercent.2]

theorem isSegment_of_isValidTaskId {taskId : Bytes} (valid : Cli.isValidTaskId taskId = true) :
    IsSegment taskId := by
  simp only [Cli.isValidTaskId, Bool.and_eq_true, Bool.not_eq_true', List.isEmpty_eq_false_iff,
    List.all_eq_true, decide_eq_true_eq] at valid
  obtain ⟨filled, digits⟩ := valid
  have absent : ∀ value : UInt8, ¬ (48 ≤ value.toNat ∧ value.toNat ≤ 57) → value ∉ taskId :=
    fun value other member => other (digits value member)
  have noPercent : byte '%' ∉ taskId := absent _ (by decide)
  refine ⟨filled, absent 0 (by decide), ?_, ?_, decodePathComponent_of_not_mem noPercent⟩
  · simp only [ascii, String.reduceToList, List.map_cons, List.map_nil, List.forall_mem_cons]
    exact ⟨absent _ (by decide), absent _ (by decide), absent _ (by decide),
      fun _ impossible => absurd impossible List.not_mem_nil⟩
  · exact fun isLast => absent _ (by decide) (List.mem_of_getLast? isLast)

/-! ## Paths -/

/-- The bytes that mean something in a request target or are lost. -/
def special : Bytes :=
  [0, byte '?', byte '#', byte '\t', byte '%']

theorem special_not_mem_front (endpoint : Endpoint) {value : UInt8} (isSpecial : value ∈ special) :
    value ∉ endpoint.route.front := by
  have all : ∀ known ∈ registeredRoutes, ∀ value ∈ special, value ∉ known.route.front := by
    decide +kernel
  exact all endpoint (mem_registeredRoutes endpoint) value isSpecial

theorem special_not_mem_suffix {endpoint : Endpoint} {suffix : Bytes}
    (isSuffix : endpoint.route.suffix = some suffix) {value : UInt8} (isSpecial : value ∈ special) :
    value ∉ suffix := by
  have all : ∀ known ∈ registeredRoutes, ∀ value ∈ special,
      value ∉ known.route.suffix.getD [] := by
    decide +kernel
  have absent := all endpoint (mem_registeredRoutes endpoint) value isSpecial
  rwa [isSuffix, Option.getD_some] at absent

theorem decodePathComponent_append_of_not_mem {front : Bytes} (noPercent : byte '%' ∉ front)
    (rest : Bytes) :
    decodePathComponent (front ++ rest) = front ++ decodePathComponent rest := by
  induction front with
  | nil => rfl
  | cons first front ih =>
      rw [List.mem_cons, not_or] at noPercent
      rw [List.cons_append, decodePathComponent_of_ne (Ne.symm noPercent.1), ih noPercent.2]
      rfl

/-- The path of a group is decoded as the group is. -/
theorem decodePathComponent_path {endpoint : Endpoint} {suffix : Bytes}
    (isSuffix : endpoint.route.suffix = some suffix) (id : Bytes) :
    decodePathComponent (endpoint.route.path id) =
      endpoint.route.front ++ (decodePathComponent id ++ suffix) := by
  have ends : ∀ known ∈ registeredRoutes, ∀ ending ∈ known.route.suffix,
      ending = [] ∨ ending = byte '/' :: ending.tail := by
    decide
  have outside : isEscapeByte (byte '/') = false := by decide
  have isSpecial : byte '%' ∈ special := by decide
  have noPercent := special_not_mem_suffix isSuffix isSpecial
  rw [Route.path, isSuffix, Option.elim_some, decodePathComponent_append_of_not_mem
    (special_not_mem_front endpoint (by decide))]
  congr 1
  rcases ends endpoint (mem_registeredRoutes _) suffix isSuffix with empty | slash
  · rw [empty, List.append_nil, List.append_nil]
  · rw [slash] at noPercent ⊢
    rw [decodePathComponent_append outside, decodePathComponent_of_not_mem noPercent]

theorem special_not_mem_path {endpoint : Endpoint} {id : Bytes} {value : UInt8}
    (isSpecial : value ∈ special) (outside : endpoint.route.suffix.isSome → value ∉ id) :
    value ∉ endpoint.route.path id := by
  rw [Route.path, List.mem_append, not_or]
  refine ⟨special_not_mem_front endpoint isSpecial, ?_⟩
  cases isSuffix : endpoint.route.suffix with
  | none => exact List.not_mem_nil
  | some suffix =>
      rw [Option.elim_some, List.mem_append, not_or]
      exact ⟨outside (by rw [isSuffix, Option.isSome_some]),
        special_not_mem_suffix isSuffix isSpecial⟩

/-- A path that is built for a handler reaches the server as it is. -/
theorem survives_path {endpoint : Endpoint} {id : Bytes}
    (segment : endpoint.route.suffix.isSome → IsSegment id)
    (short : (encode (endpoint.route.path id)).length ≤ requestUriMaxLength) :
    Survives (endpoint.route.path id) := by
  have noZero := special_not_mem_path (by decide) fun hasId => (segment hasId).noZero
  have noQuery : byte '?' ∉ endpoint.route.path id := special_not_mem_path (by decide)
    fun hasId => (segment hasId).noDelimiter _ (by decide)
  have noFragment : byte '#' ∉ endpoint.route.path id := special_not_mem_path (by decide)
    fun hasId => (segment hasId).noDelimiter _ (by decide)
  cases isSuffix : endpoint.route.suffix with
  | none =>
      have absent : ∀ value ∈ special, value ∉ endpoint.route.path id :=
        fun value isSpecial => special_not_mem_path isSpecial fun hasId => by
          rw [isSuffix] at hasId
          cases hasId
      exact
        { noZero := noZero
          noQuery := noQuery
          noFragment := noFragment
          noTab := fun isLast => absent _ (by decide) (List.mem_of_getLast? isLast)
          noEscape := decodePathComponent_of_not_mem (absent _ (by decide))
          short := short }
  | some suffix =>
      have isSegment := segment (by rw [isSuffix, Option.isSome_some])
      refine
        { noZero := noZero
          noQuery := noQuery
          noFragment := noFragment
          noTab := ?_
          noEscape := ?_
          short := short }
      · rw [Route.path, isSuffix, Option.elim_some, List.getLast?_append_of_ne_nil _
          (by simp [isSegment.filled])]
        cases suffix with
        | nil => rw [List.append_nil]; exact isSegment.noTab
        | cons first rest =>
            rw [List.getLast?_append_of_ne_nil _ (List.cons_ne_nil _ _)]
            exact fun isLast => special_not_mem_suffix isSuffix (by decide)
              (List.mem_of_getLast? isLast)
      · rw [decodePathComponent_path isSuffix, isSegment.noEscape, Route.path, isSuffix,
          Option.elim_some]

/-! ## Arrival -/

/-- What can be sent to a handler. -/
structure Call.Valid (call : Call) : Prop where
  takes : call.endpoint.route.Takes call.id
  segment : call.endpoint.route.suffix.isSome → IsSegment call.id
  named : ∀ entry ∈ call.params.entries, entry.1 ≠ []
  distinct : call.params.entries.Nodup
  short : (Sent.target ⟨call.endpoint.route.method, call.endpoint.route.path call.id,
    call.params⟩).length ≤ requestUriMaxLength

/-- A request to the path of a handler arrives there. -/
theorem arrive_of_valid {routes : List Endpoint} (known : ∀ endpoint, endpoint ∈ routes)
    {call : Call} (valid : call.Valid) :
    arrive routes (Sent.stream ⟨call.endpoint.route.method, call.endpoint.route.path call.id,
      call.params⟩) = some call := by
  have isMethod : call.endpoint.route.method ∈ methods := by
    have all : ∀ known ∈ registeredRoutes, known.route.method ∈ methods := by decide
    exact all _ (mem_registeredRoutes _)
  have handled : handledMethod call.endpoint.route.method = call.endpoint.route.method := by
    have all : ∀ endpoint ∈ registeredRoutes,
        handledMethod endpoint.route.method = endpoint.route.method := by
      decide
    exact all _ (mem_registeredRoutes _)
  have slash : (call.endpoint.route.path call.id).head? = some (byte '/') := by
    have all : ∀ known ∈ registeredRoutes, known.route.front.head? = some (byte '/') := by decide
    rw [Route.path, List.head?_append, all _ (mem_registeredRoutes _), Option.some_or]
  have short := valid.short
  rw [Sent.target, pathWithQuery_getPath
    (special_not_mem_path (by decide) fun hasId => (valid.segment hasId).noZero)
    (special_not_mem_path (by decide) fun hasId => (valid.segment hasId).noDelimiter _ (by decide))
    valid.named] at short
  have pathShort : (encode (call.endpoint.route.path call.id)).length ≤ requestUriMaxLength := by
    rw [List.length_append] at short
    omega
  have carries : Carries (call.endpoint.route.path call.id) call.params :=
    { survives := survives_path valid.segment pathShort
      named := valid.named
      distinct := valid.distinct
      short := short }
  obtain ⟨target, received, sameParams⟩ := receive_getPath carries isMethod slash
  have routed := (routing_eq_some_iff known).mpr
    ⟨handled.symm, rfl, valid.takes⟩
  rw [arrive, Sent.stream, Sent.target, received, Option.bind_some, routed, Option.map_some,
    sameParams]

/-! ## Parameters -/

namespace Cli

/-- A parameter that is set, which an empty one is not. -/
def given (value : Option Bytes) : Option Bytes :=
  value.filter fun value => !value.isEmpty

theorem addParam_eq (params : Params) (key : Bytes) (value : Option Bytes) :
    addParam params key value = (given value).elim params (params.emplace key) :=
  rfl

theorem keyed_addParam {params : Params} (keyed : Keyed params) {key : Bytes} (filled : key ≠ [])
    (fresh : key ∉ params.entries.map Prod.fst) (value : Option Bytes) :
    Keyed (addParam params key value) := by
  rw [addParam_eq]
  cases given value with
  | none => exact keyed
  | some val => exact keyed.emplace filled fresh val

theorem not_mem_addParam {params : Params} {name key : Bytes}
    (absent : name ∉ params.entries.map Prod.fst) (other : name ≠ key) (value : Option Bytes) :
    name ∉ (addParam params key value).entries.map Prod.fst := by
  rw [addParam_eq]
  cases given value with
  | none => exact absent
  | some val =>
      rw [Option.elim_some, mem_keys_emplace, not_or]
      exact ⟨other, absent⟩

theorem find_addParam_self {params : Params} {key : Bytes}
    (fresh : key ∉ params.entries.map Prod.fst) (value : Option Bytes) :
    (addParam params key value).find key = given value := by
  rw [addParam_eq]
  cases given value with
  | none =>
      rw [Option.elim_none, Params.find, Option.map_eq_none_iff, List.find?_eq_none]
      exact fun entry member same =>
        fresh (List.mem_map.mpr ⟨entry, member, of_decide_eq_true same⟩)
  | some val => exact Params.find_emplace_self fresh val

theorem find_addParam_of_ne {params : Params} {key name : Bytes} (other : name ≠ key)
    (value : Option Bytes) : (addParam params key value).find name = params.find name := by
  rw [addParam_eq]
  cases given value with
  | none => rfl
  | some val => exact Params.find_emplace_of_ne other val

section Lists

variable {filtered : Params} (noLimit : ascii "limit" ∉ filtered.entries.map Prod.fst)
  (noOffset : ascii "offset" ∉ filtered.entries.map Prod.fst)

include noLimit noOffset

theorem keyed_pageParams (keyed : Keyed filtered) (limit offset : Int) :
    Keyed (pageParams filtered limit offset) := by
  refine (keyed.emplace (by decide) noLimit _).emplace (by decide) ?_ _
  rw [mem_keys_emplace, not_or]
  exact ⟨by decide, noOffset⟩

theorem find_pageParams (limit offset : Int) :
    (pageParams filtered limit offset).find (ascii "limit") = some (toDecimal limit) ∧
      (pageParams filtered limit offset).find (ascii "offset") = some (toDecimal offset) := by
  constructor
  · rw [pageParams, Params.find_emplace_of_ne (by decide), Params.find_emplace_self noLimit]
  · refine Params.find_emplace_self ?_ _
    rw [mem_keys_emplace, not_or]
    exact ⟨by decide, noOffset⟩

end Lists

theorem keys_noParams (name : Bytes) : name ∉ noParams.entries.map Prod.fst :=
  List.not_mem_nil

theorem not_mem_tasksFilter {name : Bytes} (notState : name ≠ ascii "state")
    (notAgent : name ≠ ascii "agent_id") (state agentId : Option Bytes) :
    name ∉ (addParam (addParam noParams (ascii "state") state) (ascii "agent_id")
      agentId).entries.map Prod.fst :=
  not_mem_addParam (not_mem_addParam (keys_noParams name) notState state) notAgent agentId

theorem agentId_not_mem (state : Option Bytes) :
    ascii "agent_id" ∉ (addParam noParams (ascii "state") state).entries.map Prod.fst :=
  not_mem_addParam (keys_noParams _) (by decide) state

theorem keyed_tasksListParams (state agentId : Option Bytes) (limit offset : Int) :
    Keyed (tasksListParams state agentId limit offset) := by
  have filtered := keyed_addParam
    (keyed_addParam keyed_noParams (by decide) (keys_noParams (ascii "state")) state)
    (by decide) (agentId_not_mem state) agentId
  exact keyed_pageParams (not_mem_tasksFilter (by decide) (by decide) _ _)
    (not_mem_tasksFilter (by decide) (by decide) _ _) filtered limit offset

theorem not_mem_agentsFilter {name : Bytes} (notStatus : name ≠ ascii "status")
    (status : Option Bytes) :
    name ∉ (addParam noParams (ascii "status") status).entries.map Prod.fst :=
  not_mem_addParam (keys_noParams name) notStatus status

theorem keyed_agentsListParams (status : Option Bytes) (limit offset : Int) :
    Keyed (agentsListParams status limit offset) := by
  have filtered := keyed_addParam keyed_noParams (by decide) (keys_noParams (ascii "status")) status
  exact keyed_pageParams (not_mem_agentsFilter (by decide) _) (not_mem_agentsFilter (by decide) _)
    filtered limit offset

theorem keyed_streamParams (stream : Bytes) : Keyed (streamParams stream) :=
  keyed_noParams.emplace (by decide) (keys_noParams (ascii "stream")) stream

theorem keyed_tailParams (stream : Bytes) (offset : Nat) : Keyed (tailParams stream offset) := by
  refine (keyed_streamParams stream).emplace (by decide) ?_ _
  rw [streamParams, mem_keys_emplace, not_or]
  exact ⟨by decide, keys_noParams _⟩

end Cli

/-! ## Requests that arrive -/

namespace ClientRequest

/-- The ids that the worker and the command line accept, as far as they stand for themselves. -/
def WellFormed : ClientRequest → Prop
  | .registerAgent agentId | .sendHeartbeat agentId | .pollTasks agentId | .agentsGet agentId =>
      IsSegment agentId
  | .updateTaskStatus taskId | .uploadTaskLog taskId | .getTaskState taskId | .tasksGet taskId
  | .tasksCancel taskId | .tasksLogs taskId _ | .tasksFollow taskId _ _ =>
      Cli.isValidTaskId taskId = true
  | .tasksList _ _ _ _ | .tasksSubmit | .agentsList _ _ _ => True

/-- The service takes targets of this length. -/
def Fits (request : ClientRequest) : Prop :=
  request.sent.target.length ≤ requestUriMaxLength

theorem keyed_params (request : ClientRequest) : Keyed request.call.params := by
  cases request with
  | tasksList state agentId limit offset => exact Cli.keyed_tasksListParams _ _ _ _
  | tasksLogs taskId stream => exact Cli.keyed_streamParams stream
  | tasksFollow taskId stream offset => exact Cli.keyed_tailParams stream offset
  | agentsList status limit offset => exact Cli.keyed_agentsListParams _ _ _
  | _ => exact keyed_noParams

/-- The id of a request is a segment where its path has one. -/
theorem isSegment_id {request : ClientRequest} (wellFormed : request.WellFormed)
    (hasId : request.call.endpoint.route.suffix.isSome) : IsSegment request.call.id := by
  cases request with
  | registerAgent | sendHeartbeat | pollTasks | agentsGet => exact wellFormed
  | tasksList | tasksSubmit | agentsList => cases hasId
  | _ => exact isSegment_of_isValidTaskId wellFormed

theorem takes_id {request : ClientRequest} (wellFormed : request.WellFormed) :
    request.call.endpoint.route.Takes request.call.id := by
  cases isSuffix : request.call.endpoint.route.suffix with
  | none =>
      rw [Route.takes_of_none isSuffix]
      cases request with
      | tasksList | tasksSubmit | agentsList => rfl
      | _ => cases isSuffix
  | some suffix =>
      have segment := isSegment_id wellFormed (by rw [isSuffix, Option.isSome_some])
      rw [Route.takes_of_some isSuffix]
      exact ⟨segment.filled, segment.noDelimiter _ (by decide)⟩

section Written

variable (endpoint : Endpoint) {method front suffix id : Bytes}
  (isRoute : endpoint.route = ⟨method, front, some suffix⟩)

include isRoute

theorem sent_of_path (params : Params) :
    Sent.mk method (front ++ id ++ suffix) params =
      ⟨endpoint.route.method, endpoint.route.path id, params⟩ := by
  rw [Route.path, isRoute, Option.elim_some, List.append_assoc]

/-- A path of the worker is no shorter as a C string. -/
theorem sent_of_cString (segment : IsSegment id) (params : Params) :
    Sent.mk method (cString (front ++ id ++ suffix)) params =
      ⟨endpoint.route.method, endpoint.route.path id, params⟩ := by
  have noZero : (0 : UInt8) ∈ special := by decide
  have inFront := special_not_mem_front endpoint noZero
  have inSuffix := special_not_mem_suffix (congrArg Route.suffix isRoute) noZero
  rw [congrArg Route.front isRoute] at inFront
  rw [cString_eq_self (by simp [inFront, segment.noZero, inSuffix])]
  exact sent_of_path endpoint isRoute params

end Written

/-- What is sent is what is meant. -/
theorem sent_eq {request : ClientRequest} (wellFormed : request.WellFormed) :
    request.sent = ⟨request.call.endpoint.route.method,
      request.call.endpoint.route.path request.call.id, request.call.params⟩ := by
  cases request with
  | registerAgent agentId => exact sent_of_cString .upsertAgent rfl wellFormed _
  | sendHeartbeat agentId => exact sent_of_cString .agentHeartbeat rfl wellFormed _
  | pollTasks agentId => exact sent_of_cString .pollTasks rfl wellFormed _
  | updateTaskStatus taskId =>
      exact sent_of_cString .updateTaskStatus rfl (isSegment_of_isValidTaskId wellFormed) _
  | uploadTaskLog taskId =>
      exact sent_of_cString .uploadLogs rfl (isSegment_of_isValidTaskId wellFormed) _
  | getTaskState taskId =>
      exact sent_of_cString .getTask rfl (isSegment_of_isValidTaskId wellFormed) _
  | tasksCancel taskId => exact sent_of_path .cancelTask rfl _
  | tasksLogs taskId stream => exact sent_of_path .getLogs rfl _
  | tasksFollow taskId stream offset => exact sent_of_path .tailLogs rfl _
  | tasksGet taskId =>
      rw [sent, ← List.append_nil (_ ++ _)]
      exact sent_of_path .getTask rfl _
  | agentsGet agentId =>
      rw [sent, ← List.append_nil (_ ++ _)]
      exact sent_of_path .getAgent rfl _
  | tasksList | tasksSubmit | agentsList => rfl

/-- Every request arrives at the handler that it is for, with its id and its parameters, in
whatever order the routes are registered. -/
theorem arrive_sent {routes : List Endpoint} (order : routes.Perm registeredRoutes)
    {request : ClientRequest} (wellFormed : request.WellFormed) (fits : request.Fits) :
    arrive routes request.sent.stream = some request.call := by
  have keyed := keyed_params request
  have valid : request.call.Valid :=
    { takes := takes_id wellFormed
      segment := isSegment_id wellFormed
      named := fun entry member empty =>
        keyed.named (List.mem_map.mpr ⟨entry, member, empty⟩)
      distinct := List.Nodup.of_map Prod.fst keyed.nodup
      short := by
        unfold Fits at fits
        rwa [sent_eq wellFormed] at fits }
  rw [sent_eq wellFormed]
  exact arrive_of_valid (fun endpoint => order.mem_iff.mpr (mem_registeredRoutes endpoint)) valid

end ClientRequest

/-- No order of the routes makes a difference to any request. -/
theorem routing_of_perm {routes : List Endpoint} (order : routes.Perm registeredRoutes)
    (method path : Bytes) : routing routes method path = routing registeredRoutes method path := by
  have known : ∀ endpoint, endpoint ∈ routes :=
    fun endpoint => order.mem_iff.mpr (mem_registeredRoutes endpoint)
  refine Option.ext fun found => ?_
  rw [routing_eq_some_iff known, routing_eq_some_iff mem_registeredRoutes]

/-- A list of the tasks of an agent whose id means something in a query. -/
def listedAgent : ClientRequest :=
  .tasksList (some (ascii "Running")) (some (ascii "rack&1=a b%")) 10 (-3)

theorem arrive_sent_listedAgent :
    arrive registeredRoutes.reverse listedAgent.sent.stream = some listedAgent.call :=
  ClientRequest.arrive_sent (List.reverse_perm _) trivial (by unfold ClientRequest.Fits; decide)

theorem routing_of_perm_reversed :
    routing registeredRoutes.reverse (ascii "POST") (ascii "/api/v1/tasks/5/logs:upload") =
      routing registeredRoutes (ascii "POST") (ascii "/api/v1/tasks/5/logs:upload") :=
  routing_of_perm (List.reverse_perm _) _ _

end DistributedComputing
