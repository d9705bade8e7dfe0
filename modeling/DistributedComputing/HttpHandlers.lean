import DistributedComputing.ControlService
import DistributedComputing.LogStore

/-!
# The handlers as the server calls them

The path, the query and the body of a request are byte strings, and a handler ends with an
answer or with an exception of the JSON library.  Where its texts are UTF-8, a handler is the
one of `ControlService`.
-/

namespace DistributedComputing

/-- The exceptions that the handlers can meet. -/
inductive JsonException
  /-- Type error 302, `get` of another type. -/
  | wrongType
  /-- Type error 306, `value` of something else than an object. -/
  | notAnObject
  /-- Type error 316, `dump` of a text that is not UTF-8. -/
  | invalidUtf8

/-- `j.value(name, fallback)` for a string. -/
def Json.value (json : Json) (name fallback : String) : Except JsonException String :=
  match json with
  | .object members =>
      match find name members with
      | none => .ok fallback
      | some (.string value) => .ok value
      | some _ => .error .wrongType
  | _ => .error .notAnObject

/-- The content of an answer: a JSON document, or the bytes of a log. -/
inductive Content
  | json (document : Json)
  | plain (bytes : List UInt8)

structure HttpAnswer where
  status : Nat
  content : Content
  headers : List (String × String) := []

def Response.toAnswer (response : Response) : HttpAnswer where
  status := response.status
  content := .json response.body

/-- How a call of the broker ends for an id that is not UTF-8, which no table holds: the
exception of the database arrives, nothing is found, or the broker returns the default that
stands for an exception. -/
inductive ForeignAnswer
  | raised (what : ByteArray)
  | absent
  | fallback

/-- The tables of the broker and the files of the log store. -/
structure MasterState where
  tables : Store
  files : FileSystem

abbrev Handler :=
  MasterState → Except JsonException HttpAnswer × MasterState

/-- The service with what lies outside of it: how the library parses a body, up to the text of
its exception, and what the database makes of an id that is not UTF-8. -/
structure HttpService where
  config : MasterConfig := {}
  maxLogUploadBytes : Nat := 10 * 1024 * 1024
  broker : Broker
  logStore : LogStore
  parse : ByteArray → Except ByteArray Json
  foreign : ByteArray → ForeignAnswer

/-- The characters of a parameter that is compared with ASCII texts only.  In one that is not
UTF-8, every byte is a character, so that the bytes outside of ASCII match nothing. -/
def paramText (bytes : ByteArray) : String :=
  (String.fromUTF8? bytes).getD
    (String.ofList (bytes.data.toList.map fun byte => Char.ofNat byte.toNat))

/-- `std::stoull`, which wraps a negative number. -/
def stoull (value : String) : Option UInt64 :=
  let (negative, rest) := match value.toList.dropWhile isSpace with
    | '-' :: rest => (true, rest)
    | '+' :: rest => (false, rest)
    | rest => (false, rest)
  let digits := rest.takeWhile Char.isDigit
  let magnitude : Nat := digits.foldl (fun total digit => 10 * total + (digit.toNat - '0'.toNat)) 0
  if digits ≠ [] ∧ magnitude < 2 ^ 64 then
    let number := UInt64.ofNat magnitude
    some (if negative then -number else number)
  else none

/-- `WriteAll` for the text of a JSON string.  A longer text fits into no memory. -/
def LogStore.writeText (store : LogStore) (now : Time) (taskId stream data : String)
    (fs : FileSystem) : Bool × FileSystem :=
  let bytes := data.toByteArray.data.toList
  if fits : bytes.length < 2 ^ 63 then store.writeAll now taskId stream ⟨bytes, fits⟩ fs
  else (false, fs)

namespace HttpService

open ControlService

/-- `SetJsonResponse` of a document in which a text from outside stands. -/
def setJsonResponse (outside : ByteArray) (response : String → Response) :
    Except JsonException HttpAnswer :=
  match String.fromUTF8? outside with
  | some text => .ok (response text).toAnswer
  | none => .error .invalidUtf8

/-- An answer without texts from outside. -/
def answer (response : Response) : Handler :=
  fun state => (.ok response.toAnswer, state)

/-- A handler of `ControlService`. -/
def onTables (handler : Store → Response × Store) : Handler := fun state =>
  let (response, tables) := handler state.tables
  (.ok response.toAnswer, { state with tables := tables })

def agentNotFound (agentId : ByteArray) : Except JsonException HttpAnswer :=
  setJsonResponse agentId agentNotFoundResponse

variable (service : HttpService)

/-- `ParseJsonBody`. -/
def parseJsonBody (body : ByteArray) : Except ByteArray Json :=
  if body.isEmpty then .ok (.object []) else service.parse body

/-- The beginning of every handler that reads a body. -/
def withJsonBody (body : ByteArray) (rest : Json → Handler) : Handler := fun state =>
  match service.parseJsonBody body with
  | .error what =>
      (setJsonResponse what fun what =>
        errorResponse 400 "BAD_REQUEST" "Invalid JSON" (.object [("error", .string what)]), state)
  | .ok json => rest json state

/-- The end of a handler whose call of the broker got an id that is not UTF-8. -/
def onForeignId (agentId : ByteArray) (absent fallback : Except JsonException HttpAnswer) :
    Handler := fun state =>
  match service.foreign agentId with
  | .raised what => (setJsonResponse what fun what => dbErrorResponse ⟨what⟩, state)
  | .absent => (absent, state)
  | .fallback => (fallback, state)

/-- A handler that reads a body and calls the broker for an agent.  Without a text for the id,
what remains of it is the check of the body and the end of the call. -/
def onAgent {Input : Type} (agentId body : ByteArray)
    (known : String → Body → Store → Response × Store) (parse : Json → Except String Input)
    (absent fallback : Except JsonException HttpAnswer) : Handler :=
  service.withJsonBody body fun json =>
    match String.fromUTF8? agentId with
    | some agentId => onTables (known agentId (.json json))
    | none =>
        match parse json with
        | .error message => answer (errorResponse 400 "BAD_REQUEST" message)
        | .ok _ => service.onForeignId agentId absent fallback

def handleUpsertAgent (attempts : List Attempt) (agentId body : ByteArray) : Handler :=
  let accepted : Response :=
    { status := 200
      body := .object
        [("status", .string "ok"),
          ("heartbeat_interval_sec", .integer service.config.heartbeatIntervalSec)] }
  service.onAgent agentId body
    (ControlService.handleUpsertAgent service.broker service.config.heartbeatIntervalSec attempts)
    (Api.parseAgentInput "") (.ok accepted.toAnswer) (.ok accepted.toAnswer)

def handleAgentHeartbeat (attempts : List Attempt) (agentId body : ByteArray) : Handler :=
  service.onAgent agentId body (ControlService.handleAgentHeartbeat service.broker attempts)
    (Api.parseAgentHeartbeat "") (agentNotFound agentId) (agentNotFound agentId)

def handlePollTasks (attempts : List Attempt) (agentId body : ByteArray) : Handler :=
  service.onAgent agentId body (ControlService.handlePollTasks service.broker attempts)
    parseFreeSlots (agentNotFound agentId) (.ok (dispatchesResponse []).toAnswer)

def handleCreateTask (attempts : List Attempt) (body : ByteArray) : Handler :=
  service.withJsonBody body fun json =>
    onTables (ControlService.handleCreateTask service.broker attempts (.json json))

def handleGetTask (attempts : List Attempt) (taskId : ByteArray) : Handler :=
  onTables (ControlService.handleGetTask service.broker attempts (paramText taskId))

def handleGetAgent (attempts : List Attempt) (agentId : ByteArray) : Handler :=
  match String.fromUTF8? agentId with
  | some agentId => onTables (ControlService.handleGetAgent service.broker attempts agentId)
  | none => service.onForeignId agentId (agentNotFound agentId) (agentNotFound agentId)

def handleListTasks (attempts : List Attempt) (state agentId limit offset : Option ByteArray) :
    Handler :=
  let listed (agentId : Option String) : Handler :=
    onTables (ControlService.handleListTasks service.broker attempts (state.map paramText) agentId
      (limit.map paramText) (offset.map paramText))
  match agentId with
  | none => listed none
  | some bytes =>
      match String.fromUTF8? bytes with
      | some agentId => listed (some agentId)
      | none =>
          match parseQueryParam taskStateFromApi "Invalid task state" (state.map paramText) with
          | .error response => answer response
          | .ok _ =>
              let nothing : Response := { status := 200, body := .object [("tasks", .array [])] }
              service.onForeignId bytes (.ok nothing.toAnswer) (.ok nothing.toAnswer)

def handleListAgents (attempts : List Attempt) (status limit offset : Option ByteArray) :
    Handler :=
  onTables (ControlService.handleListAgents service.broker attempts (status.map paramText)
    (limit.map paramText) (offset.map paramText))

/-- After the check of its id, a status report is read and applied as by `ControlService`. -/
def handleUpdateTaskStatus (readAttempts writeAttempts : List Attempt)
    (taskId body : ByteArray) : Handler :=
  match Api.parseTaskId (paramText taskId) with
  | none => answer invalidTaskIdResponse
  | some _ =>
      service.withJsonBody body fun json =>
        onTables (ControlService.handleUpdateTaskStatus service.broker readAttempts writeAttempts
          (paramText taskId) (.json json))

def handleCancelTask (attempts : List Attempt) (taskId : ByteArray) : Handler :=
  onTables (ControlService.handleCancelTask service.broker attempts (paramText taskId))

def invalidStreamResponse : Response :=
  errorResponse 400 "BAD_REQUEST" "Invalid stream"

def logNotFoundResponse (taskId : Int) (stream : String) : Response :=
  errorResponse 404 "LOG_NOT_FOUND" "Log not found"
    (.object [("task_id", .integer taskId), ("stream", .string stream)])

def handleGetLogs (now : Time) (taskId : ByteArray) (stream : Option ByteArray) : Handler :=
  match Api.parseTaskId (paramText taskId) with
  | none => answer invalidTaskIdResponse
  | some taskId =>
      let stream := (stream.map paramText).getD "stdout"
      if stream ≠ "stdout" ∧ stream ≠ "stderr" then answer invalidStreamResponse
      else fun state =>
        let (result, files) := service.logStore.readAll now (toString taskId) stream state.files
        if result.fileExists then
          (.ok { status := 200, content := .plain result.data }, { state with files := files })
        else (.ok (logNotFoundResponse taskId stream).toAnswer, { state with files := files })

def handleTailLogs (now : Time) (taskId : ByteArray) (stream offset : Option ByteArray) :
    Handler :=
  match Api.parseTaskId (paramText taskId) with
  | none => answer invalidTaskIdResponse
  | some taskId =>
      let stream := (stream.map paramText).getD "stdout"
      if stream ≠ "stdout" ∧ stream ≠ "stderr" then answer invalidStreamResponse
      else fun state =>
        let offset := ((offset.map paramText).bind stoull).getD 0
        let (result, files) :=
          service.logStore.readFromOffset now (toString taskId) stream offset state.files
        if result.fileExists then
          (.ok
            { status := 200
              content := .plain result.data
              headers := [("X-Log-Size", toString result.sizeBytes)] },
            { state with files := files })
        else (.ok (logNotFoundResponse taskId stream).toAnswer, { state with files := files })

/-- The part of `HandleUploadLogs` after its checks. -/
def storeLog (now : Time) (taskId : Int) (stream data : String) : Handler := fun state =>
  if service.maxLogUploadBytes < data.utf8ByteSize then
    answer (errorResponse 413 "PAYLOAD_TOO_LARGE" "Log upload exceeds limit"
      (.object [("limit_bytes", .integer service.maxLogUploadBytes)])) state
  else
    match service.logStore.writeText now (toString taskId) stream data state.files with
    | (false, files) =>
        answer (errorResponse 500 "LOG_WRITE_FAILED" "Failed to store log")
          { state with files := files }
    | (true, files) =>
        answer
          { status := 200
            body := .object
              [("status", .string "ok"), ("size_bytes", .integer data.utf8ByteSize)] }
          { state with files := files }

def handleUploadLogs (now : Time) (taskId body : ByteArray) : Handler :=
  match Api.parseTaskId (paramText taskId) with
  | none => answer invalidTaskIdResponse
  | some taskId =>
      service.withJsonBody body fun json =>
        -- The only read of a body that no check of its kind precedes.
        match json.value "stream" "stdout" with
        | .error exception => fun state => (.error exception, state)
        | .ok stream =>
            if stream ≠ "stdout" ∧ stream ≠ "stderr" then answer invalidStreamResponse
            else
              match json.stringMember "data" with
              | none => answer (errorResponse 400 "BAD_REQUEST" "Missing data")
              | some data => service.storeLog now taskId stream data

end HttpService

/-- A request to one of the routes of the service. -/
inductive HttpRequest
  | upsertAgent (agentId body : ByteArray)
  | agentHeartbeat (agentId body : ByteArray)
  | pollTasks (agentId body : ByteArray)
  | createTask (body : ByteArray)
  | getTask (taskId : ByteArray)
  | listTasks (state agentId limit offset : Option ByteArray)
  | getAgent (agentId : ByteArray)
  | listAgents (status limit offset : Option ByteArray)
  | updateTaskStatus (taskId body : ByteArray)
  | cancelTask (taskId : ByteArray)
  | getLogs (taskId : ByteArray) (stream : Option ByteArray)
  | tailLogs (taskId : ByteArray) (stream offset : Option ByteArray)
  | uploadLogs (taskId body : ByteArray)

/-- What the routes of `RegisterRoutes` call. -/
def HttpService.handle (service : HttpService) (schedule : Schedule) (now : Time) :
    HttpRequest → Handler
  | .upsertAgent agentId body => service.handleUpsertAgent schedule.first agentId body
  | .agentHeartbeat agentId body => service.handleAgentHeartbeat schedule.first agentId body
  | .pollTasks agentId body => service.handlePollTasks schedule.first agentId body
  | .createTask body => service.handleCreateTask schedule.first body
  | .getTask taskId => service.handleGetTask schedule.first taskId
  | .listTasks state agentId limit offset =>
      service.handleListTasks schedule.first state agentId limit offset
  | .getAgent agentId => service.handleGetAgent schedule.first agentId
  | .listAgents status limit offset =>
      service.handleListAgents schedule.first status limit offset
  | .updateTaskStatus taskId body =>
      service.handleUpdateTaskStatus schedule.first schedule.second taskId body
  | .cancelTask taskId => service.handleCancelTask schedule.first taskId
  | .getLogs taskId stream => service.handleGetLogs now taskId stream
  | .tailLogs taskId stream offset => service.handleTailLogs now taskId stream offset
  | .uploadLogs taskId body => service.handleUploadLogs now taskId body

/-! ## Requests whose texts are UTF-8 -/

namespace HttpService

open ControlService

/-- The body as the handlers of `ControlService` take it. -/
def readBody (service : HttpService) (body : ByteArray) : Option Body :=
  if body.isEmpty then some .empty
  else
    match service.parse body with
    | .ok json => some (.json json)
    | .error what => (String.fromUTF8? what).map .invalid

/-- The request as `ControlService` takes it, if it calls the broker and all texts that may be
echoed are UTF-8. -/
def readRequest (service : HttpService) : HttpRequest → Option Request
  | .upsertAgent agentId body => do
      return .upsertAgent (← String.fromUTF8? agentId) (← service.readBody body)
  | .agentHeartbeat agentId body => do
      return .agentHeartbeat (← String.fromUTF8? agentId) (← service.readBody body)
  | .pollTasks agentId body => do
      return .pollTasks (← String.fromUTF8? agentId) (← service.readBody body)
  | .createTask body => do return .createTask (← service.readBody body)
  | .getTask taskId => some (.getTask (paramText taskId))
  | .listTasks state agentId limit offset => do
      return .listTasks (state.map paramText) (← agentId.mapM String.fromUTF8?)
        (limit.map paramText) (offset.map paramText)
  | .getAgent agentId => do return .getAgent (← String.fromUTF8? agentId)
  | .listAgents status limit offset =>
      some (.listAgents (status.map paramText) (limit.map paramText) (offset.map paramText))
  | .updateTaskStatus taskId body => do
      return .updateTaskStatus (paramText taskId) (← service.readBody body)
  | .cancelTask taskId => some (.cancelTask (paramText taskId))
  | .getLogs _ _ => none
  | .tailLogs _ _ _ => none
  | .uploadLogs _ _ => none

variable {service : HttpService}

theorem withJsonBody_of_readBody {bytes : ByteArray} {body : Body}
    (read : service.readBody bytes = some body) {rest : Json → Handler}
    (handler : Body → Store → Response × Store)
    (onJson : ∀ json, rest json = onTables (handler (.json json)))
    (onEmpty : handler .empty = handler (.json (.object [])))
    (onInvalid : ∀ what store, handler (.invalid what) store =
      (errorResponse 400 "BAD_REQUEST" "Invalid JSON" (.object [("error", .string what)]),
        store)) :
    service.withJsonBody bytes rest = onTables (handler body) := by
  funext state
  unfold withJsonBody parseJsonBody
  unfold readBody at read
  split at read
  · rename_i empty
    cases read
    rw [if_pos empty, onEmpty]
    exact congrFun (onJson _) state
  · rename_i notEmpty
    rw [if_neg notEmpty]
    cases parsed : service.parse bytes with
    | ok json =>
        rw [parsed] at read
        cases read
        exact congrFun (onJson json) state
    | error what =>
        rw [parsed] at read
        obtain ⟨text, isText, rfl⟩ := Option.map_eq_some_iff.mp read
        simp only [setJsonResponse, isText, onTables, onInvalid]

theorem onAgent_of_readBody {Input : Type} {agentId bytes : ByteArray} {text : String} {body : Body}
    (isText : String.fromUTF8? agentId = some text) (read : service.readBody bytes = some body)
    {known : String → Body → Store → Response × Store} {parse : Json → Except String Input}
    {absent fallback : Except JsonException HttpAnswer}
    (onEmpty : known text .empty = known text (.json (.object [])))
    (onInvalid : ∀ what store, known text (.invalid what) store =
      (errorResponse 400 "BAD_REQUEST" "Invalid JSON" (.object [("error", .string what)]),
        store)) :
    service.onAgent agentId bytes known parse absent fallback = onTables (known text body) := by
  refine withJsonBody_of_readBody read (known text) ?_ onEmpty onInvalid
  intro json
  simp only [isText]

theorem handleUpdateTaskStatus_of_readBody {bytes : ByteArray} {body : Body}
    (read : service.readBody bytes = some body) (readAttempts writeAttempts : List Attempt)
    (taskId : ByteArray) :
    service.handleUpdateTaskStatus readAttempts writeAttempts taskId bytes =
      onTables (ControlService.handleUpdateTaskStatus service.broker readAttempts writeAttempts
        (paramText taskId) body) := by
  unfold handleUpdateTaskStatus
  cases parsed : Api.parseTaskId (paramText taskId) with
  | none =>
      funext state
      unfold onTables ControlService.handleUpdateTaskStatus checkStatusUpdate
      simp only [parsed, answer]
  | some number =>
      refine withJsonBody_of_readBody read (ControlService.handleUpdateTaskStatus service.broker
        readAttempts writeAttempts (paramText taskId)) (fun _ => rfl) rfl fun what store => ?_
      unfold ControlService.handleUpdateTaskStatus checkStatusUpdate
      simp only [parsed]
      rfl

/-- On such a request the handlers are those of `ControlService`. -/
theorem handle_of_readRequest (schedule : Schedule) (now : Time) {request : HttpRequest}
    {inner : Request} (read : service.readRequest request = some inner) :
    service.handle schedule now request =
      onTables (ControlService.handle service.config service.broker schedule inner) := by
  cases request with
  | upsertAgent agentId body =>
      simp only [readRequest, bind, Option.bind_eq_some_iff] at read
      obtain ⟨text, isText, held, bodyRead, ⟨⟩⟩ := read
      exact onAgent_of_readBody isText bodyRead rfl (fun _ _ => rfl)
  | agentHeartbeat agentId body =>
      simp only [readRequest, bind, Option.bind_eq_some_iff] at read
      obtain ⟨text, isText, held, bodyRead, ⟨⟩⟩ := read
      exact onAgent_of_readBody isText bodyRead rfl (fun _ _ => rfl)
  | pollTasks agentId body =>
      simp only [readRequest, bind, Option.bind_eq_some_iff] at read
      obtain ⟨text, isText, held, bodyRead, ⟨⟩⟩ := read
      exact onAgent_of_readBody isText bodyRead rfl (fun _ _ => rfl)
  | createTask body =>
      simp only [readRequest, bind, Option.bind_eq_some_iff] at read
      obtain ⟨held, bodyRead, ⟨⟩⟩ := read
      exact withJsonBody_of_readBody bodyRead (ControlService.handleCreateTask service.broker
        schedule.first) (fun _ => rfl) rfl fun _ _ => rfl
  | getTask taskId =>
      cases read
      rfl
  | listTasks state agentId limit offset =>
      simp only [readRequest, bind, Option.bind_eq_some_iff] at read
      obtain ⟨known, isKnown, ⟨⟩⟩ := read
      unfold handle handleListTasks
      cases agentId with
      | none =>
          cases isKnown
          rfl
      | some bytes =>
          obtain ⟨text, isText, rfl⟩ := Option.map_eq_some_iff.mp isKnown
          simp only [isText]
          rfl
  | getAgent agentId =>
      simp only [readRequest, bind, Option.bind_eq_some_iff] at read
      obtain ⟨text, isText, ⟨⟩⟩ := read
      unfold handle handleGetAgent
      simp only [isText]
      rfl
  | listAgents status limit offset =>
      cases read
      rfl
  | updateTaskStatus taskId body =>
      simp only [readRequest, bind, Option.bind_eq_some_iff] at read
      obtain ⟨held, bodyRead, ⟨⟩⟩ := read
      exact handleUpdateTaskStatus_of_readBody bodyRead schedule.first schedule.second taskId
  | cancelTask taskId =>
      cases read
      rfl
  | getLogs => cases read
  | tailLogs => cases read
  | uploadLogs => cases read

end HttpService

end DistributedComputing
