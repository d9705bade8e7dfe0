import DistributedComputing.HttpHandlers
import DistributedComputing.LogStoreRefinement

/-!
# Answers and exceptions of the handlers

A handler lets an exception of the JSON library escape exactly when it would echo a text that
is not UTF-8, or when a log upload has no `stream` of the right type.
-/

namespace DistributedComputing

open ControlService

/-! ## The unified format of errors -/

/-- An error of the given status has the documented format. -/
def UnifiedError (document : Json) : Prop :=
  ∃ code message details, document = makeError code message (.object details)

/-- The answer is one of the 200 family or an error in the unified format. -/
def Response.Unified (response : Response) : Prop :=
  (200 ≤ response.status ∧ response.status < 300) ∨ UnifiedError response.body

def HttpAnswer.Unified (answer : HttpAnswer) : Prop :=
  (200 ≤ answer.status ∧ answer.status < 300) ∨
    ∃ document, answer.content = .json document ∧ UnifiedError document

theorem Response.Unified.toAnswer {response : Response} (unified : response.Unified) :
    response.toAnswer.Unified := by
  rcases unified with success | isError
  · exact .inl success
  · exact .inr ⟨response.body, rfl, isError⟩

theorem errorResponse_unified (status : Nat) (code message : String)
    (details : List (String × Json)) :
    (errorResponse status code message (.object details)).Unified :=
  .inr ⟨code, message, details, rfl⟩

theorem Response.unified_of_success {response : Response} (success : response.status = 200) :
    response.Unified := by
  left
  omega

theorem dbErrorResponse_unified (error : DbError) : (dbErrorResponse error).Unified :=
  errorResponse_unified 500 _ _ []

theorem agentNotFoundResponse_unified (agentId : String) :
    (agentNotFoundResponse agentId).Unified :=
  errorResponse_unified 404 _ _ _

theorem taskNotFoundResponse_unified (taskId : Int) : (taskNotFoundResponse taskId).Unified :=
  errorResponse_unified 404 _ _ _

theorem invalidTaskIdResponse_unified : invalidTaskIdResponse.Unified :=
  errorResponse_unified 400 _ _ []

namespace ControlService

theorem parseBody_unified {Result : Type} {parse : Json → Except String Result} {body : Body}
    {response : Response} (rejected : parseBody parse body = .error response) :
    response.Unified := by
  unfold parseBody at rejected
  cases body with
  | invalid what =>
      cases rejected
      exact errorResponse_unified 400 _ _ _
  | empty =>
      simp only [parseJsonBody, bind, Except.bind] at rejected
      split at rejected
      · cases rejected
      · cases rejected
        exact errorResponse_unified 400 _ _ []
  | json value =>
      simp only [parseJsonBody, bind, Except.bind] at rejected
      split at rejected
      · cases rejected
      · cases rejected
        exact errorResponse_unified 400 _ _ []

theorem parseQueryParam_unified {Value : Type} {parse : String → Option Value} {message : String}
    {raw : Option String} {response : Response}
    (rejected : parseQueryParam parse message raw = .error response) : response.Unified := by
  unfold parseQueryParam at rejected
  split at rejected
  · cases rejected
  · split at rejected
    · cases rejected
    · cases rejected
      exact errorResponse_unified 400 _ _ []

section Handlers

variable (broker : Broker) (attempts : List Attempt) (store : Store)

theorem handleUpsertAgent_unified (heartbeatIntervalSec : Int) (agentId : String) (body : Body) :
    (handleUpsertAgent broker heartbeatIntervalSec attempts agentId body store).1.Unified := by
  unfold handleUpsertAgent
  split
  · rename_i rejected
    exact parseBody_unified rejected
  · split
    · exact dbErrorResponse_unified _
    · exact Response.unified_of_success rfl

theorem handleAgentHeartbeat_unified (agentId : String) (body : Body) :
    (handleAgentHeartbeat broker attempts agentId body store).1.Unified := by
  unfold handleAgentHeartbeat
  split
  · rename_i rejected
    exact parseBody_unified rejected
  · split
    · exact dbErrorResponse_unified _
    · exact agentNotFoundResponse_unified agentId
    · exact Response.unified_of_success rfl

theorem handlePollTasks_unified (agentId : String) (body : Body) :
    (handlePollTasks broker attempts agentId body store).1.Unified := by
  unfold handlePollTasks
  split
  · rename_i rejected
    exact parseBody_unified rejected
  · split
    · exact dbErrorResponse_unified _
    · exact agentNotFoundResponse_unified agentId
    · exact Response.unified_of_success rfl

theorem handleCreateTask_unified (body : Body) :
    (handleCreateTask broker attempts body store).1.Unified := by
  unfold handleCreateTask
  split
  · rename_i rejected
    exact parseBody_unified rejected
  · split
    · exact dbErrorResponse_unified _
    · split
      · exact errorResponse_unified 500 _ _ []
      · left
        simp

theorem handleGetTask_unified (taskIdRaw : String) :
    (handleGetTask broker attempts taskIdRaw store).1.Unified := by
  unfold handleGetTask
  split
  · exact invalidTaskIdResponse_unified
  · split
    · exact dbErrorResponse_unified _
    · exact taskNotFoundResponse_unified _
    · exact Response.unified_of_success rfl

theorem handleGetAgent_unified (agentId : String) :
    (handleGetAgent broker attempts agentId store).1.Unified := by
  unfold handleGetAgent
  split
  · exact dbErrorResponse_unified _
  · exact agentNotFoundResponse_unified agentId
  · exact Response.unified_of_success rfl

theorem handleListTasks_unified (state agentId limit offset : Option String) :
    (handleListTasks broker attempts state agentId limit offset store).1.Unified := by
  unfold handleListTasks
  split
  · rename_i rejected
    exact parseQueryParam_unified rejected
  · split
    · exact dbErrorResponse_unified _
    · exact Response.unified_of_success rfl

theorem handleListAgents_unified (status limit offset : Option String) :
    (handleListAgents broker attempts status limit offset store).1.Unified := by
  unfold handleListAgents
  split
  · rename_i rejected
    exact parseQueryParam_unified rejected
  · split
    · exact dbErrorResponse_unified _
    · exact Response.unified_of_success rfl

theorem handleUpdateTaskStatus_unified (writeAttempts : List Attempt) (taskIdRaw : String)
    (body : Body) :
    (handleUpdateTaskStatus broker attempts writeAttempts taskIdRaw body store).1.Unified := by
  unfold handleUpdateTaskStatus
  split
  · rename_i response after rejected
    unfold checkStatusUpdate at rejected
    split at rejected
    · cases rejected
      exact invalidTaskIdResponse_unified
    · split at rejected
      · rename_i refused
        cases rejected
        exact parseBody_unified refused
      · split at rejected
        · cases rejected
          exact dbErrorResponse_unified _
        · cases rejected
          exact taskNotFoundResponse_unified _
        · split at rejected
          · cases rejected
          · cases rejected
            exact errorResponse_unified 409 _ _ _
  · unfold writeStatusUpdate
    split
    · exact dbErrorResponse_unified _
    · exact taskNotFoundResponse_unified _
    · exact Response.unified_of_success rfl

theorem handleCancelTask_unified (taskIdRaw : String) :
    (handleCancelTask broker attempts taskIdRaw store).1.Unified := by
  unfold handleCancelTask
  split
  · exact invalidTaskIdResponse_unified
  · split
    · exact dbErrorResponse_unified _
    · exact taskNotFoundResponse_unified _
    · exact errorResponse_unified 409 _ _ _
    · exact Response.unified_of_success rfl
    · exact errorResponse_unified 500 _ _ []

end Handlers

end ControlService

/-- Every answer of `ControlService` that is no success is an error in the unified format. -/
theorem ControlService.handle_unified (config : MasterConfig) (broker : Broker)
    (schedule : Schedule) (request : Request) (store : Store) :
    (handle config broker schedule request store).1.Unified := by
  cases request with
  | upsertAgent agentId body => exact handleUpsertAgent_unified broker _ store _ agentId body
  | agentHeartbeat agentId body => exact handleAgentHeartbeat_unified broker _ store agentId body
  | pollTasks agentId body => exact handlePollTasks_unified broker _ store agentId body
  | createTask body => exact handleCreateTask_unified broker _ store body
  | getTask taskId => exact handleGetTask_unified broker _ store taskId
  | listTasks state agentId limit offset =>
      exact handleListTasks_unified broker _ store state agentId limit offset
  | getAgent agentId => exact handleGetAgent_unified broker _ store agentId
  | listAgents status limit offset =>
      exact handleListAgents_unified broker _ store status limit offset
  | updateTaskStatus taskId body =>
      exact handleUpdateTaskStatus_unified broker _ store _ taskId body
  | cancelTask taskId => exact handleCancelTask_unified broker _ store taskId

/-! ## When an answer is sent -/

namespace HttpService

/-- The handler ends with an answer as documented. -/
def Answers (handler : Handler) (state : MasterState) : Prop :=
  ∃ answer, (handler state).1 = .ok answer ∧ answer.Unified

theorem answers_answer {response : Response} (unified : response.Unified) (state : MasterState) :
    Answers (answer response) state :=
  ⟨response.toAnswer, rfl, unified.toAnswer⟩

theorem answers_onTables {handler : Store → Response × Store}
    (unified : ∀ store, (handler store).1.Unified) (state : MasterState) :
    Answers (onTables handler) state :=
  ⟨_, rfl, (unified state.tables).toAnswer⟩

theorem isValidUTF8_of_text {bytes : ByteArray} {text : String}
    (isText : String.fromUTF8? bytes = some text) : bytes.IsValidUTF8 := by
  unfold String.fromUTF8? at isText
  split at isText
  · assumption
  · cases isText

theorem not_isValidUTF8_of_no_text {bytes : ByteArray} (noText : String.fromUTF8? bytes = none) :
    ¬ bytes.IsValidUTF8 := by
  intro valid
  unfold String.fromUTF8? at noText
  rw [dif_pos valid] at noText
  cases noText

theorem exists_setJsonResponse_iff {response : String → Response}
    (unified : ∀ text, (response text).Unified) (outside : ByteArray) :
    (∃ answer, setJsonResponse outside response = .ok answer ∧ answer.Unified) ↔
      outside.IsValidUTF8 := by
  unfold setJsonResponse
  cases decoded : String.fromUTF8? outside with
  | some text => exact iff_of_true ⟨_, rfl, (unified text).toAnswer⟩ (isValidUTF8_of_text decoded)
  | none =>
      refine iff_of_false ?_ (not_isValidUTF8_of_no_text decoded)
      rintro ⟨_, ⟨⟩, _⟩

variable (service : HttpService)

/-- The text of the parser's exception, if the body makes it throw one, is UTF-8. -/
def Quotable (body : ByteArray) : Prop :=
  ∀ what, service.parseJsonBody body = .error what → what.IsValidUTF8

/-- The body is JSON that the handler accepts. -/
def Accepts {Input : Type} (parse : Json → Except String Input) (body : ByteArray) : Prop :=
  ∃ json input, service.parseJsonBody body = .ok json ∧ parse json = .ok input

/-- The id is UTF-8, or the text of an exception that the database raises for it is. -/
def RaisesText (agentId : ByteArray) : Prop :=
  agentId.IsValidUTF8 ∨ ∀ what, service.foreign agentId = .raised what → what.IsValidUTF8

/-- The id is UTF-8, or the database raises an exception for it whose text is. -/
def Nameable (agentId : ByteArray) : Prop :=
  agentId.IsValidUTF8 ∨ ∃ what, service.foreign agentId = .raised what ∧ what.IsValidUTF8

variable {service}

theorem answers_withJsonBody_iff {body : ByteArray} {rest : Json → Handler}
    {state : MasterState} :
    Answers (service.withJsonBody body rest) state ↔
      service.Quotable body ∧
        ∀ json, service.parseJsonBody body = .ok json → Answers (rest json) state := by
  have unified : ∀ what, (errorResponse 400 "BAD_REQUEST" "Invalid JSON"
      (.object [("error", .string what)])).Unified :=
    fun what => errorResponse_unified 400 _ _ _
  unfold Answers withJsonBody Quotable
  cases parsed : service.parseJsonBody body with
  | ok json => simp
  | error what => simpa using exists_setJsonResponse_iff unified what

theorem answers_onForeignId_iff {agentId : ByteArray}
    {absent fallback : Except JsonException HttpAnswer} {state : MasterState} :
    Answers (service.onForeignId agentId absent fallback) state ↔
      match service.foreign agentId with
      | .raised what => what.IsValidUTF8
      | .absent => ∃ answer, absent = .ok answer ∧ answer.Unified
      | .fallback => ∃ answer, fallback = .ok answer ∧ answer.Unified := by
  unfold Answers onForeignId
  cases service.foreign agentId with
  | raised what =>
      exact exists_setJsonResponse_iff (fun what => dbErrorResponse_unified ⟨what⟩) what
  | absent => rfl
  | fallback => rfl

theorem exists_agentNotFound_iff (agentId : ByteArray) :
    (∃ answer, agentNotFound agentId = .ok answer ∧ answer.Unified) ↔ agentId.IsValidUTF8 :=
  exists_setJsonResponse_iff agentNotFoundResponse_unified agentId

theorem answers_onAgent_iff {Input : Type} {agentId body : ByteArray}
    {known : String → Body → Store → Response × Store}
    (unified : ∀ text read store, (known text read store).1.Unified)
    {parse : Json → Except String Input} {absent fallback : Except JsonException HttpAnswer}
    {state : MasterState} :
    Answers (service.onAgent agentId body known parse absent fallback) state ↔
      service.Quotable body ∧
        (service.Accepts parse body →
          agentId.IsValidUTF8 ∨ Answers (service.onForeignId agentId absent fallback) state) := by
  unfold onAgent
  rw [answers_withJsonBody_iff]
  refine and_congr_right fun _ => ?_
  cases decoded : String.fromUTF8? agentId with
  | some text =>
      simp only [isValidUTF8_of_text decoded, true_or, implies_true, iff_true]
      exact fun json _ => answers_onTables (unified text (.json json)) state
  | none =>
      simp only [not_isValidUTF8_of_no_text decoded, false_or]
      constructor
      · rintro answers ⟨json, input, parsed, accepted⟩
        simpa only [accepted] using answers json parsed
      · intro answers json parsed
        cases accepted : parse json with
        | error message => exact answers_answer (errorResponse_unified 400 _ _ []) state
        | ok input => exact answers ⟨json, input, parsed, accepted⟩

section Handlers

variable (now : Time) (state : MasterState)

theorem handleUpsertAgent_answers_iff (attempts : List Attempt) (agentId body : ByteArray) :
    Answers (service.handleUpsertAgent attempts agentId body) state ↔
      service.Quotable body ∧
        (service.Accepts (Api.parseAgentInput "") body → service.RaisesText agentId) := by
  unfold handleUpsertAgent
  rw [answers_onAgent_iff fun text read store => handleUpsertAgent_unified _ _ store _ text read]
  refine and_congr_right fun _ => imp_congr_right fun _ => or_congr_right ?_
  rw [answers_onForeignId_iff]
  have accepted : ∃ answer, (Except.ok (Response.toAnswer
      { status := 200
        body := .object
          [("status", .string "ok"),
            ("heartbeat_interval_sec", .integer service.config.heartbeatIntervalSec)] }) :
      Except JsonException HttpAnswer) = .ok answer ∧ answer.Unified :=
    ⟨_, rfl, (Response.unified_of_success rfl).toAnswer⟩
  cases service.foreign agentId with
  | raised what => simp
  | absent => simpa using accepted
  | fallback => simpa using accepted

theorem handleAgentHeartbeat_answers_iff (attempts : List Attempt) (agentId body : ByteArray) :
    Answers (service.handleAgentHeartbeat attempts agentId body) state ↔
      service.Quotable body ∧
        (service.Accepts (Api.parseAgentHeartbeat "") body → service.Nameable agentId) := by
  unfold handleAgentHeartbeat
  rw [answers_onAgent_iff fun text read store => handleAgentHeartbeat_unified _ _ store text read]
  refine and_congr_right fun _ => imp_congr_right fun _ => ?_
  unfold Nameable
  rw [answers_onForeignId_iff]
  cases service.foreign agentId with
  | raised what => simp
  | absent => simp [exists_agentNotFound_iff]
  | fallback => simp [exists_agentNotFound_iff]

theorem handlePollTasks_answers_iff (attempts : List Attempt) (agentId body : ByteArray) :
    Answers (service.handlePollTasks attempts agentId body) state ↔
      service.Quotable body ∧
        (service.Accepts parseFreeSlots body →
          service.RaisesText agentId ∧
            (agentId.IsValidUTF8 ∨ service.foreign agentId ≠ .absent)) := by
  unfold handlePollTasks
  rw [answers_onAgent_iff fun text read store => handlePollTasks_unified _ _ store text read]
  refine and_congr_right fun _ => imp_congr_right fun _ => ?_
  unfold RaisesText
  rw [answers_onForeignId_iff, ← or_and_left]
  have nothing : ∃ answer, (Except.ok (dispatchesResponse []).toAnswer :
      Except JsonException HttpAnswer) = .ok answer ∧ answer.Unified :=
    ⟨_, rfl, (Response.unified_of_success rfl).toAnswer⟩
  cases service.foreign agentId with
  | raised what => simp
  | absent => simp [exists_agentNotFound_iff]
  | fallback => simpa using Or.inr nothing

theorem handleCreateTask_answers_iff (attempts : List Attempt) (body : ByteArray) :
    Answers (service.handleCreateTask attempts body) state ↔ service.Quotable body := by
  unfold handleCreateTask
  rw [answers_withJsonBody_iff, and_iff_left]
  exact fun json _ =>
    answers_onTables (fun store => handleCreateTask_unified _ _ store _) state

theorem handleGetAgent_answers_iff (attempts : List Attempt) (agentId : ByteArray) :
    Answers (service.handleGetAgent attempts agentId) state ↔ service.Nameable agentId := by
  unfold handleGetAgent Nameable
  cases decoded : String.fromUTF8? agentId with
  | some text =>
      simp only [isValidUTF8_of_text decoded, true_or, iff_true]
      exact answers_onTables (fun store => handleGetAgent_unified _ _ store _) state
  | none =>
      have invalid := not_isValidUTF8_of_no_text decoded
      simp only [invalid, false_or]
      rw [answers_onForeignId_iff]
      cases service.foreign agentId with
      | raised what => simp
      | absent => simp [exists_agentNotFound_iff, invalid]
      | fallback => simp [exists_agentNotFound_iff, invalid]

theorem handleListTasks_answers_iff (attempts : List Attempt)
    (taskState agentId limit offset : Option ByteArray) :
    Answers (service.handleListTasks attempts taskState agentId limit offset) state ↔
      ∀ bytes wanted, agentId = some bytes →
        parseQueryParam taskStateFromApi "Invalid task state" (taskState.map paramText) =
            .ok wanted →
          service.RaisesText bytes := by
  have listed : ∀ text, Answers (onTables (ControlService.handleListTasks service.broker attempts
      (taskState.map paramText) text (limit.map paramText) (offset.map paramText))) state :=
    fun text => answers_onTables (fun store => handleListTasks_unified _ _ store ..) state
  unfold handleListTasks
  cases agentId with
  | none =>
      refine iff_of_true (listed none) ?_
      rintro bytes wanted ⟨⟩
  | some bytes =>
      cases decoded : String.fromUTF8? bytes with
      | some text =>
          simp only [decoded]
          refine iff_of_true (listed (some text)) ?_
          rintro other wanted ⟨⟩ _
          exact .inl (isValidUTF8_of_text decoded)
      | none =>
          simp only [decoded]
          cases accepted : parseQueryParam taskStateFromApi "Invalid task state"
              (taskState.map paramText) with
          | error response =>
              refine iff_of_true (answers_answer (parseQueryParam_unified accepted) state) ?_
              rintro other wanted _ ⟨⟩
          | ok wanted =>
              have nothing : ∃ answer, (Except.ok (Response.toAnswer
                  { status := 200, body := .object [("tasks", .array [])] }) :
                  Except JsonException HttpAnswer) = .ok answer ∧ answer.Unified :=
                ⟨_, rfl, (Response.unified_of_success rfl).toAnswer⟩
              have invalid := not_isValidUTF8_of_no_text decoded
              dsimp only
              rw [answers_onForeignId_iff]
              unfold RaisesText
              cases found : service.foreign bytes with
              | raised what => simp [invalid, found]
              | absent => simpa [invalid, found] using nothing
              | fallback => simpa [invalid, found] using nothing

theorem handleUpdateTaskStatus_answers_iff (readAttempts writeAttempts : List Attempt)
    (taskId body : ByteArray) :
    Answers (service.handleUpdateTaskStatus readAttempts writeAttempts taskId body) state ↔
      (Api.parseTaskId (paramText taskId) ≠ none → service.Quotable body) := by
  unfold handleUpdateTaskStatus
  cases Api.parseTaskId (paramText taskId) with
  | none => simpa using answers_answer invalidTaskIdResponse_unified state
  | some number =>
      dsimp only
      rw [answers_withJsonBody_iff, and_iff_left]
      · simp
      · exact fun json _ =>
          answers_onTables (fun store => handleUpdateTaskStatus_unified _ _ store _ _ _) state

theorem handleGetLogs_answers (taskId : ByteArray) (stream : Option ByteArray) :
    Answers (service.handleGetLogs now taskId stream) state := by
  unfold handleGetLogs
  split
  · exact answers_answer invalidTaskIdResponse_unified state
  · dsimp only
    split
    · exact answers_answer (errorResponse_unified 400 _ _ []) state
    · unfold Answers
      dsimp only
      split
      · exact ⟨_, rfl, .inl ⟨le_rfl, by simp⟩⟩
      · exact ⟨_, rfl, (errorResponse_unified 404 _ _ _).toAnswer⟩

theorem handleTailLogs_answers (taskId : ByteArray) (stream offset : Option ByteArray) :
    Answers (service.handleTailLogs now taskId stream offset) state := by
  unfold handleTailLogs
  split
  · exact answers_answer invalidTaskIdResponse_unified state
  · dsimp only
    split
    · exact answers_answer (errorResponse_unified 400 _ _ []) state
    · unfold Answers
      dsimp only
      split
      · exact ⟨_, rfl, .inl ⟨le_rfl, by simp⟩⟩
      · exact ⟨_, rfl, (errorResponse_unified 404 _ _ _).toAnswer⟩

theorem storeLog_answers (taskId : Int) (stream data : String) :
    Answers (service.storeLog now taskId stream data) state := by
  unfold Answers storeLog
  split
  · exact ⟨_, rfl, (errorResponse_unified 413 _ _ _).toAnswer⟩
  · split
    · exact ⟨_, rfl, (errorResponse_unified 500 _ _ []).toAnswer⟩
    · exact ⟨_, rfl, (Response.unified_of_success rfl).toAnswer⟩

/-- `value` returns when the body is an object and the member is absent or a string. -/
theorem value_ok_iff {json : Json} {name fallback : String} :
    (∃ value, json.value name fallback = .ok value) ↔
      json.IsObject ∧ ∀ held, json.member name = some held → ∃ text, held = .string text := by
  cases json with
  | object members =>
      unfold Json.value
      have isObject : (Json.object members).IsObject := trivial
      simp only [isObject, true_and, Json.member_object]
      cases Json.find name members with
      | none => simp
      | some held => cases held <;> simp
  | _ => simp [Json.value, Json.IsObject]

theorem handleUploadLogs_answers_iff (taskId body : ByteArray) :
    Answers (service.handleUploadLogs now taskId body) state ↔
      (Api.parseTaskId (paramText taskId) ≠ none →
        service.Quotable body ∧ ∀ json, service.parseJsonBody body = .ok json →
          json.IsObject ∧
            ∀ held, json.member "stream" = some held → ∃ text, held = .string text) := by
  unfold handleUploadLogs
  cases Api.parseTaskId (paramText taskId) with
  | none => simpa using answers_answer invalidTaskIdResponse_unified state
  | some number =>
      dsimp only
      rw [answers_withJsonBody_iff]
      simp only [ne_eq, reduceCtorEq, not_false_eq_true, true_imp_iff]
      refine and_congr_right fun _ => forall_congr' fun json => imp_congr_right fun _ => ?_
      rw [← value_ok_iff]
      cases read : json.value "stream" "stdout" with
      | error exception =>
          refine iff_of_false ?_ (by simp)
          rintro ⟨_, ⟨⟩, _⟩
      | ok stream =>
          refine iff_of_true ?_ ⟨stream, rfl⟩
          dsimp only
          split
          · exact answers_answer (errorResponse_unified 400 _ _ []) state
          · split
            · exact answers_answer (errorResponse_unified 400 _ _ []) state
            · exact storeLog_answers now state number stream _

end Handlers

/-- What a request must meet to be answered: the texts that its handler echoes are UTF-8, and an
upload is an object whose `stream`, if there is one, is a string. -/
def Answerable (service : HttpService) : HttpRequest → Prop
  | .upsertAgent agentId body =>
      service.Quotable body ∧
        (service.Accepts (Api.parseAgentInput "") body → service.RaisesText agentId)
  | .agentHeartbeat agentId body =>
      service.Quotable body ∧
        (service.Accepts (Api.parseAgentHeartbeat "") body → service.Nameable agentId)
  | .pollTasks agentId body =>
      service.Quotable body ∧
        (service.Accepts parseFreeSlots body →
          service.RaisesText agentId ∧
            (agentId.IsValidUTF8 ∨ service.foreign agentId ≠ .absent))
  | .createTask body => service.Quotable body
  | .getAgent agentId => service.Nameable agentId
  | .listTasks state agentId _ _ =>
      ∀ bytes wanted, agentId = some bytes →
        parseQueryParam taskStateFromApi "Invalid task state" (state.map paramText) =
            .ok wanted →
          service.RaisesText bytes
  | .updateTaskStatus taskId body =>
      Api.parseTaskId (paramText taskId) ≠ none → service.Quotable body
  | .uploadLogs taskId body =>
      Api.parseTaskId (paramText taskId) ≠ none →
        service.Quotable body ∧ ∀ json, service.parseJsonBody body = .ok json →
          json.IsObject ∧
            ∀ held, json.member "stream" = some held → ∃ text, held = .string text
  | _ => True

end HttpService

open HttpService in
/-- Whatever the tables and the files hold and whatever fails, these requests and no others are
answered as documented. -/
theorem requests_are_answered_iff (service : HttpService) (schedule : Schedule) (now : Time)
    (request : HttpRequest) (state : MasterState) :
    (∃ answer, (service.handle schedule now request state).1 = .ok answer ∧ answer.Unified) ↔
      service.Answerable request := by
  cases request with
  | upsertAgent agentId body => exact handleUpsertAgent_answers_iff state _ agentId body
  | agentHeartbeat agentId body => exact handleAgentHeartbeat_answers_iff state _ agentId body
  | pollTasks agentId body => exact handlePollTasks_answers_iff state _ agentId body
  | createTask body => exact handleCreateTask_answers_iff state _ body
  | getTask taskId =>
      exact iff_of_true (answers_onTables (fun store => handleGetTask_unified _ _ store _) state)
        trivial
  | listTasks taskState agentId limit offset =>
      exact handleListTasks_answers_iff state _ taskState agentId limit offset
  | getAgent agentId => exact handleGetAgent_answers_iff state _ agentId
  | listAgents status limit offset =>
      exact iff_of_true
        (answers_onTables (fun store => handleListAgents_unified _ _ store ..) state) trivial
  | updateTaskStatus taskId body => exact handleUpdateTaskStatus_answers_iff state _ _ taskId body
  | cancelTask taskId =>
      exact iff_of_true
        (answers_onTables (fun store => handleCancelTask_unified _ _ store _) state) trivial
  | getLogs taskId stream =>
      exact iff_of_true (handleGetLogs_answers now state taskId stream) trivial
  | tailLogs taskId stream offset =>
      exact iff_of_true (handleTailLogs_answers now state taskId stream offset) trivial
  | uploadLogs taskId body => exact handleUploadLogs_answers_iff now state taskId body

/-- A text around bytes does not make UTF-8 of them. -/
theorem isValidUTF8_text_append_iff (text : String) (bytes : ByteArray) :
    (text.toByteArray ++ bytes).IsValidUTF8 ↔ bytes.IsValidUTF8 := by
  rw [← String.utf8Encode_toList]
  induction text.toList with
  | nil => simp
  | cons char chars ih =>
      rw [List.utf8Encode_cons, ByteArray.append_assoc,
        ByteArray.isValidUTF8_utf8Encode_singleton_append_iff]
      exact ih

/-- The parser on an empty array and on a byte that begins no value, which the text of its
exception quotes. -/
def parseSample (body : ByteArray) : Except ByteArray Json :=
  if body.data = "[]".toByteArray.data then .ok (.array [])
  else
    .error (("[json.exception.parse_error.101] parse error at line 1, column 1: " ++
      "syntax error while parsing value - invalid literal; last read: '").toByteArray ++
      (body ++ "'".toByteArray))

def sampleService : HttpService where
  broker := mongoBroker
  logStore := { rootDir := "logs", dump := fun _ => [] }
  parse := parseSample
  foreign := fun _ => .absent

/-- A log upload with an empty array as its body, and a body that is the byte 255. -/
theorem malformed_bodies_raise :
    let state : MasterState := { tables := Store.empty, files := freshTree }
    (¬ ∃ answer, (sampleService.handle { first := [] } 0
        (.uploadLogs "1".toByteArray "[]".toByteArray) state).1 = .ok answer ∧ answer.Unified) ∧
      ¬ ∃ answer, (sampleService.handle { first := [] } 0 (.createTask ⟨#[255]⟩) state).1 =
        .ok answer ∧ answer.Unified := by
  constructor
  · rintro ⟨answer, answered, _⟩
    cases answered
  · intro answered
    have quoted := ((HttpService.handleCreateTask_answers_iff _ _ _).mp answered) _ rfl
    rw [isValidUTF8_text_append_iff] at quoted
    revert quoted
    decide

end DistributedComputing
