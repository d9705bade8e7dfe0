import DistributedComputing.Deployment

/-!
# Requests as ledger events

The system of the master with requests and sweeps executed one after another on a
database that does not fail, and the ledger events behind each of its steps.
-/

namespace DistributedComputing

open TransitionRuns ControlService

/-- Without reports, what the broker permits is what complete requests permit. -/
theorem Explains.enabled {events : List BrokerEvent} {before after : Store}
    (explains : Explains events before after)
    (noReport : ∀ task state exitCode, .report task state exitCode ∉ events) :
    Along Ledger.step Ledger.Enabled before.ledger events := by
  have possible := explains.possible
  generalize before.ledger = ledger at possible
  clear explains
  induction events generalizing ledger with
  | nil => trivial
  | cons event events ih =>
      refine ⟨?_, ih (fun task state exitCode member =>
        noReport task state exitCode (by simp [member])) _ possible.2⟩
      cases event with
      | report task state exitCode => exact absurd (by simp) (noReport task state exitCode)
      | setStatus agent status => exact possible.1
      | create task => exact possible.1
      | claim agent task => exact possible.1
      | cancel task => exact possible.1
      | expire agent => exact possible.1

/-- The answer is of the 200 family, as the clients check it. -/
def Response.Successful (response : Response) : Prop :=
  200 ≤ response.status ∧ response.status < 300

instance (response : Response) : Decidable response.Successful :=
  inferInstanceAs (Decidable (_ ∧ _))

namespace ControlService

theorem parseBody_error {Result : Type} {parse : Json → Except String Result}
    {body : Body} {response : Response} (failed : parseBody parse body = .error response) :
    response.status = 400 := by
  unfold parseBody at failed
  cases body with
  | invalid what =>
      cases failed
      rfl
  | empty =>
      simp only [parseJsonBody, bind, Except.bind] at failed
      split at failed <;> cases failed
      rfl
  | json value =>
      simp only [parseJsonBody, bind, Except.bind] at failed
      split at failed <;> cases failed
      rfl

theorem parseBody_ok {Result : Type} {parse : Json → Except String Result} {body : Body}
    {result : Result} (parsed : parseBody parse body = .ok result) :
    ∃ json, parse json = .ok result := by
  unfold parseBody at parsed
  cases json : parseJsonBody body with
  | error response => simp [json, bind, Except.bind] at parsed
  | ok value =>
      simp only [json, bind, Except.bind] at parsed
      split at parsed
      · rename_i other returned
        cases parsed
        exact ⟨value, returned⟩
      · cases parsed

section Lists

variable (deployment : Deployment) (attempts : List Attempt) (store : Store)

theorem handleListTasks_store (state agentId limit offset : Option String) :
    (handleListTasks deployment.broker attempts state agentId limit offset store).2 = store := by
  unfold handleListTasks
  split
  · rfl
  · rename_i chosen _
    have same := deployment.listTasks_store attempts store chosen agentId
      (getQueryParamInt limit 50) (getQueryParamInt offset 0)
    rcases ended : deployment.broker.listTasks attempts chosen agentId
      (getQueryParamInt limit 50) (getQueryParamInt offset 0) store with ⟨_ | _, after⟩ <;>
      · rw [ended] at same
        exact same

theorem handleListAgents_store (status limit offset : Option String) :
    (handleListAgents deployment.broker attempts status limit offset store).2 = store := by
  unfold handleListAgents
  split
  · rfl
  · rename_i chosen _
    have same := deployment.listAgents_store attempts store chosen
      (getQueryParamInt limit 50) (getQueryParamInt offset 0)
    rcases ended : deployment.broker.listAgents attempts chosen
      (getQueryParamInt limit 50) (getQueryParamInt offset 0) store with ⟨_ | _, after⟩ <;>
      · rw [ended] at same
        exact same

end Lists

section Handlers

variable {deployment : Deployment} {attempts : List Attempt}
  (healthy : deployment.Healthy attempts) (store : Store)

include healthy

theorem handleUpsertAgent_events (heartbeatIntervalSec : Int) (agentId : String)
    (body : Body) : ∃ events, (events = [] ∨ events = [.setStatus agentId .idle]) ∧
      Explains events store (handleUpsertAgent deployment.broker heartbeatIntervalSec attempts
        agentId body store).2 := by
  unfold handleUpsertAgent
  cases parsed : parseBody (Api.parseAgentInput agentId) body with
  | error response => exact ⟨[], .inl rfl, .quiet rfl⟩
  | ok agent =>
      obtain ⟨json, parsedJson⟩ := parseBody_ok parsed
      obtain ⟨returned, explains⟩ := Deployment.upsertAgent_spec healthy store agent
      rw [Api.agentId_of_parseAgentInput parsedJson] at explains
      rcases ended : deployment.broker.upsertAgent attempts agent store with ⟨_ | _, after⟩
      · simp [ended] at returned
      · rw [ended] at explains
        simp only [ended]
        exact ⟨_, .inr rfl, explains⟩

theorem handleAgentHeartbeat_events (agentId : String) (body : Body) :
    ∃ events, (events = [] ∨ ∃ heartbeat,
        parseBody (Api.parseAgentHeartbeat agentId) body = .ok heartbeat ∧
          store.agent agentId ≠ none ∧ events = [.setStatus agentId heartbeat.status]) ∧
      Explains events store
        (handleAgentHeartbeat deployment.broker attempts agentId body store).2 := by
  unfold handleAgentHeartbeat
  cases parsed : parseBody (Api.parseAgentHeartbeat agentId) body with
  | error response => exact ⟨[], .inl rfl, .quiet rfl⟩
  | ok heartbeat =>
      obtain ⟨json, parsedJson⟩ := parseBody_ok parsed
      have sameId := Api.agentId_of_parseAgentHeartbeat parsedJson
      have spec := Deployment.updateHeartbeat_spec healthy store heartbeat
      rcases ended : deployment.broker.updateHeartbeat attempts heartbeat store with
        ⟨_ | updated, after⟩
      · rw [ended] at spec
        exact spec.elim
      · rw [ended] at spec
        simp only [ended]
        cases updated with
        | false => exact ⟨[], .inl rfl, .quiet (by rw [spec.2])⟩
        | true =>
            rw [HeartbeatSpec, sameId] at spec
            exact ⟨_, .inr ⟨heartbeat, rfl, spec.1, rfl⟩, spec.2⟩

theorem handleCreateTask_events (body : Body) :
    ∃ events, (events = [] ∨ ∃ taskId, 0 < taskId ∧ events = [.create taskId]) ∧
      Explains events store (handleCreateTask deployment.broker attempts body store).2 := by
  unfold handleCreateTask
  cases parsed : parseBody Api.parseTaskCreate body with
  | error response => exact ⟨[], .inl rfl, .quiet rfl⟩
  | ok task =>
      have spec := Deployment.createTask_spec healthy store task
      rcases ended : deployment.broker.createTask attempts task store with ⟨_ | taskId, after⟩
      · rw [ended] at spec
        simp only [ended]
        exact ⟨[], .inl rfl, .quiet (by rw [show after = store from spec])⟩
      · rw [ended] at spec
        simp only [ended]
        rcases spec with ⟨refused, same⟩ | ⟨positive, explains⟩
        · subst same
          simp only [refused, if_true]
          exact ⟨[], .inl rfl, .quiet rfl⟩
        · rw [if_neg (by omega)]
          exact ⟨_, .inr ⟨taskId, positive, rfl⟩, explains⟩

theorem handleGetTask_store (taskIdRaw : String) :
    (handleGetTask deployment.broker attempts taskIdRaw store).2 = store := by
  unfold handleGetTask
  split
  · rfl
  · rename_i taskId _
    have spec := (Deployment.getTask_spec healthy store taskId).1
    rcases ended : deployment.broker.getTask attempts taskId store with ⟨_ | _ | _, after⟩ <;>
      · rw [ended] at spec
        exact spec

theorem handleGetAgent_store (agentId : String) :
    (handleGetAgent deployment.broker attempts agentId store).2 = store := by
  unfold handleGetAgent
  have spec := Deployment.getAgent_spec healthy store agentId
  rcases ended : deployment.broker.getAgent attempts agentId store with ⟨_ | _ | _, after⟩ <;>
    · rw [ended] at spec
      exact spec

/-- A poll either changes nothing and does not succeed, or the answer lists what it
claimed. -/
theorem handlePollTasks_events (agentId : String) (body : Body) :
    ((handlePollTasks deployment.broker attempts agentId body store).2 = store ∧
        ¬ (handlePollTasks deployment.broker attempts agentId body store).1.Successful) ∨
      ∃ freeSlots dispatches,
        (handlePollTasks deployment.broker attempts agentId body store).1 =
            dispatchesResponse dispatches ∧
          store.agent agentId ≠ none ∧ (freeSlots ≤ 0 → dispatches = []) ∧
          Explains (pollEvents agentId freeSlots dispatches) store
            (handlePollTasks deployment.broker attempts agentId body store).2 := by
  unfold handlePollTasks
  cases parsed : parseBody parseFreeSlots body with
  | error response =>
      have status := parseBody_error parsed
      exact .inl ⟨rfl, by simp [Response.Successful, status]⟩
  | ok freeSlots =>
      have spec := Deployment.pollTasksForAgent_spec healthy store agentId freeSlots
      rcases ended : deployment.broker.pollTasksForAgent attempts agentId freeSlots store with
        ⟨error | _ | dispatches, after⟩
      · rw [ended] at spec
        simp only [ended]
        exact .inl ⟨spec, by simp [Response.Successful, dbErrorResponse, errorResponse]⟩
      · rw [ended] at spec
        simp only [ended]
        exact .inl ⟨spec.2, by simp [Response.Successful, agentNotFoundResponse, errorResponse]⟩
      · rw [ended] at spec
        simp only [ended]
        exact .inr ⟨freeSlots, dispatches, rfl, spec⟩

/-- What the first half of a status report answers or passes on. -/
theorem checkStatusUpdate_eq (taskIdRaw : String) (body : Body) :
    checkStatusUpdate deployment.broker attempts taskIdRaw body store =
      (match Api.parseTaskId taskIdRaw with
      | none => .error invalidTaskIdResponse
      | some taskId =>
          match parseBody Api.parseTaskStatusUpdate body with
          | .error response => .error response
          | .ok update =>
              match store.ledger.state taskId with
              | none => .error (taskNotFoundResponse taskId)
              | some before =>
                  if Api.isValidTaskStateTransition before update.state then
                    .ok (taskId, update)
                  else
                    .error (errorResponse 409 "INVALID_STATE_TRANSITION"
                      "Invalid task state transition"
                      (.object [("from", .string (taskStateToApi before)),
                        ("to", .string (taskStateToApi update.state))])), store) := by
  unfold checkStatusUpdate
  cases Api.parseTaskId taskIdRaw with
  | none => rfl
  | some taskId =>
      cases parseBody Api.parseTaskStatusUpdate body with
      | error response => rfl
      | ok update =>
          obtain ⟨same, record, stateEq, returned⟩ := Deployment.getTask_spec healthy store taskId
          rcases ended : deployment.broker.getTask attempts taskId store with ⟨result, after⟩
          rw [ended] at same returned
          simp only [ended, show after = store from same, show result = _ from returned]
          cases found : store.task taskId with
          | none => simp [Store.ledger_state, found]
          | some row =>
              simp only [Option.map_some, Store.ledger_state, found, stateEq]
              split <;> rfl

/-- A write either finds no task, fails without effect, or is a report. -/
theorem writeStatusUpdate_events (taskId : Int) (update : TaskStatusUpdate) :
    ((writeStatusUpdate deployment.broker attempts taskId update store).2 = store ∧
        ¬ (writeStatusUpdate deployment.broker attempts taskId update store).1.Successful) ∨
      ((writeStatusUpdate deployment.broker attempts taskId update store).1 = okResponse ∧
        Explains [.report taskId update.state update.exitCode] store
          (writeStatusUpdate deployment.broker attempts taskId update store).2) := by
  unfold writeStatusUpdate
  have spec := Deployment.updateTaskStatus_spec healthy store taskId update
  rcases ended : deployment.broker.updateTaskStatus attempts taskId update store with
    ⟨error | updated, after⟩
  · rw [ended] at spec
    exact .inl ⟨spec, by simp [Response.Successful, dbErrorResponse, errorResponse]⟩
  · rw [ended] at spec
    cases updated with
    | false =>
        exact .inl ⟨spec.2, by simp [Response.Successful, taskNotFoundResponse, errorResponse]⟩
    | true => exact .inr ⟨rfl, spec.2⟩

theorem handleCancelTask_events (taskIdRaw : String) :
    ∃ events, (events = [] ∨ ∃ taskId, Api.parseTaskId taskIdRaw = some taskId ∧
        events = [.cancel taskId]) ∧
      Explains events store (handleCancelTask deployment.broker attempts taskIdRaw store).2 := by
  unfold handleCancelTask
  cases parsed : Api.parseTaskId taskIdRaw with
  | none => exact ⟨[], .inl rfl, .quiet rfl⟩
  | some taskId =>
      have spec := Deployment.cancelTask_spec healthy store taskId
      rcases ended : deployment.broker.cancelTask attempts taskId store with
        ⟨error | result, after⟩
      · rw [ended] at spec
        simp only [ended]
        exact ⟨[], .inl rfl, .quiet (by rw [show after = store from spec])⟩
      · rw [ended] at spec
        simp only [ended]
        cases result with
        | ok => exact ⟨_, .inr ⟨taskId, rfl, rfl⟩, spec⟩
        | notFound => exact ⟨[], .inl rfl, .quiet (by rw [show after = store from spec])⟩
        | invalidState => exact ⟨[], .inl rfl, .quiet (by rw [show after = store from spec])⟩
        | error => exact ⟨[], .inl rfl, .quiet (by rw [show after = store from spec])⟩

theorem maintenance_events (offlineAfterSec : Int) :
    ∃ attempt ∈ attempts,
      Explains ((store.staleAgents attempt.now offlineAfterSec).map .expire) store
        (maintenance deployment.broker attempts offlineAfterSec store) := by
  obtain ⟨attempt, member, _, explains⟩ :=
    Deployment.markOfflineAgentsAndRequeue_spec healthy store offlineAfterSec
  exact ⟨attempt, member, explains⟩

end Handlers

end ControlService

end DistributedComputing
