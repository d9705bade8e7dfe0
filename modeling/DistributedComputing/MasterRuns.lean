import DistributedComputing.AgentClient
import DistributedComputing.RequestEvents

/-!
# Runs of the master

The master takes complete requests and passes of its maintenance thread one after
another.  On a database that does not fail each of them is a list of ledger events, and
which ones is known from the request.
-/

namespace DistributedComputing

open TransitionRuns ControlService

/-- A complete request, or a pass of the maintenance thread. -/
inductive MasterStep
  | request (schedule : Schedule) (request : Request)
  | sweep (attempts : List Attempt)

/-- The tables after a step. -/
def masterStep (deployment : Deployment) (config : MasterConfig) (store : Store) :
    MasterStep → Store
  | .request schedule request =>
      (ControlService.handle config deployment.broker schedule request store).2
  | .sweep attempts => maintenance deployment.broker attempts config.offlineAfterSec store

/-- No database call of the step fails. -/
def MasterStep.Healthy (deployment : Deployment) : MasterStep → Prop
  | .request schedule (.updateTaskStatus _ _) =>
      deployment.Healthy schedule.first ∧ deployment.Healthy schedule.second
  | .request schedule _ => deployment.Healthy schedule.first
  | .sweep attempts => deployment.Healthy attempts

/-- A request at the given time in which nothing fails. -/
def MasterStep.calm (deployment : Deployment) (now : Time) (request : Request) : MasterStep :=
  .request ⟨[deployment.calmAttempt now], [deployment.calmAttempt now]⟩ request

def MasterStep.calmSweep (deployment : Deployment) (now : Time) : MasterStep :=
  .sweep [deployment.calmAttempt now]

theorem MasterStep.healthy_calm (deployment : Deployment) (now : Time) (request : Request) :
    (calm deployment now request).Healthy deployment := by
  have healthy := deployment.healthy_calmAttempt now
  cases request with
  | updateTaskStatus taskIdRaw body => exact ⟨healthy, healthy⟩
  | upsertAgent agentId body => exact healthy
  | agentHeartbeat agentId body => exact healthy
  | pollTasks agentId body => exact healthy
  | createTask body => exact healthy
  | getTask taskIdRaw => exact healthy
  | getAgent agentId => exact healthy
  | listTasks state agentId limit offset => exact healthy
  | listAgents status limit offset => exact healthy
  | cancelTask taskIdRaw => exact healthy

theorem MasterStep.healthy_calmSweep (deployment : Deployment) (now : Time) :
    (calmSweep deployment now).Healthy deployment :=
  deployment.healthy_calmAttempt now

/-- An agent registers, a task arrives, and the agent polls it. -/
def firstPoll (deployment : Deployment) : List MasterStep :=
  [.calm deployment 0 (AgentClient.registerAgent
      { agentId := "agent-1", os := "linux", version := "dev", cpuCores := 4, ramMb := 1024 }),
    .calm deployment 1000 (.createTask (.json (.object [("command", .string "true")]))),
    .calm deployment 2000 (AgentClient.pollTasks "agent-1" 1)]

theorem healthy_firstPoll (deployment : Deployment) :
    ∀ step ∈ firstPoll deployment, step.Healthy deployment := by
  simp [firstPoll, MasterStep.healthy_calm]

/-- The events that a step may amount to. -/
def StepEvents (store : Store) : MasterStep → List BrokerEvent → Prop
  | .request _ (.upsertAgent agentId _), events => events = [.setStatus agentId .idle]
  | .request _ (.agentHeartbeat agentId body), events => ∃ heartbeat,
      parseBody (Api.parseAgentHeartbeat agentId) body = .ok heartbeat ∧
        store.agent agentId ≠ none ∧ events = [.setStatus agentId heartbeat.status]
  | .request _ (.pollTasks agentId _), events => ∃ freeSlots dispatches,
      store.agent agentId ≠ none ∧ events = pollEvents agentId freeSlots dispatches
  | .request _ (.createTask _), events => ∃ taskId, events = [.create taskId]
  | .request _ (.updateTaskStatus taskIdRaw body), events => ∃ taskId update,
      Api.parseTaskId taskIdRaw = some taskId ∧
        parseBody Api.parseTaskStatusUpdate body = .ok update ∧
        events = [.report taskId update.state update.exitCode]
  | .request _ (.cancelTask taskIdRaw), events => ∃ taskId,
      Api.parseTaskId taskIdRaw = some taskId ∧ events = [.cancel taskId]
  | .request _ (.getTask _), _ => False
  | .request _ (.getAgent _), _ => False
  | .request _ (.listTasks _ _ _ _), _ => False
  | .request _ (.listAgents _ _ _), _ => False
  | .sweep _, events => ∃ agentIds : List String, events = agentIds.map .expire

/-- A step with a report among its events is a status report, and has no other event. -/
theorem StepEvents.of_report {store : Store} {step : MasterStep} {events : List BrokerEvent}
    (shape : StepEvents store step events) {taskId : Int} {state : TaskState}
    {exitCode : Option Int} (reported : .report taskId state exitCode ∈ events) :
    ∃ schedule taskIdRaw body update,
      step = .request schedule (.updateTaskStatus taskIdRaw body) ∧
        Api.parseTaskId taskIdRaw = some taskId ∧
        parseBody Api.parseTaskStatusUpdate body = .ok update ∧ update.state = state ∧
        events = [.report taskId state exitCode] := by
  cases step with
  | sweep attempts =>
      obtain ⟨agentIds, rfl⟩ := shape
      simp at reported
  | request schedule request =>
      cases request with
      | upsertAgent agentId body =>
          cases shape
          simp at reported
      | agentHeartbeat agentId body =>
          obtain ⟨heartbeat, _, _, rfl⟩ := shape
          simp at reported
      | pollTasks agentId body =>
          obtain ⟨freeSlots, dispatches, _, rfl⟩ := shape
          exact absurd reported (pollEvents_noReport _ _ _)
      | createTask body =>
          obtain ⟨other, rfl⟩ := shape
          simp at reported
      | getTask taskIdRaw => cases shape
      | getAgent agentId => cases shape
      | listTasks state agentId limit offset => cases shape
      | listAgents status limit offset => cases shape
      | cancelTask taskIdRaw =>
          obtain ⟨other, _, rfl⟩ := shape
          simp at reported
      | updateTaskStatus taskIdRaw body =>
          obtain ⟨other, update, parsedId, parsed, rfl⟩ := shape
          have same := List.mem_singleton.mp reported
          injection same with sameTask sameState sameExitCode
          subst sameTask sameState sameExitCode
          exact ⟨schedule, taskIdRaw, body, update, rfl, parsedId, parsed, rfl, rfl⟩

section Explanations

variable {deployment : Deployment} (config : MasterConfig) (store : Store)

/-- A complete status report changes nothing, or passes the check and is written. -/
theorem handleUpdateTaskStatus_events {readAttempts writeAttempts : List Attempt}
    (readHealthy : deployment.Healthy readAttempts)
    (writeHealthy : deployment.Healthy writeAttempts) (taskIdRaw : String) (body : Body) :
    (handleUpdateTaskStatus deployment.broker readAttempts writeAttempts taskIdRaw body
        store).2 = store ∨
      ∃ taskId update before, Api.parseTaskId taskIdRaw = some taskId ∧
        parseBody Api.parseTaskStatusUpdate body = .ok update ∧
        store.ledger.state taskId = some before ∧
        Api.isValidTaskStateTransition before update.state = true ∧
        Explains [.report taskId update.state update.exitCode] store
          (handleUpdateTaskStatus deployment.broker readAttempts writeAttempts taskIdRaw body
            store).2 := by
  unfold handleUpdateTaskStatus
  rw [checkStatusUpdate_eq readHealthy]
  cases parsedId : Api.parseTaskId taskIdRaw with
  | none => exact .inl rfl
  | some taskId =>
      cases parsed : parseBody Api.parseTaskStatusUpdate body with
      | error response => exact .inl rfl
      | ok update =>
          cases held : store.ledger.state taskId with
          | none =>
              simp only [held]
              exact .inl trivial
          | some before =>
              by_cases valid : Api.isValidTaskStateTransition before update.state = true
              · simp only [held, if_pos valid]
                rcases writeStatusUpdate_events writeHealthy store taskId update with
                  ⟨same, _⟩ | ⟨_, explains⟩
                · exact .inl same
                · exact .inr ⟨taskId, update, before, rfl, rfl, held, valid, explains⟩
              · simp only [held, if_neg valid]
                exact .inl trivial

/-- What a step does is explained by enabled events that fit its request. -/
theorem masterStep_explained {step : MasterStep} (healthy : step.Healthy deployment) :
    ∃ events, (events = [] ∨ StepEvents store step events) ∧
      Along Ledger.step Ledger.Enabled store.ledger events ∧
      Explains events store (masterStep deployment config store step) := by
  cases step with
  | sweep attempts =>
      obtain ⟨attempt, _, explains⟩ := maintenance_events healthy store config.offlineAfterSec
      exact ⟨_, .inr ⟨_, rfl⟩, explains.enabled (by simp), explains⟩
  | request schedule request =>
      cases request with
      | upsertAgent agentId body =>
          obtain ⟨events, shape, explains⟩ :=
            handleUpsertAgent_events healthy store config.heartbeatIntervalSec agentId body
          refine ⟨events, shape, explains.enabled ?_, explains⟩
          rcases shape with rfl | rfl <;> simp
      | agentHeartbeat agentId body =>
          obtain ⟨events, shape, explains⟩ :=
            handleAgentHeartbeat_events healthy store agentId body
          refine ⟨events, shape, explains.enabled ?_, explains⟩
          rcases shape with rfl | ⟨heartbeat, _, _, rfl⟩ <;> simp
      | pollTasks agentId body =>
          rcases handlePollTasks_events healthy store agentId body with
            ⟨same, _⟩ | ⟨freeSlots, dispatches, _, registered, _, explains⟩
          · exact ⟨[], .inl rfl, trivial, .quiet (congrArg Store.ledger same)⟩
          · exact ⟨_, .inr ⟨freeSlots, dispatches, registered, rfl⟩,
              explains.enabled pollEvents_noReport, explains⟩
      | createTask body =>
          obtain ⟨events, shape, explains⟩ := handleCreateTask_events healthy store body
          refine ⟨events, shape.imp_right ?_, explains.enabled ?_, explains⟩
          · rintro ⟨taskId, _, rfl⟩
            exact ⟨taskId, rfl⟩
          · rcases shape with rfl | ⟨taskId, _, rfl⟩ <;> simp
      | getTask taskIdRaw =>
          exact ⟨[], .inl rfl, trivial,
            .quiet (congrArg Store.ledger (handleGetTask_store healthy store taskIdRaw))⟩
      | getAgent agentId =>
          exact ⟨[], .inl rfl, trivial,
            .quiet (congrArg Store.ledger (handleGetAgent_store healthy store agentId))⟩
      | listTasks state agentId limit offset =>
          exact ⟨[], .inl rfl, trivial, .quiet (congrArg Store.ledger
            (handleListTasks_store deployment schedule.first store state agentId limit offset))⟩
      | listAgents status limit offset =>
          exact ⟨[], .inl rfl, trivial, .quiet (congrArg Store.ledger
            (handleListAgents_store deployment schedule.first store status limit offset))⟩
      | updateTaskStatus taskIdRaw body =>
          rcases handleUpdateTaskStatus_events store healthy.1 healthy.2 taskIdRaw body with
            same | ⟨taskId, update, before, parsedId, parsed, held, valid, explains⟩
          · exact ⟨[], .inl rfl, trivial, .quiet (congrArg Store.ledger same)⟩
          · refine ⟨_, .inr ⟨taskId, update, parsedId, parsed, rfl⟩, ?_, explains⟩
            exact ⟨⟨before, held, valid⟩, trivial⟩
      | cancelTask taskIdRaw =>
          obtain ⟨events, shape, explains⟩ := handleCancelTask_events healthy store taskIdRaw
          refine ⟨events, shape, explains.enabled ?_, explains⟩
          rcases shape with rfl | ⟨taskId, _, rfl⟩ <;> simp

/-- What enabled events preserve of the ledger, every healthy run preserves. -/
theorem masterRun_invariant {holds : Ledger Int String → Prop}
    (preserved : ∀ ledger event, ledger.Enabled event → holds ledger →
      holds (ledger.step event))
    {steps : List MasterStep} (healthy : ∀ step ∈ steps, step.Healthy deployment)
    (initially : holds store.ledger) :
    holds (run (masterStep deployment config) store steps).ledger := by
  have stepKeeps : ∀ (before : Store) (step : MasterStep), step.Healthy deployment →
      holds before.ledger → holds (masterStep deployment config before step).ledger := by
    intro before step isHealthy held
    obtain ⟨events, _, enabled, explains⟩ := masterStep_explained config before isHealthy
    rw [explains.ledger_eq]
    exact run_invariant_along Ledger.step preserved held enabled
  exact run_invariant_along (masterStep deployment config) stepKeeps initially
    (along_of_forall _ healthy store)

end Explanations

end DistributedComputing
