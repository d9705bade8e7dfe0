import DistributedComputing.MasterRuns
import DistributedComputing.ThreadPool
import DistributedComputing.WorkerApp

/-!
# Workers and their master

Any number of workers tick against one master, one call at a time in any order, while
clients send requests and the maintenance thread sweeps.  Each worker keeps a record of
what it exchanged with the master and of the processes it started.
-/

namespace DistributedComputing

open TransitionRuns

/-- How far a request of a worker gets. -/
inductive Transport
  | delivered
  | answerLost
  | requestLost

/-- What the surroundings of a worker contribute to one of its calls. -/
structure Surroundings where
  schedule : Schedule := ⟨[], []⟩
  transport : Transport := .delivered
  clock : Time := 0
  steadyClock : Int := 0
  child : Option ChildProcess := none
  log : LogFile := ⟨.ok 0, some []⟩
  uploadAnswer : Option UploadAnswer := some (200, "")

/-- What a worker did: a request with what it saw of the answer, or a `fork`. -/
inductive WorkerDeed
  | exchange (request : Request) (answer : Option Response)
  | launch (taskId : String)

/-- The tables of the master and, by agent id, the deeds of the workers. -/
structure Fleet where
  store : Store
  deeds : String → List WorkerDeed := fun _ => []

namespace Fleet

def record (fleet : Fleet) (agentId : String) (deed : WorkerDeed) : Fleet :=
  { fleet with
    deeds := Function.update fleet.deeds agentId (fleet.deeds agentId ++ [deed]) }

@[simp]
theorem record_store (fleet : Fleet) (agentId : String) (deed : WorkerDeed) :
    (fleet.record agentId deed).store = fleet.store :=
  rfl

@[simp]
theorem record_deeds_self (fleet : Fleet) (agentId : String) (deed : WorkerDeed) :
    (fleet.record agentId deed).deeds agentId = fleet.deeds agentId ++ [deed] := by
  simp [record]

theorem record_deeds_of_ne (fleet : Fleet) {agentId other : String} (different : other ≠ agentId)
    (deed : WorkerDeed) : (fleet.record agentId deed).deeds other = fleet.deeds other := by
  simp [record, different]

variable (deployment : Deployment) (config : MasterConfig)

/-- A request on its way to the master and back. -/
def send (surroundings : Surroundings) (request : Request) (store : Store) :
    Option Response × Store :=
  let handled :=
    ControlService.handle config deployment.broker surroundings.schedule request store
  match surroundings.transport with
  | .delivered => (some handled.1, handled.2)
  | .answerLost => (none, handled.2)
  | .requestLost => (none, store)

def exec (agentId : String) (surroundings : Surroundings) :
    (call : WorkerCall) → Fleet → Except Empty call.Reply × Fleet
  | .send request, fleet =>
      let sent := send deployment config surroundings request fleet.store
      (.ok sent.1,
        ({ fleet with store := sent.2 } : Fleet).record agentId (.exchange request sent.1))
  | .uploadTaskLog _ _ _, fleet => (.ok surroundings.uploadAnswer, fleet)
  | .nowUtcIso8601, fleet => (.ok (IsoTime.isoUtc surroundings.clock), fleet)
  | .steadyClock, fleet => (.ok surroundings.steadyClock, fleet)
  | .fork taskId _ _ _ _, fleet =>
      (.ok surroundings.child, fleet.record agentId (.launch taskId))
  | .readLog _, fleet => (.ok surroundings.log, fleet)

/-- A request is lost, or is a step of the master. -/
theorem send_store (surroundings : Surroundings) (request : Request) (store : Store) :
    (send deployment config surroundings request store).2 = store ∨
      (send deployment config surroundings request store).2 =
        masterStep deployment config store (.request surroundings.schedule request) := by
  unfold send
  cases surroundings.transport with
  | delivered => exact .inr rfl
  | answerLost => exact .inr rfl
  | requestLost => exact .inl rfl

/-- An answer that arrives is the master's. -/
theorem send_of_answer {surroundings : Surroundings} {request : Request} {store : Store}
    {response : Response}
    (answered : (send deployment config surroundings request store).1 = some response) :
    send deployment config surroundings request store =
      (some (ControlService.handle config deployment.broker surroundings.schedule request store).1,
        (ControlService.handle config deployment.broker surroundings.schedule request store).2) := by
  unfold send at answered ⊢
  cases transport : surroundings.transport with
  | delivered => rfl
  | answerLost => simp [transport] at answered
  | requestLost => simp [transport] at answered

theorem exec_extends (agentId : String) (surroundings : Surroundings) (call : WorkerCall)
    (fleet : Fleet) :
    fleet.deeds agentId <+: (exec deployment config agentId surroundings call fleet).2.deeds
      agentId := by
  cases call with
  | send request => exact ⟨_, (record_deeds_self _ agentId _).symm⟩
  | fork taskId argv env stdoutPath stderrPath =>
      exact ⟨_, (record_deeds_self fleet agentId _).symm⟩
  | uploadTaskLog taskId stream data => exact List.prefix_rfl
  | nowUtcIso8601 => exact List.prefix_rfl
  | steadyClock => exact List.prefix_rfl
  | readLog path => exact List.prefix_rfl

theorem exec_others (agentId : String) (surroundings : Surroundings) (call : WorkerCall)
    (fleet : Fleet) (other : String) (different : other ≠ agentId) :
    (exec deployment config agentId surroundings call fleet).2.deeds other =
      fleet.deeds other := by
  cases call with
  | send request => exact record_deeds_of_ne _ different _
  | fork taskId argv env stdoutPath stderrPath => exact record_deeds_of_ne fleet different _
  | uploadTaskLog taskId stream data => rfl
  | nowUtcIso8601 => rfl
  | steadyClock => rfl
  | readLog path => rfl

end Fleet

section System

variable (deployment : Deployment) (config : MasterConfig)

/-- What workers share.  What happens besides their calls are requests of others and
sweeps. -/
def fleetService : Service String WorkerCall WorkerCall.Reply Empty Fleet Surroundings Empty
    MasterStep where
  exec := Fleet.exec deployment config
  touch _ part := part.elim
  external step fleet := { fleet with store := masterStep deployment config fleet.store step }

/-- What a tick leaves behind: the tasks it handled and their exit codes. -/
abbrev TickResult := List (AgentClient.TaskDispatch × Int)

abbrev FleetPool :=
  ThreadPool String WorkerCall WorkerCall.Reply Empty Fleet TickResult

/-- One step of the system.  A worker starts `Run` once or `TickOnce` any number of times;
its thread is named by its agent id, so two workers never share one. -/
inductive FleetStep
  | run (config : WorkerConfig)
  | tickOnce (config : WorkerConfig)
  | call (agentId : String) (surroundings : Surroundings)
  | master (step : MasterStep)

def FleetStep.action : FleetStep →
    PoolAction String WorkerCall WorkerCall.Reply Empty Surroundings Empty MasterStep TickResult
  | .run config => .start config.agentId (WorkerApp.run config)
  | .tickOnce config => .start config.agentId (WorkerApp.tickOnce config)
  | .call agentId surroundings => .call agentId surroundings
  | .master step => .external step

def fleetStep (pool : FleetPool) (step : FleetStep) : FleetPool :=
  ThreadPool.step (fleetService deployment config) pool step.action

/-- The system after some steps from empty tables. -/
def fleetRun (steps : List FleetStep) : FleetPool :=
  run (fleetStep deployment config) (ThreadPool.idle { store := Store.empty }) steps

end System

/-- No database call behind the request fails. -/
def Surroundings.Healthy (deployment : Deployment) (surroundings : Surroundings) : Prop :=
  deployment.Healthy surroundings.schedule.first ∧ deployment.Healthy surroundings.schedule.second

def FleetStep.Healthy (deployment : Deployment) : FleetStep → Prop
  | .run _ => True
  | .tickOnce _ => True
  | .call _ surroundings => surroundings.Healthy deployment
  | .master step => step.Healthy deployment

/-- Surroundings at the given time in which nothing fails. -/
def Surroundings.calm (deployment : Deployment) (now : Time) : Surroundings where
  schedule := ⟨[deployment.calmAttempt now], [deployment.calmAttempt now]⟩
  clock := now
  child := some { waits := [.running], status := .success }

theorem Surroundings.healthy_calm (deployment : Deployment) (now : Time) :
    (calm deployment now).Healthy deployment :=
  ⟨deployment.healthy_calmAttempt now, deployment.healthy_calmAttempt now⟩

/-- A worker makes some calls at the given time. -/
def callsAt (deployment : Deployment) (agentId : String) (count : Nat) (now : Time) :
    List FleetStep :=
  List.replicate count (.call agentId (.calm deployment now))

/-- A worker has run a task and is about to report that it succeeded. -/
def aboutToReport (deployment : Deployment) : List FleetStep :=
  .master (.calm deployment 0 (.createTask (.json (.object [("command", .string "true")])))) ::
    .run { agentId := "agent-1", uploadLogs := false } ::
      callsAt deployment "agent-1" 12 1000

/-- PostgreSQL with a conversion that reads the texts that workers send. -/
def isoPgsql : Deployment :=
  .pgsql fun _ text => IsoTime.parseIsoUtc IsoTime.readFields text

namespace WorkerDeed

/-- The tasks that the polls among the deeds brought. -/
def received : List WorkerDeed → List AgentClient.TaskDispatch
  | [] => []
  | .exchange (.pollTasks _ _) answer :: deeds =>
      (AgentClient.receivedTasks answer).getD [] ++ received deeds
  | _ :: deeds => received deeds

theorem received_append (first second : List WorkerDeed) :
    received (first ++ second) = received first ++ received second := by
  induction first with
  | nil => rfl
  | cons deed deeds ih =>
      rcases deed with ⟨request, answer⟩ | taskId
      · cases request <;> simp [received, ih]
      · simp [received, ih]

theorem received_poll (agentId : String) (freeSlots : Int) (answer : Option Response) :
    received [.exchange (AgentClient.pollTasks agentId freeSlots) answer] =
      (AgentClient.receivedTasks answer).getD [] :=
  List.append_nil _

end WorkerDeed

/-! ## Requests of workers as steps of the master -/

section Sends

variable {deployment : Deployment} {surroundings : Surroundings}

theorem Surroundings.Healthy.request (healthy : surroundings.Healthy deployment)
    (request : Request) :
    (MasterStep.request surroundings.schedule request).Healthy deployment := by
  cases request with
  | updateTaskStatus taskIdRaw body => exact healthy
  | upsertAgent agentId body => exact healthy.1
  | agentHeartbeat agentId body => exact healthy.1
  | pollTasks agentId body => exact healthy.1
  | createTask body => exact healthy.1
  | getTask taskIdRaw => exact healthy.1
  | getAgent agentId => exact healthy.1
  | listTasks state agentId limit offset => exact healthy.1
  | listAgents status limit offset => exact healthy.1
  | cancelTask taskIdRaw => exact healthy.1

/-- A worker that reads tasks in the answer to a poll reads those that the poll claimed. -/
theorem handlePollTasks_received {attempts : List Attempt} (healthy : deployment.Healthy attempts)
    (store : Store) (agentId : String) (body : Body) {tasks : List AgentClient.TaskDispatch}
    (received : AgentClient.receivedTasks (some (ControlService.handlePollTasks deployment.broker
      attempts agentId body store).1) = some tasks) :
    ∃ freeSlots dispatches, (freeSlots ≤ 0 → dispatches = []) ∧
      tasks.map AgentClient.TaskDispatch.taskId =
        dispatches.map (fun dispatch => toString dispatch.taskId) ∧
      Explains (pollEvents agentId freeSlots dispatches) store
        (ControlService.handlePollTasks deployment.broker attempts agentId body store).2 := by
  rcases ControlService.handlePollTasks_events healthy store agentId body with
    ⟨_, refused⟩ | ⟨freeSlots, dispatches, answered, _, noSlots, explains⟩
  · have failed : AgentClient.isSuccess (some (ControlService.handlePollTasks deployment.broker
        attempts agentId body store).1) = false := decide_eq_false refused
    simp [AgentClient.receivedTasks, failed] at received
  · rw [answered, AgentClient.receivedTasks_dispatchesResponse, Option.some_inj] at received
    refine ⟨freeSlots, dispatches, noSlots, ?_, explains⟩
    rw [← received, List.map_map]
    rfl

end Sends

end DistributedComputing
