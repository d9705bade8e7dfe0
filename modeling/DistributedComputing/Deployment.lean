import DistributedComputing.ControlService
import DistributedComputing.PgBrokerEvents
import DistributedComputing.MongoBrokerEvents

/-!
# Deployments whose database does not fail

A deployment is a backend together with what its database offers.  On a healthy
schedule, that is, one in which no database call fails, every operation of every
deployment meets the same specification.
-/

namespace DistributedComputing

/-- PostgreSQL with its timestamp conversion, or MongoDB with or without transactions. -/
inductive Deployment
  | pgsql (timestamptz : Time → String → Option Time)
  | mongo
  | mongoStandalone

namespace Deployment

def broker : Deployment → Broker
  | pgsql timestamptz => pgBroker timestamptz
  | mongo => mongoBroker
  | mongoStandalone => mongoBroker

/-- No database call of the attempt fails. -/
def HealthyAttempt : Deployment → Attempt → Prop
  | pgsql _, attempt => attempt.transaction = some .none
  | mongo, attempt => attempt.transaction = some .none ∧ attempt.raisingCall = none
  | mongoStandalone, attempt => attempt.transaction = none ∧ attempt.raisingCall = none

/-- No database call of an operation fails.  The configuration asks for at least one
attempt. -/
structure Healthy (deployment : Deployment) (attempts : List Attempt) : Prop where
  nonempty : attempts ≠ []
  attempt : ∀ attempt ∈ attempts, deployment.HealthyAttempt attempt

/-- An attempt in which nothing fails, at the given time. -/
def calmAttempt (deployment : Deployment) (now : Time) : Attempt where
  now := now
  transaction := match deployment with
    | pgsql _ => some .none
    | mongo => some .none
    | mongoStandalone => none

theorem healthy_calmAttempt (deployment : Deployment) (now : Time) :
    deployment.Healthy [deployment.calmAttempt now] := by
  refine ⟨by simp, ?_⟩
  intro attempt member
  rw [List.mem_singleton] at member
  subst member
  cases deployment <;> simp [HealthyAttempt, calmAttempt]

variable {deployment : Deployment} {attempts : List Attempt}

theorem Healthy.faultFree_mongo (healthy : mongo.Healthy attempts) :
    ∀ attempt ∈ attempts, MongoBroker.FaultFree attempt := fun attempt member =>
  ⟨.inl (healthy.attempt attempt member).1, (healthy.attempt attempt member).2⟩

theorem Healthy.faultFree_mongoStandalone (healthy : mongoStandalone.Healthy attempts) :
    ∀ attempt ∈ attempts, MongoBroker.FaultFree attempt := fun attempt member =>
  ⟨.inr (healthy.attempt attempt member).1, (healthy.attempt attempt member).2⟩

/-- Which broker runs, and what the schedule means for it. -/
theorem Healthy.backend (healthy : deployment.Healthy attempts) :
    (∃ timestamptz, deployment.broker = pgBroker timestamptz ∧
        ∀ attempt ∈ attempts, attempt.transaction = some .none) ∨
      (deployment.broker = mongoBroker ∧
        ∀ attempt ∈ attempts, MongoBroker.FaultFree attempt) := by
  cases deployment with
  | pgsql timestamptz => exact .inl ⟨timestamptz, rfl, healthy.attempt⟩
  | mongo => exact .inr ⟨rfl, healthy.faultFree_mongo⟩
  | mongoStandalone => exact .inr ⟨rfl, healthy.faultFree_mongoStandalone⟩

section Reads

variable (deployment) (attempts) (store : Store)

theorem listAgents_store (status : Option AgentStatus) (limit offset : Int) :
    (deployment.broker.listAgents attempts status limit offset store).2 = store := by
  cases deployment with
  | pgsql timestamptz =>
      refine PgBroker.reads_store attempts ?_ store
      intro attempt before result after committed
      obtain ⟨rows, _, ended⟩ := exists_of_bind_eq_ok committed
      cases ended
  | mongo => exact MongoBroker.listAgents_store attempts status limit offset store
  | mongoStandalone => exact MongoBroker.listAgents_store attempts status limit offset store

theorem listTasks_store (state : Option TaskState) (agentId : Option String)
    (limit offset : Int) :
    (deployment.broker.listTasks attempts state agentId limit offset store).2 = store := by
  cases deployment with
  | pgsql timestamptz =>
      refine PgBroker.reads_store attempts ?_ store
      intro attempt before result after committed
      obtain ⟨rows, _, ended⟩ := exists_of_bind_eq_ok committed
      cases ended
  | mongo => exact MongoBroker.listTasks_store attempts state agentId limit offset store
  | mongoStandalone => exact MongoBroker.listTasks_store attempts state agentId limit offset store

theorem getTask_store (taskId : Int) :
    (deployment.broker.getTask attempts taskId store).2 = store := by
  cases deployment with
  | pgsql timestamptz => exact PgBroker.reads_store attempts (fun _ _ _ _ => by simp) store
  | mongo => exact MongoBroker.getTask_store attempts taskId store
  | mongoStandalone => exact MongoBroker.getTask_store attempts taskId store

theorem getAgent_store (agentId : String) :
    (deployment.broker.getAgent attempts agentId store).2 = store := by
  cases deployment with
  | pgsql timestamptz => exact PgBroker.reads_store attempts (fun _ _ _ _ => by simp) store
  | mongo => exact MongoBroker.getAgent_store attempts agentId store
  | mongoStandalone => exact MongoBroker.getAgent_store attempts agentId store

end Reads

section Specs

variable (healthy : deployment.Healthy attempts) (store : Store)

include healthy

theorem upsertAgent_spec (agent : AgentInput) :
    UpsertSpec agent.agentId store (deployment.broker.upsertAgent attempts agent store) := by
  rcases healthy.backend with ⟨_, isPg, faultFree⟩ | ⟨isMongo, faultFree⟩
  · rw [isPg]
    exact PgBroker.upsertAgent_spec healthy.nonempty faultFree agent store
  · rw [isMongo]
    exact MongoBroker.upsertAgent_spec healthy.nonempty faultFree agent store

theorem updateHeartbeat_spec (heartbeat : AgentHeartbeat) :
    HeartbeatSpec heartbeat store (deployment.broker.updateHeartbeat attempts heartbeat store) := by
  rcases healthy.backend with ⟨_, isPg, faultFree⟩ | ⟨isMongo, faultFree⟩
  · rw [isPg]
    exact PgBroker.updateHeartbeat_spec healthy.nonempty faultFree heartbeat store
  · rw [isMongo]
    exact MongoBroker.updateHeartbeat_spec healthy.nonempty faultFree heartbeat store

theorem getAgent_spec (agentId : String) :
    GetAgentSpec store (deployment.broker.getAgent attempts agentId store) := by
  rcases healthy.backend with ⟨_, isPg, faultFree⟩ | ⟨isMongo, faultFree⟩
  · rw [isPg]
    exact PgBroker.getAgent_spec healthy.nonempty faultFree agentId store
  · rw [isMongo]
    exact MongoBroker.getAgent_spec healthy.nonempty faultFree agentId store

theorem createTask_spec (task : TaskInput) :
    CreateSpec store (deployment.broker.createTask attempts task store) := by
  rcases healthy.backend with ⟨_, isPg, faultFree⟩ | ⟨isMongo, faultFree⟩
  · rw [isPg]
    exact PgBroker.createTask_spec healthy.nonempty faultFree task store
  · rw [isMongo]
    exact MongoBroker.createTask_spec healthy.nonempty faultFree task store

theorem getTask_spec (taskId : Int) :
    GetTaskSpec taskId store (deployment.broker.getTask attempts taskId store) := by
  rcases healthy.backend with ⟨_, isPg, faultFree⟩ | ⟨isMongo, faultFree⟩
  · rw [isPg]
    exact PgBroker.getTask_spec healthy.nonempty faultFree taskId store
  · rw [isMongo]
    exact MongoBroker.getTask_spec healthy.nonempty faultFree taskId store

theorem pollTasksForAgent_spec (agentId : String) (freeSlots : Int) :
    PollSpec agentId freeSlots store
      (deployment.broker.pollTasksForAgent attempts agentId freeSlots store) := by
  rcases healthy.backend with ⟨_, isPg, faultFree⟩ | ⟨isMongo, faultFree⟩
  · rw [isPg]
    exact PgBroker.pollTasksForAgent_spec healthy.nonempty faultFree agentId freeSlots store
  · rw [isMongo]
    exact MongoBroker.pollTasksForAgent_spec healthy.nonempty faultFree agentId freeSlots store

theorem updateTaskStatus_spec (taskId : Int) (update : TaskStatusUpdate) :
    UpdateSpec taskId update store
      (deployment.broker.updateTaskStatus attempts taskId update store) := by
  rcases healthy.backend with ⟨_, isPg, faultFree⟩ | ⟨isMongo, faultFree⟩
  · rw [isPg]
    exact PgBroker.updateTaskStatus_spec healthy.nonempty faultFree _ taskId update store
  · rw [isMongo]
    exact (MongoBroker.updateTaskStatus_spec healthy.nonempty faultFree taskId update store).1

theorem cancelTask_spec (taskId : Int) :
    CancelSpec taskId store (deployment.broker.cancelTask attempts taskId store) := by
  rcases healthy.backend with ⟨_, isPg, faultFree⟩ | ⟨isMongo, faultFree⟩
  · rw [isPg]
    exact PgBroker.cancelTask_spec healthy.nonempty faultFree taskId store
  · rw [isMongo]
    exact MongoBroker.cancelTask_spec healthy.nonempty faultFree taskId store

theorem markOfflineAgentsAndRequeue_spec (offlineAfterSec : Int) :
    ∃ attempt ∈ attempts, SweepSpec attempt.now offlineAfterSec store
      (deployment.broker.markOfflineAgentsAndRequeue attempts offlineAfterSec store) := by
  rcases healthy.backend with ⟨_, isPg, faultFree⟩ | ⟨isMongo, faultFree⟩
  · rw [isPg]
    exact PgBroker.markOfflineAgentsAndRequeue_spec healthy.nonempty faultFree offlineAfterSec store
  · rw [isMongo]
    exact MongoBroker.markOfflineAgentsAndRequeue_spec healthy.nonempty faultFree offlineAfterSec
      store

end Specs

end Deployment

end DistributedComputing
