import DistributedComputing.BrokerLoops

/-!
# Passes of the lists

`ListTasks` and `ListAgents` of either broker: a filter, an order and a page.
-/

namespace DistributedComputing

open MongoCall

namespace Deployment

variable (deployment : Deployment)

/-! ## Where the brokers differ -/

def page {Row : Type} : Deployment → Int → Int → List Row → Except DbError (List Row)
  | pgsql _ => PgBroker.page
  | mongo => MongoCall.page
  | mongoStandalone => MongoCall.page

/-- Whether a list of tasks shows a row.  An empty agent id is a condition on PostgreSQL only. -/
def lists : Deployment → Option TaskState → Option String → TaskRow → Bool
  | pgsql _, state, agentId => fun row =>
      state.all (fun state => decide (row.state = state)) &&
        agentId.all fun agentId => decide (row.assignedAgent = some agentId)
  | mongo, state, agentId => (MongoBroker.listFilter state agentId).matches
  | mongoStandalone, state, agentId => (MongoBroker.listFilter state agentId).matches

/-- The order of agent ids: the collation of the database, or by code points. -/
def idOrder : Deployment → Attempt → String → String → Bool
  | pgsql _, attempt => attempt.collation
  | mongo, _ => fun first second => decide (first ≤ second)
  | mongoStandalone, _ => fun first second => decide (first ≤ second)

/-! ## The passes -/

def listTasksPass (state : Option TaskState) (agentId : Option String) (limit offset : Int)
    (attempt : Attempt) : DbAction (List TaskSummary) := fun store =>
  let chosen := store.tasks.rows.filter (deployment.lists state agentId)
  match deployment.page limit offset (chosen.insertionSort (NewestFirst attempt.rank)) with
  | .error error => (.error error, store)
  | .ok rows => (.ok (rows.map PgBroker.taskSummary), store)

def listAgentsPass (status : Option AgentStatus) (limit offset : Int) (attempt : Attempt) :
    DbAction (List AgentRecord) := fun store =>
  let chosen := store.agents.rows.filter fun row =>
    status.all fun status => decide (row.status = status)
  match deployment.page limit offset (chosen.insertionSort fun first second =>
      deployment.idOrder attempt first.agentId second.agentId) with
  | .error error => (.error error, store)
  | .ok rows => (.ok (rows.map deployment.agentRecord), store)

/-! ## Either broker makes these passes -/

def listTasksLoop (deployment : Deployment) (state : Option TaskState) (agentId : Option String)
    (limit offset : Int) :
    deployment.LoopOf
      (fun attempts => deployment.broker.listTasks attempts state agentId limit offset) []
      (deployment.listTasksPass state agentId limit offset) := by
  have onMongo : ∀ {deployment : Deployment}, deployment.OnMongo →
      deployment.LoopOf
        (fun attempts => MongoBroker.listTasks attempts state agentId limit offset) []
        (deployment.listTasksPass state agentId limit offset) := by
    intro deployment onMongo
    refine LoopOf.single onMongo [] (fun _ _ _ _ => rfl) fun attempt store => ?_
    have isPass : deployment.listTasksPass state agentId limit offset =
        mongo.listTasksPass state agentId limit offset := by
      rcases onMongo.eq_or with rfl | rfl <;> rfl
    rw [isPass, CallProgram.perform_bind, CallProgram.run_call]
    unfold exec listTasksPass page lists
    dsimp only
    generalize MongoCall.page limit offset _ = paged
    cases paged <;> rfl
  have settled : ∀ timestamptz attempt store, TxEnd.settle store
      ((do
        let chosen := store.tasks.rows.filter fun row =>
          state.all (fun state => decide (row.state = state)) &&
            agentId.all fun agentId => decide (row.assignedAgent = some agentId)
        let rows ← PgBroker.page limit offset
          (chosen.insertionSort (NewestFirst attempt.rank))
        return .abort (rows.map PgBroker.taskSummary) :
          Except DbError (TxEnd Store (List TaskSummary)))) =
        (pgsql timestamptz).listTasksPass state agentId limit offset attempt store := by
    intro timestamptz attempt store
    unfold listTasksPass page lists
    simp only [bind, Except.bind]
    split <;> simp_all [TxEnd.settle, pure, Except.pure]
  exact match deployment with
    | pgsql timestamptz => LoopOf.transaction timestamptz [] (settled timestamptz)
    | mongo => onMongo trivial
    | mongoStandalone => onMongo trivial

def listAgentsLoop (deployment : Deployment) (status : Option AgentStatus) (limit offset : Int) :
    deployment.LoopOf
      (fun attempts => deployment.broker.listAgents attempts status limit offset) []
      (deployment.listAgentsPass status limit offset) := by
  have onMongo : ∀ {deployment : Deployment}, deployment.OnMongo →
      deployment.LoopOf
        (fun attempts => MongoBroker.listAgents attempts status limit offset) []
        (deployment.listAgentsPass status limit offset) := by
    intro deployment onMongo
    refine LoopOf.single onMongo [] (fun _ _ _ _ => rfl) fun attempt store => ?_
    have isPass : deployment.listAgentsPass status limit offset =
        mongo.listAgentsPass status limit offset := by
      rcases onMongo.eq_or with rfl | rfl <;> rfl
    rw [isPass, CallProgram.perform_bind, CallProgram.run_call]
    unfold exec listAgentsPass page idOrder agentRecord
    simp only [decide_eq_true_eq]
    generalize MongoCall.page limit offset _ = paged
    cases paged <;> rfl
  have settled : ∀ timestamptz attempt store, TxEnd.settle store
      ((do
        let chosen := store.agents.rows.filter fun row =>
          status.all fun status => decide (row.status = status)
        let rows ← PgBroker.page limit offset
          (chosen.insertionSort fun first second =>
            attempt.collation first.agentId second.agentId)
        return .abort (rows.map PgBroker.agentRecord) :
          Except DbError (TxEnd Store (List AgentRecord)))) =
        (pgsql timestamptz).listAgentsPass status limit offset attempt store := by
    intro timestamptz attempt store
    unfold listAgentsPass page idOrder agentRecord
    simp only [bind, Except.bind]
    split <;> simp_all [TxEnd.settle, pure, Except.pure]
  exact match deployment with
    | pgsql timestamptz => LoopOf.transaction timestamptz [] (settled timestamptz)
    | mongo => onMongo trivial
    | mongoStandalone => onMongo trivial

end Deployment

end DistributedComputing
