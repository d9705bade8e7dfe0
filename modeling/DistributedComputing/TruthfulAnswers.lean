import DistributedComputing.StepCalls
import DistributedComputing.AgentClient

/-!
# What answers promise

A success promises that the write took effect or that the record is the stored one, an
answer of 404 that there is nothing, and a failure of the database is to be answered with
500.  `PgBroker` lets its exceptions pass to the handlers.  `MongoBroker` replaces them by
a default, and most defaults mean something else to the handlers.  What is stored is not
always what was sent: PostgreSQL gets texts up to a NUL, and integers lose all but 32 bits.
-/

namespace DistributedComputing

open ControlService

namespace Deployment

section Outcomes

variable {deployment : Deployment} {Result : Type} {method : List Attempt → DbAction Result}
  {fallback : Result} {pass : Attempt → DbAction Result}

/-- All attempts of the method fail. -/
def LoopOf.Raises (loop : deployment.LoopOf method fallback pass) (attempts : List Attempt)
    (store : Store) : Prop :=
  ∃ error after, executeWithRetry attempts loop.act store = (.error error, after)

/-- A method whose attempts all fail raises on PostgreSQL and returns its default on
MongoDB. -/
theorem LoopOf.Raises.method_eq {loop : deployment.LoopOf method fallback pass}
    {attempts : List Attempt} {store : Store} (raises : loop.Raises attempts store) :
    (deployment.OnMongo ∧ ∃ after, method attempts store = (.ok fallback, after)) ∨
      (¬ deployment.OnMongo ∧ ∃ error after, method attempts store = (.error error, after)) := by
  obtain ⟨error, after, looped⟩ := raises
  have equal := congrFun (loop.method_eq attempts) store
  cases deployment with
  | pgsql timestamptz => exact .inr ⟨id, error, after, equal.trans looped⟩
  | mongo => exact .inl ⟨trivial, after, equal.trans (by simp [caught, MongoBroker.orElse, looped])⟩
  | mongoStandalone =>
      exact .inl ⟨trivial, after, equal.trans (by simp [caught, MongoBroker.orElse, looped])⟩

/-- A method of which an attempt returns is the pass of that attempt. -/
theorem LoopOf.method_eq_of_not_raises (loop : deployment.LoopOf method fallback pass)
    {attempts : List Attempt} {store : Store} (returns : ¬ loop.Raises attempts store) :
    ∃ attempt ∈ attempts, ∃ before result after, pass attempt before = (.ok result, after) ∧
      method attempts store = (.ok result, after) := by
  rcases looped : executeWithRetry attempts loop.act store with ⟨error | result, after⟩
  · exact absurd ⟨error, after, looped⟩ returns
  · have ended : method attempts store = (.ok result, after) := by
      rw [loop.method_eq]
      exact caught_of_ok looped
    obtain ⟨attempt, member, before, passed⟩ :=
      RetryLoop.exists_pass_of_retry _ (fun attempt _ => loop.returnsAs attempt) looped
    exact ⟨attempt, member, before, result, after, passed, ended⟩

end Outcomes

end Deployment

open Deployment

/-- Turn the outcome of a method into an answer, as the handlers do. -/
def respond {Result : Type} (answer : Result → Response) :
    Except DbError Result × Store → Response × Store
  | (.error error, after) => (dbErrorResponse error, after)
  | (.ok result, after) => (answer result, after)

/-- What an answer says holds of the tables that it leaves. -/
structure Truthful (applied : Response → Store → Prop) (absent : Store → Prop) (raises : Prop)
    (outcome : Response × Store) : Prop where
  success : outcome.1.Successful → applied outcome.1 outcome.2
  notFound : outcome.1.status = 404 → absent outcome.2
  failure : raises → outcome.1.status = 500

section Methods

variable {deployment : Deployment} {Result : Type} {method : List Attempt → DbAction Result}
  {fallback : Result} {pass : Attempt → DbAction Result}
  (loop : deployment.LoopOf method fallback pass) {attempts : List Attempt} (store : Store)
  {applied : Response → Store → Prop} {absent : Store → Prop}

/-- A request that is turned down before it comes to the database. -/
theorem Truthful.of_rejected {raises : Prop} {outcome : Response × Store}
    (rejected : 400 ≤ outcome.1.status ∧ outcome.1.status ≠ 404) (quiet : ¬ raises) :
    Truthful applied absent raises outcome where
  success successful := by
    have below := successful.2
    omega
  notFound missing := absurd missing rejected.2
  failure raised := absurd raised quiet

theorem Truthful.of_failed {raises : Prop} {outcome : Response × Store}
    (failed : outcome.1.status = 500) : Truthful applied absent raises outcome where
  success successful := by simp [Response.Successful, failed] at successful
  notFound missing := by simp [failed] at missing
  failure _ := failed

/-- The method returned the result of one of its passes. -/
def Deployment.Passed {Result : Type} (method : List Attempt → DbAction Result)
    (pass : Attempt → DbAction Result) (attempts : List Attempt) (store : Store)
    (attempt : Attempt) (result : Result) (after : Store) : Prop :=
  attempt ∈ attempts ∧ (∃ before, pass attempt before = (.ok result, after)) ∧
    method attempts store = (.ok result, after)

/-- Answers made from what passes return are truthful, except where the default of a method
that fails is taken for a result, and where the pass stores something else. -/
theorem truthful_respond_iff (answer : Result → Response) {altered : Prop}
    (success : ¬ altered → ∀ attempt result after,
      Passed method pass attempts store attempt result after → (answer result).Successful →
        applied (answer result) after)
    (notFound : ∀ attempt result after, Passed method pass attempts store attempt result after →
      (answer result).status = 404 → absent after)
    (mistake : altered → ∀ attempt result after,
      Passed method pass attempts store attempt result after →
        (answer result).Successful ∧ ¬ applied (answer result) after) :
    Truthful applied absent (loop.Raises attempts store)
        (respond answer (method attempts store)) ↔
      ¬ (deployment.OnMongo ∧ (answer fallback).status ≠ 500 ∧ loop.Raises attempts store) ∧
        (altered → loop.Raises attempts store) := by
  constructor
  · intro truthful
    constructor
    · rintro ⟨onMongo, mistaken, raises⟩
      rcases raises.method_eq with ⟨_, after, ended⟩ | ⟨onPg, _⟩
      · have status := truthful.failure raises
        rw [ended] at status
        exact mistaken status
      · exact onPg onMongo
    · intro isAltered
      by_contra returns
      obtain ⟨attempt, member, before, result, after, passed, ended⟩ :=
        loop.method_eq_of_not_raises returns
      have lie := mistake isAltered attempt result after ⟨member, ⟨before, passed⟩, ended⟩
      have told := truthful.success
      rw [ended] at told
      exact lie.2 (told lie.1)
  · rintro ⟨honest, unaltered⟩
    by_cases raises : loop.Raises attempts store
    · have status : (respond answer (method attempts store)).1.status = 500 := by
        rcases raises.method_eq with ⟨onMongo, after, ended⟩ | ⟨_, error, after, ended⟩
        · rw [ended]
          by_contra mistaken
          exact honest ⟨onMongo, mistaken, raises⟩
        · rw [ended]
          rfl
      exact .of_failed status
    · obtain ⟨attempt, member, before, result, after, passed, ended⟩ :=
        loop.method_eq_of_not_raises raises
      have isPassed : Passed method pass attempts store attempt result after :=
        ⟨member, ⟨before, passed⟩, ended⟩
      rw [ended]
      exact
        { success := success (fun isAltered => raises (unaltered isAltered)) attempt result after
            isPassed
          notFound := notFound attempt result after isPassed
          failure := fun raised => absurd raised raises }

/-- The same of a handler that parses its input first. -/
theorem truthful_iff_of_parses {Input : Type} {parses : Input → Prop}
    (unique : ∀ first second, parses first → parses second → first = second)
    {method : Input → List Attempt → DbAction Result} {pass : Input → Attempt → DbAction Result}
    (loop : ∀ input, deployment.LoopOf (method input) fallback (pass input))
    (answer : Input → Result → Response) {outcome : Response × Store} {mistaken : Prop}
    (rejected : (∀ input, ¬ parses input) → outcome.1.status = 400)
    (accepted : ∀ input, parses input →
      outcome = respond (answer input) (method input attempts store))
    (mistakes : ∀ input, (answer input fallback).status ≠ 500 ↔ mistaken)
    {altered : Input → Prop}
    (success : ∀ input, parses input → ¬ altered input → ∀ attempt result after,
      Passed (method input) (pass input) attempts store attempt result after →
        (answer input result).Successful → applied (answer input result) after)
    (notFound : ∀ input, parses input → ∀ attempt result after,
      Passed (method input) (pass input) attempts store attempt result after →
        (answer input result).status = 404 → absent after)
    (mistake : ∀ input, parses input → altered input → ∀ attempt result after,
      Passed (method input) (pass input) attempts store attempt result after →
        (answer input result).Successful ∧ ¬ applied (answer input result) after) :
    Truthful applied absent (∃ input, parses input ∧ (loop input).Raises attempts store)
        outcome ↔
      ¬ (deployment.OnMongo ∧ mistaken ∧
        ∃ input, parses input ∧ (loop input).Raises attempts store) ∧
      ((∃ input, parses input ∧ altered input) →
        ∃ input, parses input ∧ (loop input).Raises attempts store) := by
  by_cases parsed : ∃ input, parses input
  · obtain ⟨input, parsed⟩ := parsed
    have raises : (∃ other, parses other ∧ (loop other).Raises attempts store) ↔
        (loop input).Raises attempts store := by
      refine ⟨?_, fun raises => ⟨input, parsed, raises⟩⟩
      rintro ⟨other, otherParsed, raises⟩
      rwa [unique input other parsed otherParsed]
    have alters : (∃ other, parses other ∧ altered other) ↔ altered input := by
      refine ⟨?_, fun alters => ⟨input, parsed, alters⟩⟩
      rintro ⟨other, otherParsed, alters⟩
      rwa [unique input other parsed otherParsed]
    rw [raises, alters, accepted input parsed, ← mistakes input]
    exact truthful_respond_iff (loop input) store (answer input) (success input parsed)
      (notFound input parsed) (mistake input parsed)
  · have status := rejected (not_exists.mp parsed)
    have quiet : ¬ ∃ input, parses input ∧ (loop input).Raises attempts store := by
      rintro ⟨input, accepts, _⟩
      exact parsed ⟨input, accepts⟩
    refine iff_of_true (.of_rejected (by omega) quiet) ⟨fun falls => quiet falls.2.2, ?_⟩
    rintro ⟨input, accepts, _⟩
    exact absurd ⟨input, accepts⟩ parsed

end Methods

/-! ## Requests -/

/-- The broker as the handlers call it: PostgreSQL gets the ids of agents, too, up to a NUL. -/
def Deployment.service (deployment : Deployment) : Broker :=
  { deployment.broker with
    upsertAgent := fun attempts agent => deployment.broker.upsertAgent attempts
      { agent with agentId := deployment.textParam agent.agentId }
    updateHeartbeat := fun attempts heartbeat => deployment.broker.updateHeartbeat attempts
      { heartbeat with agentId := deployment.textParam heartbeat.agentId }
    getAgent := fun attempts agentId =>
      deployment.broker.getAgent attempts (deployment.textParam agentId)
    listTasks := fun attempts state agentId =>
      deployment.broker.listTasks attempts state (agentId.map deployment.textParam)
    pollTasksForAgent := fun attempts agentId =>
      deployment.broker.pollTasksForAgent attempts (deployment.textParam agentId) }

/-- The ids of the stored agents are such as the database can hold. -/
def Store.Storable (deployment : Deployment) (store : Store) : Prop :=
  ∀ agentId row, store.agent agentId = some row → deployment.textParam agentId = agentId

/-- The row has the fields of the body. -/
structure AgentRow.Shows (row : AgentRow) (json : Json) : Prop where
  os : json.stringMember "os" = some row.os
  version : json.stringMember "version" = some row.version
  cpuCores : (json.objectMember "resources").bind (Json.integerMember "cpu_cores") =
    some row.resourcesCpuCores
  ramMb : (json.objectMember "resources").bind (Json.integerMember "ram_mb") =
    some row.resourcesRamMb
  slots : (json.objectMember "resources").bind (Json.integerMember "slots") =
    some row.resourcesSlots

/-- What a success promises of the tables.  The lists promise nothing here. -/
def Request.Applied (deployment : Deployment) (schedule : Schedule) :
    Request → Response → Store → Prop
  | .upsertAgent agentId body, _, after =>
      ∃ json attempt row, parseJsonBody body = .ok json ∧ attempt ∈ schedule.first ∧
        after.agent agentId = some row ∧ row.Shows json ∧ row.status = .idle ∧
        row.lastHeartbeat = attempt.now
  | .agentHeartbeat agentId body, _, after =>
      ∃ heartbeat attempt row, parseBody (Api.parseAgentHeartbeat agentId) body = .ok heartbeat ∧
        attempt ∈ schedule.first ∧ after.agent agentId = some row ∧
        row.status = heartbeat.status ∧ row.lastHeartbeat = attempt.now
  | .pollTasks agentId _, response, after =>
      ∃ attempt row dispatches, attempt ∈ schedule.first ∧ after.agent agentId = some row ∧
        row.lastHeartbeat = attempt.now ∧ response = dispatchesResponse dispatches ∧
        ∀ dispatch ∈ dispatches, ∃ task, after.task dispatch.taskId = some task ∧
          task.state = .running ∧ task.assignedAgent = some agentId ∧
          deployment.taskDispatch task = dispatch
  | .createTask body, response, after =>
      ∃ task attempt taskId, parseBody Api.parseTaskCreate body = .ok task ∧
        attempt ∈ schedule.first ∧
        response = { status := 201, body := .object [("task_id", .integer taskId)] } ∧
        after.task taskId = some (deployment.newTask attempt.now taskId task)
  | .getTask taskIdRaw, response, after =>
      ∃ taskId row, Api.parseTaskId taskIdRaw = some taskId ∧ after.task taskId = some row ∧
        response =
          { status := 200
            body := .object [("task", Api.taskRecordToJson (deployment.taskRecord row))] }
  | .getAgent agentId, response, after =>
      ∃ row, after.agent agentId = some row ∧
        response =
          { status := 200
            body := .object [("agent", Api.agentRecordToJson (deployment.agentRecord row))] }
  | .updateTaskStatus taskIdRaw body, _, after =>
      ∃ taskId update row, Api.parseTaskId taskIdRaw = some taskId ∧
        parseBody Api.parseTaskStatusUpdate body = .ok update ∧
        after.task taskId = some row ∧ row.state = update.state
  | .cancelTask taskIdRaw, _, after =>
      ∃ taskId row, Api.parseTaskId taskIdRaw = some taskId ∧
        after.task taskId = some row ∧ row.state = .canceled
  | .listTasks _ _ _ _, _, _ => True
  | .listAgents _ _ _, _, _ => True

/-- The agent or the task of the request is not in the tables. -/
def Request.Absent : Request → Store → Prop
  | .upsertAgent _ _, _ => False
  | .agentHeartbeat agentId _, store => store.agent agentId = none
  | .pollTasks agentId _, store => store.agent agentId = none
  | .createTask _, _ => False
  | .getTask taskIdRaw, store =>
      ∃ taskId, Api.parseTaskId taskIdRaw = some taskId ∧ store.task taskId = none
  | .getAgent agentId, store => store.agent agentId = none
  | .updateTaskStatus taskIdRaw _, store =>
      ∃ taskId, Api.parseTaskId taskIdRaw = some taskId ∧ store.task taskId = none
  | .cancelTask taskIdRaw, store =>
      ∃ taskId, Api.parseTaskId taskIdRaw = some taskId ∧ store.task taskId = none
  | .listTasks _ _ _ _, _ => True
  | .listAgents _ _ _, _ => True

/-- The request comes to an operation of the broker of which all attempts fail. -/
def Request.Raises (deployment : Deployment) (schedule : Schedule) (store : Store) :
    Request → Prop
  | .upsertAgent agentId body =>
      ∃ agent, parseBody (Api.parseAgentInput agentId) body = .ok agent ∧
        (deployment.upsertAgentLoop { agent with
          agentId := deployment.textParam agent.agentId }).Raises schedule.first store
  | .agentHeartbeat agentId body =>
      ∃ heartbeat, parseBody (Api.parseAgentHeartbeat agentId) body = .ok heartbeat ∧
        (deployment.updateHeartbeatLoop { heartbeat with
          agentId := deployment.textParam heartbeat.agentId }).Raises schedule.first store
  | .pollTasks agentId body =>
      ∃ freeSlots, parseBody parseFreeSlots body = .ok freeSlots ∧
        (deployment.pollTasksForAgentLoop (deployment.textParam agentId) freeSlots).Raises
          schedule.first store
  | .createTask body =>
      ∃ task, parseBody Api.parseTaskCreate body = .ok task ∧
        (deployment.createTaskLoop task).Raises schedule.first store
  | .getTask taskIdRaw =>
      ∃ taskId, Api.parseTaskId taskIdRaw = some taskId ∧
        (deployment.getTaskLoop taskId).Raises schedule.first store
  | .getAgent agentId =>
      (deployment.getAgentLoop (deployment.textParam agentId)).Raises schedule.first store
  | .updateTaskStatus taskIdRaw body =>
      ∃ taskId update, Api.parseTaskId taskIdRaw = some taskId ∧
        parseBody Api.parseTaskStatusUpdate body = .ok update ∧
        ((deployment.getTaskLoop taskId).Raises schedule.first store ∨
          ∃ row, store.task taskId = some row ∧
            Api.isValidTaskStateTransition row.state update.state = true ∧
            (deployment.updateTaskStatusLoop taskId update).Raises schedule.second store)
  | .cancelTask taskIdRaw =>
      ∃ taskId, Api.parseTaskId taskIdRaw = some taskId ∧
        (deployment.cancelTaskLoop taskId).Raises schedule.first store
  | .listTasks _ _ _ _ => False
  | .listAgents _ _ _ => False

/-- `MongoBroker` turns the failure of the operation into an empty result.  A create and a
cancel have a result that means a failure. -/
def Request.FallsBack : Request → Prop
  | .createTask _ => False
  | .cancelTask _ => False
  | _ => True

namespace Deployment

/-- The database is asked for another agent than the request names, and has it. -/
def FindsOther (deployment : Deployment) (store : Store) (agentId : String) : Prop :=
  deployment.textParam agentId ≠ agentId ∧ store.agent (deployment.textParam agentId) ≠ none

/-- A text of the registration is cut at a NUL, or an integer to 32 bits. -/
def CutsAgent (deployment : Deployment) (agent : AgentInput) (body : Body) : Prop :=
  (∃ text ∈ [agent.agentId, agent.os, agent.version], deployment.textParam text ≠ text) ∨
    ∃ json resources, parseJsonBody body = .ok json ∧
      json.objectMember "resources" = some resources ∧
      ∃ name ∈ ["cpu_cores", "ram_mb", "slots"], ∃ value,
        resources.integerMember name = some value ∧ toInt32 value ≠ value

end Deployment

/-- The operation does not concern what the request says. -/
def Request.Alters (deployment : Deployment) (store : Store) : Request → Prop
  | .upsertAgent agentId body =>
      ∃ agent, parseBody (Api.parseAgentInput agentId) body = .ok agent ∧
        deployment.CutsAgent agent body
  | .agentHeartbeat agentId body =>
      ∃ heartbeat, parseBody (Api.parseAgentHeartbeat agentId) body = .ok heartbeat ∧
        deployment.FindsOther store agentId
  | .pollTasks agentId body =>
      ∃ freeSlots, parseBody parseFreeSlots body = .ok freeSlots ∧
        deployment.FindsOther store agentId
  | .getAgent agentId => deployment.FindsOther store agentId
  | _ => False

/-! ## What passes promise -/

namespace Deployment

section Promises

variable {deployment : Deployment} {attempt : Attempt} {before after : Store}

theorem agent_upsertAgentPass {agent : AgentInput} {stored : Bool}
    (passed : deployment.upsertAgentPass agent attempt before = (.ok stored, after)) :
    after.agent agent.agentId = some
      { agentId := agent.agentId
        os := deployment.textParam agent.os
        version := deployment.textParam agent.version
        resourcesCpuCores := agent.cpuCores
        resourcesRamMb := agent.ramMb
        resourcesSlots := agent.slots
        status := .idle
        lastHeartbeat := attempt.now } := by
  cases passed
  rw [Store.agent_upsertAgent, if_pos rfl]
  cases found : before.agent agent.agentId with
  | none => rfl
  | some old =>
      have key : old.agentId = agent.agentId := KeyedTable.key_of_lookup found
      simp only [key]

theorem agent_updateHeartbeatPass {heartbeat : AgentHeartbeat} {known : Bool}
    (passed : updateHeartbeatPass heartbeat attempt before = (.ok known, after)) :
    (known = false ∧ after.agent heartbeat.agentId = none) ∨
      (known = true ∧ ∃ row, after.agent heartbeat.agentId = some row ∧
        row.status = heartbeat.status ∧ row.lastHeartbeat = attempt.now) := by
  unfold updateHeartbeatPass at passed
  split at passed
  · rename_i absent
    cases passed
    exact .inl ⟨rfl, absent⟩
  · rename_i row found
    cases passed
    exact .inr ⟨rfl, { row with status := heartbeat.status, lastHeartbeat := attempt.now },
      by simp [found], rfl, rfl⟩

theorem taskDispatch_assignedRow (now : Time) (agentId : String) (row : TaskRow) :
    deployment.taskDispatch (assignedRow now agentId row) = deployment.taskDispatch row := by
  cases deployment <;> rfl

theorem agent_foldl_assign (now : Time) (agentId other : String) (taskIds : List Int)
    (store : Store) : (taskIds.foldl (assign now agentId) store).agent other = store.agent other := by
  induction taskIds generalizing store with
  | nil => rfl
  | cons taskId taskIds ih =>
      rw [List.foldl_cons, ih]
      rfl

/-- A poll that knows its agent has stored its time, and the tasks that it returns run for
the agent. -/
theorem pollTasksForAgentPass_promises {agentId : String} {freeSlots : Int}
    {dispatches : Option (List TaskDispatch)}
    (passed : deployment.pollTasksForAgentPass agentId freeSlots attempt before =
      (.ok dispatches, after)) :
    (dispatches = none ∧ after.agent agentId = none) ∨
      ∃ sent row, dispatches = some sent ∧ after.agent agentId = some row ∧
        row.lastHeartbeat = attempt.now ∧
        ∀ dispatch ∈ sent, ∃ task, after.task dispatch.taskId = some task ∧
          task.state = .running ∧ task.assignedAgent = some agentId ∧
          deployment.taskDispatch task = dispatch := by
  unfold pollTasksForAgentPass at passed
  split at passed
  · rename_i absent
    cases passed
    exact .inl ⟨rfl, absent⟩
  · rename_i agent found
    refine .inr ?_
    dsimp only at passed
    split at passed
    · cases passed
      exact ⟨[], { agent with lastHeartbeat := attempt.now }, rfl, by simp [found], rfl, by simp⟩
    · split at passed
      · cases passed
      · rename_i rows selected
        cases passed
        let chosen := oldest attempt.rank freeSlots rows
        let status := if chosen.isEmpty then AgentStatus.idle else .busy
        refine ⟨chosen.map deployment.taskDispatch,
          { agent with lastHeartbeat := attempt.now, status := status }, rfl, ?_, rfl, ?_⟩
        · rw [Store.agent_updateAgent, if_pos rfl, agent_foldl_assign, Store.agent_updateAgent,
            if_pos rfl, found]
          rfl
        · intro dispatch member
          obtain ⟨task, chosen, rfl⟩ := List.mem_map.mp member
          have held : before.task task.taskId = some task :=
            KeyedTable.lookup_of_mem (deployment.mem_of_fitting selected (mem_of_mem_oldest chosen)).1
          refine ⟨assignedRow attempt.now agentId task, ?_, rfl, rfl, taskDispatch_assignedRow ..⟩
          rw [taskId_taskDispatch, Store.task_updateAgent, task_foldl_assign,
            if_pos (List.mem_map_of_mem chosen), Store.task_updateAgent, held]
          rfl

theorem createTaskPass_promises {task : TaskInput} {taskId : Int}
    (passed : deployment.createTaskPass task attempt before = (.ok taskId, after)) :
    0 < taskId ∧ after.task taskId = some (deployment.newTask attempt.now taskId task) := by
  rcases deployment.createTaskPass_cases task attempt before with
    ⟨_, failed⟩ | ⟨created, bounds, fresh, inRange, positive, inserted⟩
  · rw [failed] at passed
    cases passed
  · rw [inserted] at passed
    cases passed
    exact ⟨positive, by simp [taskId_newTask]⟩

theorem updateTaskStatusPass_promises {taskId : Int} {update : TaskStatusUpdate} {known : Bool}
    (passed : deployment.updateTaskStatusPass taskId update attempt before = (.ok known, after)) :
    (known = false ∧ after.task taskId = none) ∨
      (known = true ∧ ∃ row, after.task taskId = some row ∧ row.state = update.state) := by
  unfold updateTaskStatusPass at passed
  split at passed
  · cases passed
  · rename_i times reported
    split at passed
    · rename_i absent
      cases passed
      exact .inl ⟨rfl, absent⟩
    · rename_i row found
      cases passed
      refine .inr ⟨rfl, deployment.reportedRow attempt.now update times row, ?_, rfl⟩
      split <;> simp [closeTask, found]

theorem cancelTaskPass_promises {taskId : Int} {result : CancelTaskResult}
    (passed : cancelTaskPass taskId attempt before = (.ok result, after)) :
    (result = .notFound ∧ after.task taskId = none) ∨ result = .invalidState ∨
      (result = .ok ∧ ∃ row, after.task taskId = some row ∧ row.state = .canceled) := by
  unfold cancelTaskPass at passed
  split at passed
  · rename_i absent
    cases passed
    exact .inl ⟨rfl, absent⟩
  · rename_i row found
    split at passed <;> cases passed
    · exact .inr (.inl rfl)
    · exact .inr (.inr ⟨rfl, canceledRow attempt.now row, by simp [closeTask, found], rfl⟩)

end Promises

/-! ## The ids of agents -/

section Agents

@[simp]
theorem textParam_textParam (deployment : Deployment) (text : String) :
    deployment.textParam (deployment.textParam text) = deployment.textParam text := by
  cases deployment with
  | pgsql timestamptz =>
      simp [textParam, PgBroker.textParam, List.takeWhile_takeWhile]
  | mongo => rfl
  | mongoStandalone => rfl

/-- An id that reaches the database as another one is asked of PostgreSQL. -/
theorem not_onMongo_of_textParam_ne {deployment : Deployment} {text : String}
    (cut : deployment.textParam text ≠ text) : ¬ deployment.OnMongo := by
  intro onMongo
  rcases onMongo.eq_or with rfl | rfl <;> exact cut rfl

/-- The database has the same agents. -/
def SameAgents (before after : Store) : Prop :=
  ∀ agentId, after.agent agentId = none ↔ before.agent agentId = none

theorem sameAgents_updateAgent (store : Store) (agentId : String) {change : AgentRow → AgentRow}
    (keeps : ∀ row, (change row).agentId = row.agentId) :
    SameAgents store (store.updateAgent agentId change keeps) := by
  intro other
  rw [Store.agent_updateAgent]
  split
  · rename_i same
    rw [same, Option.map_eq_none_iff]
  · rfl

theorem sameAgents_updateHeartbeatPass (heartbeat : AgentHeartbeat) (attempt : Attempt)
    (store : Store) : SameAgents store (updateHeartbeatPass heartbeat attempt store).2 := by
  unfold updateHeartbeatPass
  split
  · exact fun _ => Iff.rfl
  · exact sameAgents_updateAgent store heartbeat.agentId _

theorem sameAgents_pollTasksForAgentPass (deployment : Deployment) (agentId : String)
    (freeSlots : Int) (attempt : Attempt) (store : Store) :
    SameAgents store (deployment.pollTasksForAgentPass agentId freeSlots attempt store).2 := by
  have polled := sameAgents_updateAgent store agentId (agentId_polledRow attempt)
  unfold pollTasksForAgentPass
  split
  · exact fun _ => Iff.rfl
  · dsimp only
    split
    · exact polled
    · split
      · exact fun _ => Iff.rfl
      · intro other
        rw [sameAgents_updateAgent, agent_foldl_assign]
        exact polled other

variable {deployment : Deployment} {Result : Type} {method : List Attempt → DbAction Result}
  {fallback : Result} {pass : Attempt → DbAction Result}
  (loop : deployment.LoopOf method fallback pass) (onPg : ¬ deployment.OnMongo)

include loop onPg

/-- What the transactions of a method on PostgreSQL preserve. -/
theorem holds_of_onPg {holds : Store → Prop}
    (preserved : ∀ attempt store, holds store → holds (pass attempt store).2)
    {attempts : List Attempt} {store : Store} (initially : holds store) :
    holds (method attempts store).2 := by
  cases deployment with
  | pgsql timestamptz =>
      exact loop.invariant (fun _ _ => trivial) (fun attempt _ => preserved attempt) initially
  | mongo => exact absurd trivial onPg
  | mongoStandalone => exact absurd trivial onPg

theorem sameAgents_of_onPg (kept : ∀ attempt store, SameAgents store (pass attempt store).2)
    (attempts : List Attempt) (store : Store) : SameAgents store (method attempts store).2 := by
  let follows : Store → Prop := SameAgents store
  have after : follows (method attempts store).2 :=
    holds_of_onPg loop onPg
      (fun attempt middle same agentId => (kept attempt middle agentId).trans (same agentId))
      fun _ => Iff.rfl
  exact after

end Agents

end Deployment

/-! ## The handlers -/

/-- The answer to the request tells the truth about the tables that the request leaves. -/
def AnswersTruthfully (deployment : Deployment) (config : MasterConfig) (schedule : Schedule)
    (request : Request) (store : Store) : Prop :=
  Truthful (request.Applied deployment schedule) request.Absent
    (request.Raises deployment schedule store)
    (ControlService.handle config deployment.service schedule request store)

section Handlers

variable (deployment : Deployment) (config : MasterConfig) (schedule : Schedule) (store : Store)

theorem parseBody_unique {Result : Type} {parse : Json → Except String Result} {body : Body}
    (first second : Result) (firstParsed : parseBody parse body = .ok first)
    (secondParsed : parseBody parse body = .ok second) : first = second :=
  Except.ok.inj (firstParsed.symm.trans secondParsed)

theorem status_of_not_parsed {Result : Type} {parse : Json → Except String Result} {body : Body}
    (unparsed : ∀ result, ¬ parseBody parse body = .ok result) :
    ∃ response, parseBody parse body = .error response ∧ response.status = 400 := by
  cases parsed : parseBody parse body with
  | error response => exact ⟨response, rfl, parseBody_error parsed⟩
  | ok result => exact absurd parsed (unparsed result)

theorem parseBody_json {Result : Type} {parse : Json → Except String Result} {body : Body}
    {result : Result} (parsed : parseBody parse body = .ok result) :
    ∃ json, parseJsonBody body = .ok json ∧ parse json = .ok result := by
  unfold parseBody at parsed
  obtain ⟨json, isJson, parsed⟩ := exists_of_bind_eq_ok parsed
  refine ⟨json, isJson, ?_⟩
  cases read : parse json with
  | error message => simp [read] at parsed
  | ok result => simpa [read] using parsed

/-- The fields of a registration are those of its body, the integers modulo `2 ^ 32`. -/
theorem parseAgentInput_ok {agentId : String} {json : Json} {agent : AgentInput}
    (parsed : Api.parseAgentInput agentId json = .ok agent) :
    agent.agentId = agentId ∧ json.stringMember "os" = some agent.os ∧
      json.stringMember "version" = some agent.version ∧
      ∃ resources cpuCores ramMb slots, json.objectMember "resources" = some resources ∧
        resources.integerMember "cpu_cores" = some cpuCores ∧
        resources.integerMember "ram_mb" = some ramMb ∧
        resources.integerMember "slots" = some slots ∧ agent.cpuCores = toInt32 cpuCores ∧
        agent.ramMb = toInt32 ramMb ∧ agent.slots = toInt32 slots := by
  unfold Api.parseAgentInput at parsed
  split at parsed
  · rename_i os version resources isOs isVersion isResources
    split at parsed
    · rename_i cpuCores ramMb slots isCpu isRam isSlots
      cases parsed
      exact ⟨rfl, isOs, isVersion, resources, cpuCores, ramMb, slots, isResources, isCpu, isRam,
        isSlots, rfl, rfl, rfl⟩
    · cases parsed
  · cases parsed

/-- The row that a registration leaves shows the body exactly when nothing is cut. -/
theorem shows_iff_not_cutsAgent {body : Body} {json : Json} {agentId : String}
    {agent : AgentInput} (isJson : parseJsonBody body = .ok json)
    (parsed : Api.parseAgentInput agentId json = .ok agent) {row : AgentRow}
    (os : row.os = deployment.textParam agent.os)
    (version : row.version = deployment.textParam agent.version)
    (cpuCores : row.resourcesCpuCores = agent.cpuCores) (ramMb : row.resourcesRamMb = agent.ramMb)
    (slots : row.resourcesSlots = agent.slots) (wholeId : deployment.textParam agentId = agentId) :
    row.Shows json ↔ ¬ deployment.CutsAgent agent body := by
  obtain ⟨isId, isOs, isVersion, resources, cpu, ram, free, isResources, isCpu, isRam, isSlots,
    cpuEq, ramEq, slotsEq⟩ := parseAgentInput_ok parsed
  constructor
  · rintro shows (⟨text, member, cut⟩ | ⟨other, held, isOther, isHeld, name, isName, value, isValue,
      cut⟩)
    · simp only [List.mem_cons, List.not_mem_nil, or_false] at member
      rcases member with rfl | rfl | rfl
      · exact cut (isId.symm ▸ wholeId)
      · exact cut (os ▸ Option.some.inj (shows.os.symm.trans isOs))
      · exact cut (version ▸ Option.some.inj (shows.version.symm.trans isVersion))
    · cases isJson.symm.trans isOther
      cases isResources.symm.trans isHeld
      simp only [List.mem_cons, List.not_mem_nil, or_false] at isName
      have whole {sent stored : Int} (isStored : stored = toInt32 sent)
          (isSent : resources.integerMember name = some sent)
          (shown : (json.objectMember "resources").bind (Json.integerMember name) =
            some stored) : toInt32 value = value := by
        rw [isResources, Option.bind_some, isSent, Option.some_inj] at shown
        rw [isSent, Option.some_inj] at isValue
        rw [← isValue, ← isStored, shown]
      rcases isName with rfl | rfl | rfl
      · exact cut (whole (cpuCores.trans cpuEq) isCpu shows.cpuCores)
      · exact cut (whole (ramMb.trans ramEq) isRam shows.ramMb)
      · exact cut (whole (slots.trans slotsEq) isSlots shows.slots)
  · intro whole
    have wholeText : ∀ text ∈ [agent.agentId, agent.os, agent.version],
        deployment.textParam text = text := by
      intro text member
      by_contra cut
      exact whole (.inl ⟨text, member, cut⟩)
    have wholeInteger : ∀ name ∈ ["cpu_cores", "ram_mb", "slots"], ∀ value,
        resources.integerMember name = some value → toInt32 value = value := by
      intro name member value isValue
      by_contra cut
      exact whole (.inr ⟨json, resources, isJson, isResources, name, member, value, isValue, cut⟩)
    refine ⟨?_, ?_, ?_, ?_, ?_⟩
    · rw [os, wholeText agent.os (by simp), isOs]
    · rw [version, wholeText agent.version (by simp), isVersion]
    · rw [isResources, Option.bind_some, cpuCores, cpuEq, isCpu,
        wholeInteger "cpu_cores" (by simp) cpu isCpu]
    · rw [isResources, Option.bind_some, ramMb, ramEq, isRam,
        wholeInteger "ram_mb" (by simp) ram isRam]
    · rw [isResources, Option.bind_some, slots, slotsEq, isSlots,
        wholeInteger "slots" (by simp) free isSlots]

variable {store}

/-- The ids that PostgreSQL holds after a registration have no NUL either. -/
theorem storable_upsertAgent (storable : store.Storable deployment) (attempts : List Attempt)
    (agent : AgentInput) :
    ((deployment.service.upsertAgent attempts agent store).2).Storable deployment := by
  by_cases onMongo : deployment.OnMongo
  · rcases onMongo.eq_or with rfl | rfl <;> exact fun _ _ _ => rfl
  · refine holds_of_onPg (deployment.upsertAgentLoop { agent with
      agentId := deployment.textParam agent.agentId }) onMongo ?_ storable
    intro attempt before held agentId row found
    rw [upsertAgentPass, Store.agent_upsertAgent] at found
    split at found
    · rename_i isAgent
      rw [isAgent, textParam_textParam]
    · exact held agentId row found

theorem upsertAgent_truthful_iff (storable : store.Storable deployment) (agentId : String)
    (body : Body) :
    AnswersTruthfully deployment config schedule (.upsertAgent agentId body) store ↔
      ¬ (deployment.OnMongo ∧ True ∧
        (Request.upsertAgent agentId body).Raises deployment schedule store) ∧
      ((Request.upsertAgent agentId body).Alters deployment store →
        (Request.upsertAgent agentId body).Raises deployment schedule store) := by
  refine truthful_iff_of_parses store parseBody_unique
    (fun agent : AgentInput => deployment.upsertAgentLoop { agent with
      agentId := deployment.textParam agent.agentId })
    (fun _ _ =>
      { status := 200
        body := .object
          [("status", .string "ok"),
            ("heartbeat_interval_sec", .integer config.heartbeatIntervalSec)] })
    ?_ ?_ (by simp) ?_ ?_ ?_
  · intro unparsed
    obtain ⟨response, parsed, status⟩ := status_of_not_parsed unparsed
    simp [handle, handleUpsertAgent, parsed, status]
  · intro agent parsed
    simp only [handle, handleUpsertAgent, parsed, service]
    rcases deployment.broker.upsertAgent schedule.first { agent with
      agentId := deployment.textParam agent.agentId } store with ⟨_ | _, after⟩ <;> rfl
  · rintro agent parsed whole attempt stored after ⟨member, ⟨before, passed⟩, _⟩ _
    obtain ⟨json, isJson, read⟩ := parseBody_json parsed
    have isId := Api.agentId_of_parseAgentInput read
    have wholeId : deployment.textParam agentId = agentId := by
      by_contra cut
      exact whole (.inl ⟨agentId, by simp [isId], cut⟩)
    have held := agent_upsertAgentPass passed
    rw [isId, wholeId] at held
    exact ⟨json, attempt, _, isJson, member, held,
      (shows_iff_not_cutsAgent deployment isJson read rfl rfl rfl rfl rfl wholeId).mpr whole,
      rfl, rfl⟩
  · intro agent _ attempt stored after _ missing
    simp at missing
  · rintro agent parsed cut attempt stored after ⟨_, ⟨before, passed⟩, ended⟩
    refine ⟨⟨le_refl 200, by simp⟩, ?_⟩
    rintro ⟨json, _, row, isJson, _, found, shows, _, _⟩
    obtain ⟨other, isOther, read⟩ := parseBody_json parsed
    cases isJson.symm.trans isOther
    have isId := Api.agentId_of_parseAgentInput read
    have wholeId : deployment.textParam agentId = agentId := by
      have held := storable_upsertAgent deployment storable schedule.first agent
      have isAfter : (deployment.service.upsertAgent schedule.first agent store).2 = after :=
        congrArg Prod.snd ended
      rw [isAfter] at held
      exact held agentId row found
    have held := agent_upsertAgentPass passed
    rw [isId, wholeId, found] at held
    cases held
    exact (shows_iff_not_cutsAgent deployment isJson read rfl rfl rfl rfl rfl wholeId).mp shows cut

/-- Whether an agent is there is not changed by a heartbeat, a poll or a read. -/
theorem presence_of_passed {Result : Type} {method : List Attempt → DbAction Result}
    {fallback : Result} {pass : Attempt → DbAction Result}
    (loop : deployment.LoopOf method fallback pass)
    (kept : ∀ attempt store, SameAgents store (pass attempt store).2) {agentId : String}
    (cut : deployment.textParam agentId ≠ agentId) {attempts : List Attempt} {attempt : Attempt}
    {result : Result} {after : Store}
    (passed : Passed method pass attempts store attempt result after) : SameAgents store after := by
  have same := sameAgents_of_onPg loop (not_onMongo_of_textParam_ne cut) kept attempts store
  rwa [passed.2.2] at same

/-- An id with a NUL is no stored agent's. -/
theorem absent_of_cut (storable : store.Storable deployment) {agentId : String}
    (cut : deployment.textParam agentId ≠ agentId) : store.agent agentId = none := by
  cases found : store.agent agentId with
  | none => rfl
  | some row => exact absurd (storable agentId row found) cut

section Cut

variable {agentId : String} {after : Store}
  (same : deployment.textParam agentId ≠ agentId → SameAgents store after)

include same

/-- An operation that has found an agent has found that of the request. -/
theorem whole_of_found (whole : ¬ deployment.FindsOther store agentId) {row : AgentRow}
    (found : after.agent (deployment.textParam agentId) = some row) :
    deployment.textParam agentId = agentId := by
  by_contra cut
  refine whole ⟨cut, fun absent => ?_⟩
  rw [(same cut _).mpr absent] at found
  cases found

/-- An operation that has found none has missed none. -/
theorem absent_of_missed (storable : store.Storable deployment)
    (missed : after.agent (deployment.textParam agentId) = none) : after.agent agentId = none := by
  by_cases cut : deployment.textParam agentId = agentId
  · rwa [cut] at missed
  · exact (same cut agentId).mpr (absent_of_cut deployment storable cut)

/-- An operation that finds another agent finds it instead of none. -/
theorem found_instead (storable : store.Storable deployment)
    (finds : deployment.FindsOther store agentId) :
    after.agent (deployment.textParam agentId) ≠ none ∧ after.agent agentId = none := by
  obtain ⟨cut, present⟩ := finds
  exact ⟨fun absent => present ((same cut _).mp absent),
    (same cut agentId).mpr (absent_of_cut deployment storable cut)⟩

end Cut

theorem agentHeartbeat_truthful_iff (storable : store.Storable deployment) (agentId : String)
    (body : Body) :
    AnswersTruthfully deployment config schedule (.agentHeartbeat agentId body) store ↔
      ¬ (deployment.OnMongo ∧ True ∧
        (Request.agentHeartbeat agentId body).Raises deployment schedule store) ∧
      ((Request.agentHeartbeat agentId body).Alters deployment store →
        (Request.agentHeartbeat agentId body).Raises deployment schedule store) := by
  refine truthful_iff_of_parses store parseBody_unique
    (fun heartbeat : AgentHeartbeat => deployment.updateHeartbeatLoop { heartbeat with
      agentId := deployment.textParam heartbeat.agentId })
    (fun _ known => if known then okResponse else agentNotFoundResponse agentId)
    ?_ ?_ (by simp [agentNotFoundResponse, errorResponse]) ?_ ?_ ?_
  · intro unparsed
    obtain ⟨response, parsed, status⟩ := status_of_not_parsed unparsed
    simp [handle, handleAgentHeartbeat, parsed, status]
  · intro heartbeat parsed
    simp only [handle, handleAgentHeartbeat, parsed, service]
    rcases deployment.broker.updateHeartbeat schedule.first { heartbeat with
      agentId := deployment.textParam heartbeat.agentId } store with ⟨_ | _ | _, after⟩ <;> rfl
  · rintro heartbeat parsed whole attempt known after isPassed successful
    have same : deployment.textParam agentId ≠ agentId → SameAgents store after := fun cut =>
      presence_of_passed deployment (deployment.updateHeartbeatLoop _)
        (sameAgents_updateHeartbeatPass _) cut isPassed
    obtain ⟨member, ⟨before, passed⟩, _⟩ := isPassed
    obtain ⟨json, read⟩ := parseBody_ok parsed
    have isAgent := Api.agentId_of_parseAgentHeartbeat read
    rcases agent_updateHeartbeatPass passed with ⟨rfl, _⟩ | ⟨rfl, row, found, status, time⟩
    · simp [Response.Successful, agentNotFoundResponse, errorResponse] at successful
    · dsimp only at found
      rw [isAgent] at found
      rw [whole_of_found deployment same whole found] at found
      exact ⟨heartbeat, attempt, row, parsed, member, found, status, time⟩
  · rintro heartbeat parsed attempt known after isPassed missing
    have same : deployment.textParam agentId ≠ agentId → SameAgents store after := fun cut =>
      presence_of_passed deployment (deployment.updateHeartbeatLoop _)
        (sameAgents_updateHeartbeatPass _) cut isPassed
    obtain ⟨member, ⟨before, passed⟩, _⟩ := isPassed
    obtain ⟨json, read⟩ := parseBody_ok parsed
    have isAgent := Api.agentId_of_parseAgentHeartbeat read
    rcases agent_updateHeartbeatPass passed with ⟨rfl, absent⟩ | ⟨rfl, _⟩
    · dsimp only at absent
      rw [isAgent] at absent
      exact absent_of_missed deployment same storable absent
    · simp [okResponse] at missing
  · rintro heartbeat parsed finds attempt known after isPassed
    obtain ⟨present, missing⟩ := found_instead deployment (fun cut =>
      presence_of_passed deployment (deployment.updateHeartbeatLoop _)
        (sameAgents_updateHeartbeatPass _) cut isPassed) storable finds
    obtain ⟨member, ⟨before, passed⟩, _⟩ := isPassed
    obtain ⟨json, read⟩ := parseBody_ok parsed
    have isAgent := Api.agentId_of_parseAgentHeartbeat read
    rcases agent_updateHeartbeatPass passed with ⟨rfl, absent⟩ | ⟨rfl, _⟩
    · dsimp only at absent
      rw [isAgent] at absent
      exact absurd absent present
    · refine ⟨⟨le_refl 200, by simp [okResponse]⟩, ?_⟩
      rintro ⟨_, _, row, _, _, found, _⟩
      rw [missing] at found
      cases found

theorem pollTasks_truthful_iff (storable : store.Storable deployment) (agentId : String)
    (body : Body) :
    AnswersTruthfully deployment config schedule (.pollTasks agentId body) store ↔
      ¬ (deployment.OnMongo ∧ True ∧
        (Request.pollTasks agentId body).Raises deployment schedule store) ∧
      ((Request.pollTasks agentId body).Alters deployment store →
        (Request.pollTasks agentId body).Raises deployment schedule store) := by
  refine truthful_iff_of_parses store parseBody_unique
    (deployment.pollTasksForAgentLoop (deployment.textParam agentId))
    (fun _ dispatches => dispatches.elim (agentNotFoundResponse agentId) dispatchesResponse)
    ?_ ?_ (by simp [dispatchesResponse]) ?_ ?_ ?_
  · intro unparsed
    obtain ⟨response, parsed, status⟩ := status_of_not_parsed unparsed
    simp [handle, handlePollTasks, parsed, status]
  · intro freeSlots parsed
    simp only [handle, handlePollTasks, parsed, service]
    rcases deployment.broker.pollTasksForAgent schedule.first (deployment.textParam agentId)
      freeSlots store with ⟨_ | _ | _, after⟩ <;> rfl
  · rintro freeSlots parsed whole attempt dispatches after isPassed successful
    have same : deployment.textParam agentId ≠ agentId → SameAgents store after := fun cut =>
      presence_of_passed deployment (deployment.pollTasksForAgentLoop _ _)
        (sameAgents_pollTasksForAgentPass deployment _ _) cut isPassed
    obtain ⟨member, ⟨before, passed⟩, _⟩ := isPassed
    rcases pollTasksForAgentPass_promises passed with
      ⟨rfl, _⟩ | ⟨sent, row, rfl, found, time, running⟩
    · simp [Response.Successful, agentNotFoundResponse, errorResponse] at successful
    · have isWhole := whole_of_found deployment same whole found
      rw [isWhole] at found running
      exact ⟨attempt, row, sent, member, found, time, rfl, running⟩
  · rintro freeSlots parsed attempt dispatches after isPassed missing
    have same : deployment.textParam agentId ≠ agentId → SameAgents store after := fun cut =>
      presence_of_passed deployment (deployment.pollTasksForAgentLoop _ _)
        (sameAgents_pollTasksForAgentPass deployment _ _) cut isPassed
    obtain ⟨member, ⟨before, passed⟩, _⟩ := isPassed
    rcases pollTasksForAgentPass_promises passed with ⟨rfl, absent⟩ | ⟨sent, row, rfl, _⟩
    · exact absent_of_missed deployment same storable absent
    · simp [dispatchesResponse] at missing
  · rintro freeSlots parsed finds attempt dispatches after isPassed
    obtain ⟨present, missing⟩ := found_instead deployment (fun cut =>
      presence_of_passed deployment (deployment.pollTasksForAgentLoop _ _)
        (sameAgents_pollTasksForAgentPass deployment _ _) cut isPassed) storable finds
    obtain ⟨member, ⟨before, passed⟩, _⟩ := isPassed
    rcases pollTasksForAgentPass_promises passed with ⟨rfl, absent⟩ | ⟨sent, row, rfl, _⟩
    · exact absurd absent present
    · refine ⟨⟨by simp [dispatchesResponse], by simp [dispatchesResponse]⟩, ?_⟩
      rintro ⟨_, other, _, _, found, _⟩
      rw [missing] at found
      cases found

variable (store)

theorem createTask_truthful (body : Body) :
    AnswersTruthfully deployment config schedule (.createTask body) store ↔
      ¬ (deployment.OnMongo ∧ False ∧
        (Request.createTask body).Raises deployment schedule store) ∧
      ((∃ task, parseBody Api.parseTaskCreate body = .ok task ∧ False) →
        (Request.createTask body).Raises deployment schedule store) := by
  refine truthful_iff_of_parses store parseBody_unique deployment.createTaskLoop
    (fun _ taskId =>
      if taskId ≤ 0 then errorResponse 500 "DB_ERROR" "Failed to create task"
      else { status := 201, body := .object [("task_id", .integer taskId)] })
    ?_ ?_ (by simp [errorResponse]) ?_ ?_ fun _ _ => False.elim
  · intro unparsed
    obtain ⟨response, parsed, status⟩ := status_of_not_parsed unparsed
    simp [handle, handleCreateTask, parsed, status]
  · intro task parsed
    simp only [handle, handleCreateTask, parsed, service]
    rcases deployment.broker.createTask schedule.first task store with ⟨_ | taskId, after⟩
    · rfl
    · dsimp only [respond]
      split <;> rfl
  · rintro task parsed - attempt taskId after ⟨member, ⟨before, passed⟩, _⟩ _
    obtain ⟨positive, found⟩ := createTaskPass_promises passed
    exact ⟨task, attempt, taskId, parsed, member, if_neg (by omega), found⟩
  · intro task parsed attempt taskId after _ missing
    split at missing <;> simp [errorResponse] at missing

theorem parseTaskId_unique {taskIdRaw : String} (first second : Int)
    (firstParsed : Api.parseTaskId taskIdRaw = some first)
    (secondParsed : Api.parseTaskId taskIdRaw = some second) : first = second :=
  Option.some.inj (firstParsed.symm.trans secondParsed)

theorem parseTaskId_eq_none {taskIdRaw : String}
    (unparsed : ∀ taskId, ¬ Api.parseTaskId taskIdRaw = some taskId) :
    Api.parseTaskId taskIdRaw = none :=
  Option.eq_none_iff_forall_ne_some.mpr unparsed

theorem getTask_truthful_iff (taskIdRaw : String) :
    AnswersTruthfully deployment config schedule (.getTask taskIdRaw) store ↔
      ¬ (deployment.OnMongo ∧ True ∧
        (Request.getTask taskIdRaw).Raises deployment schedule store) ∧
      ((∃ taskId, Api.parseTaskId taskIdRaw = some taskId ∧ False) →
        (Request.getTask taskIdRaw).Raises deployment schedule store) := by
  refine truthful_iff_of_parses store parseTaskId_unique deployment.getTaskLoop
    (fun taskId found => match found with
      | none => taskNotFoundResponse taskId
      | some task => { status := 200, body := .object [("task", Api.taskRecordToJson task)] })
    ?_ ?_ (by simp [taskNotFoundResponse, errorResponse]) ?_ ?_ fun _ _ => False.elim
  · intro unparsed
    simp [handle, handleGetTask, parseTaskId_eq_none unparsed, invalidTaskIdResponse,
      errorResponse]
  · intro taskId parsed
    simp only [handle, handleGetTask, parsed, service]
    rcases deployment.broker.getTask schedule.first taskId store with ⟨_ | _ | _, after⟩ <;> rfl
  · rintro taskId parsed - attempt record after ⟨member, ⟨before, ⟨⟩⟩, _⟩ successful
    cases found : after.task taskId with
    | none =>
        simp [found, Response.Successful, taskNotFoundResponse, errorResponse] at successful
    | some row => exact ⟨taskId, row, parsed, found, by simp⟩
  · rintro taskId parsed attempt record after ⟨_, ⟨before, ⟨⟩⟩, _⟩ missing
    cases found : after.task taskId with
    | none => exact ⟨taskId, parsed, found⟩
    | some row => simp [found] at missing

theorem getAgent_truthful_iff (storable : store.Storable deployment) (agentId : String) :
    AnswersTruthfully deployment config schedule (.getAgent agentId) store ↔
      ¬ (deployment.OnMongo ∧ True ∧
        (Request.getAgent agentId).Raises deployment schedule store) ∧
      ((Request.getAgent agentId).Alters deployment store →
        (Request.getAgent agentId).Raises deployment schedule store) := by
  let answer : Option AgentRecord → Response := fun found => match found with
    | none => agentNotFoundResponse agentId
    | some agent => { status := 200, body := .object [("agent", Api.agentRecordToJson agent)] }
  have handled : ControlService.handle config deployment.service schedule (.getAgent agentId)
      store = respond answer
        (deployment.broker.getAgent schedule.first (deployment.textParam agentId) store) := by
    simp only [handle, handleGetAgent, service]
    rcases deployment.broker.getAgent schedule.first (deployment.textParam agentId) store with
      ⟨_ | _ | _, after⟩ <;> rfl
  have mistaken : (answer none).status ≠ 500 := by
    simp [answer, agentNotFoundResponse, errorResponse]
  have read : ∀ {attempt record after}, Passed
      (fun attempts => deployment.broker.getAgent attempts (deployment.textParam agentId))
      (deployment.getAgentPass (deployment.textParam agentId)) schedule.first store attempt record
      after → after = store ∧
        record = (store.agent (deployment.textParam agentId)).map deployment.agentRecord := by
    rintro attempt record after ⟨_, ⟨before, ⟨⟩⟩, ended⟩
    have kept := deployment.getAgent_store schedule.first store (deployment.textParam agentId)
    dsimp only at ended
    rw [ended] at kept
    dsimp only at kept
    subst kept
    exact ⟨rfl, rfl⟩
  rw [AnswersTruthfully, handled, ← show (answer none).status ≠ 500 ↔ True by simp [mistaken]]
  refine truthful_respond_iff (deployment.getAgentLoop (deployment.textParam agentId)) store
    answer ?_ ?_ ?_
  · intro whole attempt record after isPassed successful
    obtain ⟨rfl, rfl⟩ := read isPassed
    cases found : after.agent (deployment.textParam agentId) with
    | none =>
        simp [answer, found, Response.Successful, agentNotFoundResponse,
          errorResponse] at successful
    | some row =>
        have same : deployment.textParam agentId = agentId := by
          by_contra cut
          exact whole ⟨cut, by simp [found]⟩
        rw [same] at found
        exact ⟨row, found, by simp [answer]⟩
  · intro attempt record after isPassed missing
    obtain ⟨rfl, rfl⟩ := read isPassed
    by_cases cut : deployment.textParam agentId = agentId
    · rw [cut] at missing
      cases found : after.agent agentId with
      | none => exact found
      | some row => simp [answer, found] at missing
    · exact absent_of_cut deployment storable cut
  · rintro ⟨cut, present⟩ attempt record after isPassed
    obtain ⟨rfl, rfl⟩ := read isPassed
    obtain ⟨row, found⟩ := Option.ne_none_iff_exists'.mp present
    refine ⟨by simp [answer, found, Response.Successful], ?_⟩
    rintro ⟨other, otherFound, _⟩
    rw [absent_of_cut deployment storable cut] at otherFound
    cases otherFound

theorem cancelTask_truthful (taskIdRaw : String) :
    AnswersTruthfully deployment config schedule (.cancelTask taskIdRaw) store ↔
      ¬ (deployment.OnMongo ∧ False ∧
        (Request.cancelTask taskIdRaw).Raises deployment schedule store) ∧
      ((∃ taskId, Api.parseTaskId taskIdRaw = some taskId ∧ False) →
        (Request.cancelTask taskIdRaw).Raises deployment schedule store) := by
  refine truthful_iff_of_parses store parseTaskId_unique deployment.cancelTaskLoop
    (fun taskId result => match result with
      | .notFound => taskNotFoundResponse taskId
      | .invalidState => errorResponse 409 "TASK_INVALID_STATE"
          "Task already finished; cannot cancel" (.object [("task_id", .integer taskId)])
      | .ok => okResponse
      | .error => errorResponse 500 "DB_ERROR" "Failed to cancel task")
    ?_ ?_ (by simp [errorResponse]) ?_ ?_ fun _ _ => False.elim
  · intro unparsed
    simp [handle, handleCancelTask, parseTaskId_eq_none unparsed, invalidTaskIdResponse,
      errorResponse]
  · intro taskId parsed
    simp only [handle, handleCancelTask, parsed, service]
    rcases deployment.broker.cancelTask schedule.first taskId store with
      ⟨_ | _ | _ | _ | _, after⟩ <;> rfl
  · rintro taskId parsed - attempt result after ⟨member, ⟨before, passed⟩, _⟩ successful
    rcases cancelTaskPass_promises passed with ⟨rfl, _⟩ | rfl | ⟨rfl, row, found, canceled⟩
    · simp [Response.Successful, taskNotFoundResponse, errorResponse] at successful
    · simp [Response.Successful, errorResponse] at successful
    · exact ⟨taskId, row, parsed, found, canceled⟩
  · rintro taskId parsed attempt result after ⟨_, ⟨before, passed⟩, _⟩ missing
    rcases cancelTaskPass_promises passed with ⟨rfl, absent⟩ | rfl | ⟨rfl, _⟩
    · exact ⟨taskId, parsed, absent⟩
    · simp [errorResponse] at missing
    · simp [okResponse] at missing

/-- The second half of a status report. -/
theorem writeStatusUpdate_truthful_iff {taskIdRaw : String} {body : Body} {taskId : Int}
    {update : TaskStatusUpdate} (parsedId : Api.parseTaskId taskIdRaw = some taskId)
    (parsed : parseBody Api.parseTaskStatusUpdate body = .ok update) :
    Truthful ((Request.updateTaskStatus taskIdRaw body).Applied deployment schedule)
        (Request.updateTaskStatus taskIdRaw body).Absent
        ((deployment.updateTaskStatusLoop taskId update).Raises schedule.second store)
        (writeStatusUpdate deployment.broker schedule.second taskId update store) ↔
      ¬ (deployment.OnMongo ∧
        (deployment.updateTaskStatusLoop taskId update).Raises schedule.second store) := by
  let answer : Bool → Response := fun known =>
    if known then okResponse else taskNotFoundResponse taskId
  have handled : writeStatusUpdate deployment.broker schedule.second taskId update store =
      respond answer (deployment.broker.updateTaskStatus schedule.second taskId update store) := by
    unfold writeStatusUpdate
    rcases deployment.broker.updateTaskStatus schedule.second taskId update store with
      ⟨_ | _ | _, after⟩ <;> rfl
  rw [handled]
  have noMistake : False → ∀ attempt known after,
      Passed (fun attempts => deployment.broker.updateTaskStatus attempts taskId update)
        (deployment.updateTaskStatusPass taskId update) schedule.second store attempt known after →
          (answer known).Successful ∧
            ¬ (Request.updateTaskStatus taskIdRaw body).Applied deployment schedule (answer known)
              after := False.elim
  refine (truthful_respond_iff (deployment.updateTaskStatusLoop taskId update) store answer
    ?_ ?_ noMistake).trans ?_
  · rintro - attempt known after ⟨member, ⟨before, passed⟩, _⟩ successful
    rcases updateTaskStatusPass_promises passed with ⟨rfl, _⟩ | ⟨rfl, row, found, reached⟩
    · simp [answer, Response.Successful, taskNotFoundResponse, errorResponse] at successful
    · exact ⟨taskId, update, row, parsedId, parsed, found, reached⟩
  · rintro attempt known after ⟨_, ⟨before, passed⟩, _⟩ missing
    rcases updateTaskStatusPass_promises passed with ⟨rfl, absent⟩ | ⟨rfl, _⟩
    · exact ⟨taskId, parsedId, absent⟩
    · simp [answer, okResponse] at missing
  · simp [answer, taskNotFoundResponse, errorResponse]

/-- A read of a task of which an attempt returns. -/
theorem getTask_of_not_raises {taskId : Int}
    (returns : ¬ (deployment.getTaskLoop taskId).Raises schedule.first store) :
    deployment.broker.getTask schedule.first taskId store =
      (.ok ((store.task taskId).map deployment.taskRecord), store) := by
  obtain ⟨attempt, _, before, record, after, passed, ended⟩ :=
    (deployment.getTaskLoop taskId).method_eq_of_not_raises returns
  have same : after = store := by
    have kept := deployment.getTask_store schedule.first store taskId
    rwa [ended] at kept
  obtain ⟨isRecord, isBefore⟩ := Prod.mk.inj passed
  subst same isBefore
  obtain rfl := Except.ok.inj isRecord
  exact ended

theorem raises_updateTaskStatus_iff {taskIdRaw : String} {body : Body} {taskId : Int}
    {update : TaskStatusUpdate} (parsedId : Api.parseTaskId taskIdRaw = some taskId)
    (parsed : parseBody Api.parseTaskStatusUpdate body = .ok update) :
    (Request.updateTaskStatus taskIdRaw body).Raises deployment schedule store ↔
      (deployment.getTaskLoop taskId).Raises schedule.first store ∨
        ∃ row, store.task taskId = some row ∧
          Api.isValidTaskStateTransition row.state update.state = true ∧
          (deployment.updateTaskStatusLoop taskId update).Raises schedule.second store := by
  constructor
  · rintro ⟨other, report, otherId, otherReport, raises⟩
    cases parsedId.symm.trans otherId
    cases parsed.symm.trans otherReport
    exact raises
  · intro raises
    exact ⟨taskId, update, parsedId, parsed, raises⟩

theorem updateTaskStatus_truthful_iff (taskIdRaw : String) (body : Body) :
    AnswersTruthfully deployment config schedule (.updateTaskStatus taskIdRaw body) store ↔
      ¬ (deployment.OnMongo ∧ True ∧
        (Request.updateTaskStatus taskIdRaw body).Raises deployment schedule store) := by
  have sameBroker : ControlService.handle config deployment.service schedule
      (.updateTaskStatus taskIdRaw body) store = ControlService.handle config deployment.broker
        schedule (.updateTaskStatus taskIdRaw body) store := rfl
  unfold AnswersTruthfully
  rw [sameBroker]
  simp only [handle, handleUpdateTaskStatus, true_and]
  cases parsedId : Api.parseTaskId taskIdRaw with
  | none =>
      have quiet : ¬ (Request.updateTaskStatus taskIdRaw body).Raises deployment schedule
          store := by
        rintro ⟨taskId, update, accepted, _⟩
        rw [parsedId] at accepted
        cases accepted
      refine iff_of_true (.of_rejected ?_ quiet) fun falls => quiet falls.2
      simp [checkStatusUpdate, parsedId, invalidTaskIdResponse, errorResponse]
  | some taskId =>
  cases parsed : parseBody Api.parseTaskStatusUpdate body with
  | error response =>
      have quiet : ¬ (Request.updateTaskStatus taskIdRaw body).Raises deployment schedule
          store := by
        rintro ⟨_, update, _, accepted, _⟩
        rw [parsed] at accepted
        cases accepted
      refine iff_of_true (.of_rejected ?_ quiet) fun falls => quiet falls.2
      simp [checkStatusUpdate, parsedId, parsed, parseBody_error parsed]
  | ok update =>
  have raisesIff := raises_updateTaskStatus_iff deployment schedule store parsedId parsed
  by_cases raisesRead : (deployment.getTaskLoop taskId).Raises schedule.first store
  · have raises := raisesIff.mpr (.inl raisesRead)
    rcases raisesRead.method_eq with ⟨onMongo, after, ended⟩ | ⟨onPg, error, after, ended⟩
    · refine iff_of_false (fun truthful => ?_) (fun honest => honest ⟨onMongo, raises⟩)
      have status := truthful.failure raises
      simp [checkStatusUpdate, parsedId, parsed, ended, taskNotFoundResponse,
        errorResponse] at status
    · refine iff_of_true (.of_failed ?_) (fun falls => onPg falls.1)
      simp [checkStatusUpdate, parsedId, parsed, ended, dbErrorResponse, errorResponse]
  · have ended := getTask_of_not_raises deployment schedule store raisesRead
    cases found : store.task taskId with
    | none =>
        have quiet : ¬ (Request.updateTaskStatus taskIdRaw body).Raises deployment schedule
            store := by
          rw [raisesIff]
          rintro (raises | ⟨row, present, _⟩)
          · exact raisesRead raises
          · rw [found] at present
            cases present
        refine iff_of_true ?_ fun falls => quiet falls.2
        simp only [checkStatusUpdate, parsedId, parsed, ended, found, Option.map_none]
        exact
          { success := fun successful => by
              simp [Response.Successful, taskNotFoundResponse, errorResponse] at successful
            notFound := fun _ => ⟨taskId, parsedId, found⟩
            failure := fun raises => absurd raises quiet }
    | some row =>
        by_cases valid : Api.isValidTaskStateTransition row.state update.state = true
        · have writes : (Request.updateTaskStatus taskIdRaw body).Raises deployment schedule
              store ↔ (deployment.updateTaskStatusLoop taskId update).Raises schedule.second
                store := by
            rw [raisesIff]
            constructor
            · rintro (raises | ⟨_, _, _, raises⟩)
              · exact absurd raises raisesRead
              · exact raises
            · intro raises
              exact .inr ⟨row, found, valid, raises⟩
          simp only [checkStatusUpdate, parsedId, parsed, ended, found, Option.map_some,
            state_taskRecord, valid, if_true, writes]
          exact writeStatusUpdate_truthful_iff deployment schedule store parsedId parsed
        · have quiet : ¬ (Request.updateTaskStatus taskIdRaw body).Raises deployment schedule
              store := by
            rw [raisesIff]
            rintro (raises | ⟨_, present, isValid, _⟩)
            · exact raisesRead raises
            · rw [found] at present
              cases present
              exact valid isValid
          refine iff_of_true (.of_rejected ?_ quiet) fun falls => quiet falls.2
          simp [checkStatusUpdate, parsedId, parsed, ended, found, state_taskRecord, valid,
            errorResponse]

end Handlers

/-- The registration of an agent with the given system and number of cores. -/
def registration (os : String) (cpuCores : Int) : Request :=
  .upsertAgent "agent-1" (.json (.object
    [("os", .string os), ("version", .string "dev"),
      ("resources", .object [("cpu_cores", .integer cpuCores), ("ram_mb", .integer 1024),
        ("slots", .integer 1)])]))

theorem storable_empty (deployment : Deployment) : Store.empty.Storable deployment := by
  intro agentId row found
  cases found

/-- An attempt whose first call to the database raises without effect. -/
def unreachable (now : Time) : Attempt where
  now := now
  raisingCall := some (0, fun _ => false)

end DistributedComputing
