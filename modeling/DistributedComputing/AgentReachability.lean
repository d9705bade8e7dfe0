import DistributedComputing.AssignmentConsistency
import DistributedComputing.TaskOwners

/-!
# Running tasks, their agents, and the sweep

The sweep returns the tasks of a silent agent to the queue, provided that the task names
the agent and that the agent is not marked offline already.  Neither is so in every
reachable state: a report may start a task that nobody polled, and a heartbeat may
declare an agent offline that still has tasks.
-/

namespace DistributedComputing

open TransitionRuns ControlService

variable {deployment : Deployment} (config : MasterConfig)

/-! ## Running tasks without an agent -/

theorem masterRun_registered {steps : List MasterStep}
    (healthy : ∀ step ∈ steps, step.Healthy deployment) :
    (run (masterStep deployment config) Store.empty steps).ledger.Registered :=
  masterRun_invariant config Store.empty (fun _ _ enabled registered =>
    Ledger.step_registered enabled.possible registered) healthy Ledger.empty_registered

/-- A sweep that finds the agent of a task returns the task to the queue. -/
theorem maintenance_requeues {attempts : List Attempt} (healthy : deployment.Healthy attempts)
    {store : Store} {agentId : String} {agent : AgentRow} {taskId : Int}
    (found : store.agent agentId = some agent) (online : agent.status ≠ .offline)
    (stale : ∀ attempt ∈ attempts,
      agent.lastHeartbeat < attempt.now - config.offlineAfterSec * 1000)
    (held : store.ledger.Holds agentId taskId) :
    ∃ task,
      (maintenance deployment.broker attempts config.offlineAfterSec store).task taskId =
        some task ∧ task.state = .queued ∧ task.assignedAgent = none := by
  obtain ⟨attempt, member, explains⟩ :=
    maintenance_events healthy store config.offlineAfterSec
  have swept : agentId ∈ store.staleAgents attempt.now config.offlineAfterSec := by
    refine List.mem_map.mpr ⟨agent, ?_, KeyedTable.key_of_lookup found⟩
    rw [List.mem_filter]
    exact ⟨KeyedTable.mem_of_lookup found, by simp [online, stale attempt member]⟩
  obtain ⟨queued, unassigned⟩ := Ledger.run_expire_releases swept held
  rw [← explains.ledger_eq] at queued unassigned
  obtain ⟨task, taskFound, stateEq⟩ := Store.exists_task_of_state queued
  rw [Store.assignee_of_task taskFound] at unassigned
  exact ⟨task, taskFound, stateEq, unassigned⟩

/-- The step is a report that starts a queued task. -/
def StartsQueued (store : Store) (taskId : Int) : MasterStep → Prop
  | .request _ (.updateTaskStatus taskIdRaw body) => ∃ update,
      Api.parseTaskId taskIdRaw = some taskId ∧
        parseBody Api.parseTaskStatusUpdate body = .ok update ∧ update.state = .running ∧
        store.ledger.state taskId = some .queued
  | _ => False

/-- The step after which a task runs without an owner is the report that started it. -/
theorem startsQueued_of_unowned {step : MasterStep} (healthy : step.Healthy deployment)
    {store : Store} {taskId : Int} (owned : ¬ store.ledger.Unowned taskId)
    (unowned : (masterStep deployment config store step).ledger.Unowned taskId) :
    StartsQueued store taskId step := by
  obtain ⟨events, shape, enabled, explains⟩ := masterStep_explained config store healthy
  rw [explains.ledger_eq] at unowned
  obtain ⟨before, event, after, split, ownedBefore, unownedAfter⟩ :=
    exists_breaking_step Ledger.step (fun ledger => ¬ ledger.Unowned taskId) owned
      (not_not.mpr unowned)
  have allowed := (along_iff Ledger.step Ledger.Enabled _ events).mp enabled before event after split
  obtain ⟨⟨exitCode, rfl⟩, queued⟩ :=
    Ledger.unowned_step allowed ownedBefore (not_not.mp unownedAfter)
  have reported : .report taskId .running exitCode ∈ events := by simp [split]
  rcases shape with rfl | shape
  · cases reported
  · obtain ⟨schedule, taskIdRaw, body, update, rfl, parsedId, parsed, stateEq, single⟩ :=
      shape.of_report reported
    -- The only event of the step is this report, so nothing came before it.
    have first : before = [] := by
      have lengths := congrArg List.length (single.symm.trans split)
      simp only [List.length_append, List.length_cons, List.length_nil] at lengths
      exact List.length_eq_zero_iff.mp (by omega)
    subst first
    exact ⟨update, parsedId, parsed, stateEq, queued⟩

theorem running_tasks_within_reach (steps : List MasterStep)
    (healthy : ∀ step ∈ steps, step.Healthy deployment) (taskId : Int) (task : TaskRow)
    (found : (run (masterStep deployment config) Store.empty steps).task taskId = some task)
    (running : task.state = .running) :
    (∀ agentId, task.assignedAgent = some agentId →
      ∃ agent,
        (run (masterStep deployment config) Store.empty steps).agent agentId = some agent ∧
          ∀ attempts, deployment.Healthy attempts → agent.status ≠ .offline →
            (∀ attempt ∈ attempts,
              agent.lastHeartbeat < attempt.now - config.offlineAfterSec * 1000) →
            ∃ requeued,
              (masterStep deployment config
                (run (masterStep deployment config) Store.empty steps)
                (.sweep attempts)).task taskId = some requeued ∧
                requeued.state = .queued ∧ requeued.assignedAgent = none) ∧
      (task.assignedAgent = none →
        ∃ before step after, steps = before ++ step :: after ∧
          StartsQueued (run (masterStep deployment config) Store.empty before) taskId step) := by
  constructor
  · intro agentId assigned
    have held : (run (masterStep deployment config) Store.empty steps).ledger.Holds agentId
        taskId :=
      ⟨by rw [Store.assignee_of_task found, assigned],
        .inl (by rw [Store.state_of_task found, running])⟩
    have known := masterRun_registered config healthy agentId taskId held.1
    obtain ⟨status, statusEq⟩ := Option.ne_none_iff_exists'.mp known
    obtain ⟨agent, agentFound, _⟩ := Option.map_eq_some_iff.mp statusEq
    exact ⟨agent, agentFound, fun attempts calm online stale =>
      maintenance_requeues config calm agentFound online stale held⟩
  · intro unassigned
    have unowned : (run (masterStep deployment config) Store.empty steps).ledger.Unowned taskId :=
      ⟨by rw [Store.state_of_task found, running], by rw [Store.assignee_of_task found, unassigned]⟩
    obtain ⟨before, step, after, rfl, owned, lost⟩ :=
      exists_breaking_step (masterStep deployment config)
        (fun store => ¬ store.ledger.Unowned taskId)
        (by simp [Ledger.Unowned, Store.ledger_empty, Ledger.empty]) (not_not.mpr unowned)
    exact ⟨before, step, after, rfl, startsQueued_of_unowned config (healthy step (by simp)) owned
      (not_not.mp lost)⟩

theorem running_tasks_within_reach_firstPoll :
    ∃ agent, (run (masterStep .mongo {}) Store.empty (firstPoll .mongo)).agent "agent-1" =
      some agent ∧ ∀ attempts, Deployment.mongo.Healthy attempts → agent.status ≠ .offline →
        (∀ attempt ∈ attempts, agent.lastHeartbeat < attempt.now - 120 * 1000) →
        ∃ requeued,
          (masterStep .mongo {} (run (masterStep .mongo {}) Store.empty (firstPoll .mongo))
            (.sweep attempts)).task 1 = some requeued ∧
            requeued.state = .queued ∧ requeued.assignedAgent = none :=
  (running_tasks_within_reach {} (firstPoll .mongo) (healthy_firstPoll .mongo) 1 _ rfl rfl).1
    "agent-1" rfl

/-- The agent goes silent, its task is queued again, and its late report arrives. -/
def lateReport (deployment : Deployment) : List MasterStep :=
  firstPoll deployment ++
    [.calmSweep deployment 500000,
      .calm deployment 501000 (AgentClient.updateTaskStatus "1" "running" none none none none)]

theorem running_without_agent :
    (∀ step ∈ lateReport .mongo, step.Healthy .mongo) ∧
      ∃ task, (run (masterStep .mongo {}) Store.empty (lateReport .mongo)).task 1 = some task ∧
        task.state = .running ∧ task.assignedAgent = none := by
  refine ⟨?_, _, rfl, rfl, rfl⟩
  intro step member
  rcases List.mem_append.mp member with polled | late
  · exact healthy_firstPoll .mongo step polled
  · rcases List.mem_pair.mp late with rfl | rfl
    · exact MasterStep.healthy_calmSweep _ _
    · exact MasterStep.healthy_calm _ _ _

/-! ## Offline agents with tasks -/

/-- The step is no heartbeat that declares an agent offline while it has active tasks. -/
def SparesHolders (store : Store) : MasterStep → Prop
  | .request _ (.agentHeartbeat agentId body) => ∀ heartbeat,
      parseBody (Api.parseAgentHeartbeat agentId) body = .ok heartbeat →
        heartbeat.status = .offline → ∀ taskId task, store.task taskId = some task →
          task.assignedAgent = some agentId → task.state.terminal = true
  | _ => True

theorem not_holds_of_terminal {store : Store} {agentId : String}
    (isOver : ∀ taskId task, store.task taskId = some task →
      task.assignedAgent = some agentId → task.state.terminal = true) (taskId : Int) :
    ¬ store.ledger.Holds agentId taskId := by
  rintro ⟨assigned, active⟩
  obtain ⟨task, found, assignedAgent⟩ := Option.bind_eq_some_iff.mp assigned
  have finished := isOver taskId task found assignedAgent
  rw [Store.state_of_task found] at active
  rcases active with running | queued
  · rw [Option.some.inj running] at finished
    cases finished
  · rw [Option.some.inj queued] at finished
    cases finished

/-- After a poll has set a status other than offline, its claims are for an online agent. -/
theorem along_claims_online {ledger : Ledger Int String} {agentId : String}
    (online : ledger.status agentId ≠ some .offline) (dispatches : List TaskDispatch) :
    Along Ledger.step Ledger.KeepsOfflineIdle ledger
      (dispatches.map fun dispatch => .claim agentId dispatch.taskId) := by
  induction dispatches generalizing ledger with
  | nil => trivial
  | cons dispatch dispatches ih => exact ⟨online, ih online⟩

theorem along_keepsOfflineIdle {store : Store} {step : MasterStep}
    {events : List BrokerEvent} (spares : SparesHolders store step)
    (shape : StepEvents store step events) :
    Along Ledger.step Ledger.KeepsOfflineIdle store.ledger events := by
  cases step with
  | sweep attempts =>
      obtain ⟨agentIds, rfl⟩ := shape
      rw [along_iff]
      intro before event after split
      have member : event ∈ agentIds.map (.expire : String → BrokerEvent) := by simp [split]
      obtain ⟨agentId, _, rfl⟩ := List.mem_map.mp member
      trivial
  | request schedule request =>
      cases request with
      | upsertAgent agentId body =>
          cases shape
          exact ⟨by simp [Ledger.KeepsOfflineIdle], trivial⟩
      | agentHeartbeat agentId body =>
          obtain ⟨heartbeat, parsed, _, rfl⟩ := shape
          exact ⟨fun offline => not_holds_of_terminal (spares heartbeat parsed offline), trivial⟩
      | pollTasks agentId body =>
          obtain ⟨freeSlots, dispatches, _, rfl⟩ := shape
          unfold pollEvents
          split
          · trivial
          · refine ⟨?_, along_claims_online ?_ dispatches⟩
            · cases dispatches <;> simp [Ledger.KeepsOfflineIdle]
            · cases dispatches <;> simp [Ledger.step]
      | createTask body =>
          obtain ⟨taskId, rfl⟩ := shape
          exact ⟨trivial, trivial⟩
      | getTask taskIdRaw => cases shape
      | getAgent agentId => cases shape
      | listTasks state agentId limit offset => cases shape
      | listAgents status limit offset => cases shape
      | updateTaskStatus taskIdRaw body =>
          obtain ⟨taskId, update, _, _, rfl⟩ := shape
          exact ⟨trivial, trivial⟩
      | cancelTask taskIdRaw =>
          obtain ⟨taskId, _, rfl⟩ := shape
          exact ⟨trivial, trivial⟩

theorem masterStep_offlineIdle {store : Store} {step : MasterStep}
    (healthy : step.Healthy deployment) (spares : SparesHolders store step)
    (idle : store.ledger.OfflineIdle) :
    (masterStep deployment config store step).ledger.OfflineIdle := by
  obtain ⟨events, shape, enabled, explains⟩ := masterStep_explained config store healthy
  rw [explains.ledger_eq]
  rcases shape with rfl | shape
  · exact idle
  · exact run_invariant_along Ledger.step
      (fun _ _ allowed => Ledger.step_offlineIdle allowed.1 allowed.2) idle
      (enabled.and Ledger.step (along_keepsOfflineIdle spares shape))

theorem masterRun_offlineIdle {steps : List MasterStep} {store : Store}
    (healthy : ∀ step ∈ steps, step.Healthy deployment)
    (spares : Along (masterStep deployment config) SparesHolders store steps)
    (idle : store.ledger.OfflineIdle) :
    (run (masterStep deployment config) store steps).ledger.OfflineIdle := by
  have preserved : ∀ (before : Store) (step : MasterStep),
      step.Healthy deployment ∧ SparesHolders before step → before.ledger.OfflineIdle →
        (masterStep deployment config before step).ledger.OfflineIdle :=
    fun _ _ both held => masterStep_offlineIdle config both.1 both.2 held
  exact run_invariant_along (masterStep deployment config) preserved idle
    ((along_of_forall _ healthy store).and _ spares)

theorem offline_agents_hold_nothing (steps : List MasterStep)
    (healthy : ∀ step ∈ steps, step.Healthy deployment)
    (spares : Along (masterStep deployment config) SparesHolders Store.empty steps)
    (taskId : Int) (task : TaskRow) (agentId : String) (agent : AgentRow)
    (taskFound : (run (masterStep deployment config) Store.empty steps).task taskId = some task)
    (active : task.state = .running ∨ task.state = .queued)
    (assigned : task.assignedAgent = some agentId)
    (agentFound :
      (run (masterStep deployment config) Store.empty steps).agent agentId = some agent) :
    agent.status ≠ .offline := by
  have idle := masterRun_offlineIdle config healthy spares Ledger.empty_offlineIdle
  have held : (run (masterStep deployment config) Store.empty steps).ledger.Holds agentId
      taskId := by
    refine ⟨by rw [Store.assignee_of_task taskFound, assigned], ?_⟩
    rw [Store.state_of_task taskFound]
    exact active.imp (congrArg some) (congrArg some)
  have online := idle agentId taskId held
  rw [Store.status_of_agent agentFound] at online
  exact fun offline => online (congrArg some offline)

/-- The agent ends its task and declares itself offline, and another agent takes the next. -/
def relievedAgent (deployment : Deployment) : List MasterStep :=
  firstPoll deployment ++
    [.calm deployment 3000 (AgentClient.updateTaskStatus "1" "succeeded" (some 0) none none none),
      .calm deployment 4000 (AgentClient.sendHeartbeat "agent-1" "offline"),
      .calm deployment 5000 (AgentClient.registerAgent
        { agentId := "agent-2", os := "linux", version := "dev", cpuCores := 4, ramMb := 1024 }),
      .calm deployment 6000 (.createTask (.json (.object [("command", .string "true")]))),
      .calm deployment 7000 (AgentClient.pollTasks "agent-2" 1)]

theorem healthy_relievedAgent (deployment : Deployment) :
    ∀ step ∈ relievedAgent deployment, step.Healthy deployment := by
  simp [relievedAgent, firstPoll, MasterStep.healthy_calm]

theorem offline_agents_hold_nothing_relievedAgent :
    let reached := run (masterStep .mongo {}) Store.empty (relievedAgent .mongo)
    (reached.agent "agent-1").map AgentRow.status = some .offline ∧
      ∃ agent, reached.agent "agent-2" = some agent ∧ agent.status ≠ .offline := by
  intro reached
  refine ⟨rfl, _, rfl, ?_⟩
  refine offline_agents_hold_nothing {} (relievedAgent .mongo) (healthy_relievedAgent .mongo) ?_
    2 _ "agent-2" _ rfl (.inl rfl) rfl rfl
  refine ⟨trivial, trivial, trivial, trivial, ?_, trivial, trivial, trivial, trivial⟩
  intro heartbeat _ _ taskId task found _
  have stored := KeyedTable.mem_of_lookup found
  cases List.mem_singleton.mp stored
  rfl

/-- The agent of a running task declares itself offline. -/
def offlineHeartbeat (deployment : Deployment) : List MasterStep :=
  firstPoll deployment ++
    [.calm deployment 3000 (AgentClient.sendHeartbeat "agent-1" "offline")]

theorem offline_agent_with_task :
    (∀ step ∈ offlineHeartbeat .mongo, step.Healthy .mongo) ∧
      ∃ task agent,
        (run (masterStep .mongo {}) Store.empty (offlineHeartbeat .mongo)).task 1 = some task ∧
          task.state = .running ∧ task.assignedAgent = some "agent-1" ∧
          (run (masterStep .mongo {}) Store.empty (offlineHeartbeat .mongo)).agent "agent-1" =
            some agent ∧ agent.status = .offline := by
  refine ⟨?_, _, _, rfl, rfl, rfl, rfl, rfl⟩
  intro step member
  rcases List.mem_append.mp member with polled | late
  · exact healthy_firstPoll .mongo step polled
  · rw [List.mem_singleton.mp late]
    exact MasterStep.healthy_calm _ _ _

end DistributedComputing
