import DistributedComputing.OperationFrames
import DistributedComputing.StepCalls

/-!
# Terminal states under interleaved requests

The handlers run in parallel, so that other broker calls may come between the check and
the write of a status report.  The write does not look at the state again: it overwrites
whatever the others have left.
-/

namespace DistributedComputing

open TransitionRuns ControlService Store

/-- The master between broker calls: the tables, and the status reports that have passed
the check and wait to be written. -/
structure Server where
  store : Store
  pending : List (Int × TaskStatusUpdate) := []

/-- One broker call.  A request arrives and makes its first call, a report that waits
makes its second, or the maintenance thread makes a pass. -/
inductive ServerStep
  | request (attempts : List Attempt) (request : Request)
  | write (attempts : List Attempt) (index : Nat)
  | sweep (attempts : List Attempt)

def serverStep (deployment : Deployment) (config : MasterConfig) (server : Server) :
    ServerStep → Server
  | .request attempts (.updateTaskStatus taskIdRaw body) =>
      match checkStatusUpdate deployment.broker attempts taskIdRaw body server.store with
      | (.error _, after) => { server with store := after }
      | (.ok write, after) => { store := after, pending := server.pending ++ [write] }
  | .request attempts request =>
      { server with
        store := (ControlService.handle config deployment.broker { first := attempts } request
          server.store).2 }
  | .write attempts index =>
      match server.pending[index]? with
      | none => server
      | some (taskId, update) =>
          { store := (writeStatusUpdate deployment.broker attempts taskId update server.store).2
            pending := server.pending.eraseIdx index }
  | .sweep attempts =>
      { server with
        store := maintenance deployment.broker attempts config.offlineAfterSec server.store }

section Handlers

variable (deployment : Deployment) (attempts : List Attempt) (store : Store)

theorem writeStatusUpdate_writesOnly (taskId : Int) (update : TaskStatusUpdate) :
    WritesOnly taskId update.state store
      (writeStatusUpdate deployment.broker attempts taskId update store).2 := by
  have written := deployment.updateTaskStatus_writesOnly attempts store taskId update
  unfold writeStatusUpdate
  rcases ended : deployment.broker.updateTaskStatus attempts taskId update store with
    ⟨_ | _ | _, after⟩ <;> rw [ended] at written <;> exact written

/-- A whole request or a sweep, whatever fails in it, keeps what is over. -/
theorem masterStep_keepsTerminal (config : MasterConfig) (step : MasterStep) :
    KeepsTerminal store (masterStep deployment config store step) := by
  have call := masterStep_call deployment config store step
  generalize masterStep deployment config store step = after at call
  cases call with
  | quiet => exact KeepsTerminal.refl store
  | upsertAgent schedule agentId body agent _ =>
      exact (deployment.upsertAgent_keepsFinished schedule.first store agent).keepsTerminal
  | agentHeartbeat schedule agentId body heartbeat _ =>
      exact (deployment.updateHeartbeat_keepsFinished schedule.first store heartbeat).keepsTerminal
  | pollTasks schedule agentId body freeSlots _ =>
      exact (deployment.pollTasksForAgent_keepsFinished schedule.first store agentId
        freeSlots).keepsTerminal
  | createTask schedule body task _ =>
      exact (deployment.createTask_keepsFinished schedule.first store task).keepsTerminal
  | updateTaskStatus schedule taskIdRaw body taskId update row _ _ found valid =>
      -- the check and the write find the same task
      refine (deployment.updateTaskStatus_writesOnly schedule.second store taskId
        update).keepsTerminal fun held stateEq => ?_
      rw [state_of_task found, Option.some_inj] at stateEq
      subst stateEq
      by_cases same : row.state = update.state
      · exact .inr same
      · exact .inl (Ledger.not_terminal_of_valid valid same)
  | cancelTask schedule taskIdRaw taskId _ =>
      exact (deployment.cancelTask_keepsFinished schedule.first store taskId).keepsTerminal
  | sweep attempts =>
      exact (deployment.markOfflineAgentsAndRequeue_keepsFinished attempts store
        config.offlineAfterSec).keepsTerminal

end Handlers

/-- A write finds its task not over yet, or in the state that it reports. -/
def WritesUnfinished (server : Server) : ServerStep → Prop
  | .write _ index => ∀ taskId update, server.pending[index]? = some (taskId, update) →
      ∀ task, server.store.task taskId = some task →
        task.state.terminal = false ∨ task.state = update.state
  | _ => True

section Runs

variable (deployment : Deployment) (config : MasterConfig)

theorem serverStep_keepsTerminal {server : Server} {step : ServerStep}
    (unfinished : WritesUnfinished server step) :
    KeepsTerminal server.store (serverStep deployment config server step).store := by
  cases step with
  | sweep attempts =>
      exact (deployment.markOfflineAgentsAndRequeue_keepsFinished attempts server.store
        config.offlineAfterSec).keepsTerminal
  | write attempts index =>
      simp only [serverStep]
      split
      · exact KeepsTerminal.refl server.store
      · rename_i taskId update waiting
        refine (writeStatusUpdate_writesOnly deployment attempts server.store taskId
          update).keepsTerminal fun held stateEq => ?_
        obtain ⟨task, found, rfl⟩ := exists_task_of_state stateEq
        exact unfinished taskId update waiting task found
  | request attempts request =>
      by_cases report : ∃ taskIdRaw body, request = .updateTaskStatus taskIdRaw body
      · obtain ⟨taskIdRaw, body, rfl⟩ := report
        have same := checkStatusUpdate_store deployment attempts server.store taskIdRaw body
        simp only [serverStep]
        rcases ended : checkStatusUpdate deployment.broker attempts taskIdRaw body
          server.store with ⟨_ | write, after⟩ <;>
        · rw [ended] at same
          subst same
          exact KeepsTerminal.refl _
      · have kept := masterStep_keepsTerminal deployment server.store config
          (.request { first := attempts } request)
        cases request with
        | updateTaskStatus taskIdRaw body => exact absurd ⟨taskIdRaw, body, rfl⟩ report
        | upsertAgent agentId body => exact kept
        | agentHeartbeat agentId body => exact kept
        | pollTasks agentId body => exact kept
        | createTask body => exact kept
        | getTask taskIdRaw => exact kept
        | getAgent agentId => exact kept
        | listTasks state agentId limit offset => exact kept
        | listAgents status limit offset => exact kept
        | cancelTask taskIdRaw => exact kept

theorem serverRun_keepsTerminal {start : Server} {steps : List ServerStep}
    (unfinished : Along (serverStep deployment config) WritesUnfinished start steps) :
    KeepsTerminal start.store (run (serverStep deployment config) start steps).store := by
  induction steps generalizing start with
  | nil => exact KeepsTerminal.refl start.store
  | cons step steps ih =>
      exact (serverStep_keepsTerminal deployment config unfinished.1).trans _ _ _
        (ih unfinished.2)

theorem terminal_states_absorbing (start : Server) (before after : List ServerStep)
    (unfinished : Along (serverStep deployment config) WritesUnfinished start (before ++ after))
    (taskId : Int) (task : TaskRow)
    (found : (run (serverStep deployment config) start before).store.task taskId = some task)
    (isOver : task.state.terminal = true) :
    ∃ later,
      (run (serverStep deployment config) start (before ++ after)).store.task taskId =
        some later ∧ later.state = task.state := by
  rw [along_append] at unfinished
  have kept := serverRun_keepsTerminal deployment config unfinished.2 taskId task.state
    (state_of_task found) isOver
  rw [← run_append] at kept
  exact exists_task_of_state kept

end Runs

/-- Of two polled tasks one is canceled.  Then a report on the other passes the check and
is written, and the agent is swept. -/
def cancelThenReport : List ServerStep × List ServerStep :=
  let calm := fun now : Time => [Deployment.mongo.calmAttempt now]
  let create := fun now : Time =>
    ServerStep.request (calm now) (.createTask (.json (.object [("command", .string "true")])))
  ([.request (calm 0) (AgentClient.registerAgent
      { agentId := "agent-1", os := "linux", version := "dev", cpuCores := 4, ramMb := 1024 }),
    create 1000, create 1000, .request (calm 2000) (AgentClient.pollTasks "agent-1" 2),
    .request (calm 3000) (.cancelTask "1")],
   [.request (calm 4000) (AgentClient.updateTaskStatus "2" "succeeded" (some 0) none none none),
    .write (calm 5000) 0, .sweep (calm 500000)])

theorem terminal_states_absorbing_cancelThenReport :
    let server := run (serverStep .mongo {}) { store := Store.empty }
      (cancelThenReport.1 ++ cancelThenReport.2)
    (∃ later, server.store.task 1 = some later ∧ later.state = .canceled) ∧
      ∃ other, server.store.task 2 = some other ∧ other.state = .succeeded := by
  constructor
  · -- the write finds the other task running
    have unfinished : WritesUnfinished (run (serverStep .mongo {}) { store := Store.empty }
        (cancelThenReport.1 ++ cancelThenReport.2.take 1))
          (.write [Deployment.mongo.calmAttempt 5000] 0) := by
      rintro taskId update ⟨⟩ task ⟨⟩
      exact .inl rfl
    exact terminal_states_absorbing .mongo {} { store := Store.empty } cancelThenReport.1
      cancelThenReport.2
      ⟨trivial, trivial, trivial, trivial, trivial, trivial, unfinished, trivial, trivial⟩
      1 _ rfl rfl
  · exact ⟨_, rfl, rfl⟩

/-- A task is polled, the report of its success passes the check, and then it is
canceled. -/
def reportThenCancel : List ServerStep :=
  let calm := fun now : Time => [Deployment.mongo.calmAttempt now]
  [.request (calm 0) (AgentClient.registerAgent
      { agentId := "agent-1", os := "linux", version := "dev", cpuCores := 4, ramMb := 1024 }),
    .request (calm 1000) (.createTask (.json (.object [("command", .string "true")]))),
    .request (calm 2000) (AgentClient.pollTasks "agent-1" 1),
    .request (calm 3000) (AgentClient.updateTaskStatus "1" "succeeded" (some 0) none none none),
    .request (calm 4000) (.cancelTask "1")]

theorem canceled_task_succeeds :
    (∃ task, (run (serverStep .mongo {}) { store := Store.empty } reportThenCancel).store.task 1 =
        some task ∧ task.state = .canceled) ∧
      ∃ task, (run (serverStep .mongo {}) { store := Store.empty }
        (reportThenCancel ++ [.write [Deployment.mongo.calmAttempt 5000] 0])).store.task 1 =
          some task ∧ task.state = .succeeded :=
  ⟨⟨_, rfl, rfl⟩, _, rfl, rfl⟩

end DistributedComputing
