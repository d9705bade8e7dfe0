import DistributedComputing.CallOrders
import DistributedComputing.TaskOutcomes
import DistributedComputing.WorkerFleet

/-!
# What follows the announcement of a task

A worker reports a task as running and then reads a clock twice and starts the process,
whatever it is answered.  It starts no process otherwise.
-/

namespace DistributedComputing

open TransitionRuns CallProgram

/-- The task that a request reports as running. -/
def Request.announced : Request → Option String
  | .updateTaskStatus taskIdRaw (.json body) =>
      if body.stringMember "state" = some (taskStateToApi .running) then some taskIdRaw else none
  | _ => none

theorem Request.exists_of_announced {request : Request} {taskIdRaw : String}
    (isAnnounced : request.announced = some taskIdRaw) :
    ∃ body, request = .updateTaskStatus taskIdRaw body := by
  cases request with
  | updateTaskStatus reported body =>
      cases body with
      | empty => cases isAnnounced
      | invalid what => cases isAnnounced
      | json value =>
          simp only [announced] at isAnnounced
          split at isAnnounced
          · cases isAnnounced
            exact ⟨_, rfl⟩
          · cases isAnnounced
  | _ => cases isAnnounced

theorem announced_updateTaskStatus (taskId : String) (state : TaskState) (exitCode : Option Int)
    (startedAt finishedAt errorMessage : Option String) :
    (AgentClient.updateTaskStatus taskId (taskStateToApi state) exitCode startedAt finishedAt
      errorMessage).announced = if state = .running then some taskId else none := by
  have compared : (AgentClient.updateTaskStatus taskId (taskStateToApi state) exitCode startedAt
      finishedAt errorMessage).announced =
        if some (taskStateToApi state) = some (taskStateToApi .running) then some taskId
        else none := by
    cases exitCode <;> cases startedAt <;> cases finishedAt <;> cases errorMessage <;> rfl
  rw [compared]
  cases state <;> simp [taskStateToApi]

/-- Where a worker stands: it has announced a task and reads a clock so many times before
it starts the process, or it has not. -/
inductive TaskTurn
  | settled
  | announced (taskId : String) (readings : Nat)

/-- The calls that a worker makes in a turn, and the turn after them. -/
def turnAfter : TaskTurn → WorkerCall → Option TaskTurn
  | .settled, .send request =>
      some (request.announced.elim .settled fun taskId => .announced taskId 2)
  | .settled, .fork _ _ _ _ _ => none
  | .settled, _ => some .settled
  | .announced taskId 0, .fork forked _ _ _ _ => if forked = taskId then some .settled else none
  | .announced taskId (readings + 1), .nowUtcIso8601 => some (.announced taskId readings)
  | .announced taskId (readings + 1), .steadyClock => some (.announced taskId readings)
  | .announced _ _, _ => none

/-- Only an announcement of the task leads to its turn. -/
theorem announced_of_turnAfter {turn : TaskTurn} {call : WorkerCall} {taskId : String}
    {readings : Nat} (after : turnAfter turn call = some (.announced taskId readings)) :
    (∃ earlier, turn = .announced taskId earlier) ∨
      ∃ request, call = .send request ∧ request.announced = some taskId := by
  cases turn with
  | settled =>
      cases call with
      | send request =>
          right
          refine ⟨request, rfl, ?_⟩
          cases isAnnounced : request.announced with
          | none => simp [turnAfter, isAnnounced] at after
          | some announced =>
              simp only [turnAfter, isAnnounced, Option.elim_some, Option.some_inj,
                TaskTurn.announced.injEq] at after
              rw [after.1]
      | _ => cases after
  | announced announced earlier =>
      left
      cases earlier with
      | zero =>
          cases call with
          | fork forked argv env stdoutPath stderrPath =>
              simp only [turnAfter] at after
              split at after <;> cases after
          | _ => cases after
      | succ earlier =>
          cases call with
          | nowUtcIso8601 =>
              cases after
              exact ⟨_, rfl⟩
          | steadyClock =>
              cases after
              exact ⟨_, rfl⟩
          | _ => cases after

/-- The worker is done with every task that it announced. -/
def Settles {Result : Type} (_ : Result) (turn : TaskTurn) : Prop :=
  turn = .settled

namespace WorkerApp

open AgentClient

/-- The call announces nothing and starts nothing. -/
def Settled (call : WorkerCall) : Prop :=
  turnAfter .settled call = some .settled

theorem settled_of_local (call : WorkerCall) (isLocal : call.Local) : Settled call := by
  cases call with
  | send request => cases isLocal
  | fork taskId argv env stdoutPath stderrPath => cases isLocal
  | _ => rfl

theorem settled_report {state : TaskState} (ended : state ≠ .running) (taskId : String)
    (exitCode : Option Int) (startedAt finishedAt errorMessage : Option String) :
    Settled (.send (updateTaskStatus taskId (taskStateToApi state) exitCode startedAt finishedAt
      errorMessage)) := by
  rw [Settled, turnAfter, announced_updateTaskStatus, if_neg ended]
  rfl

theorem follows_of_settled {Result : Type} {program : WorkerProgram Result}
    (issues : program.Issues Settled) : program.Follows turnAfter Settles .settled :=
  .of_issues (fun _ settled => settled) issues

theorem heartbeat_settled (config : WorkerConfig) (workerState : AgentStatus) :
    (heartbeat config workerState).Issues Settled :=
  .perform rfl fun _ => trivial

/-- From the first reading of the clock on. -/
theorem run_follows (config : WorkerConfig) (task : AgentClient.TaskDispatch)
    (lastCancelCheck : Int) :
    (TaskExecutor.run config.logDir task (isCanceled config task.taskId) (heartbeat config .busy)
      lastCancelCheck).Follows turnAfter Settles (.announced task.taskId 1) := by
  refine .perform rfl fun startedAt => .perform (if_pos rfl) fun forked => ?_
  cases forked with
  | none => rfl
  | some child =>
      refine .perform rfl fun start => follows_of_settled ?_
      exact TaskExecutor.waitLoop_issues settled_of_local
        (isCanceled_issues settled_of_local rfl) (heartbeat_settled config .busy) _ start child _
        child.waits lastCancelCheck

theorem handleTask_follows (config : WorkerConfig) (task : AgentClient.TaskDispatch) :
    (handleTask config task).Follows turnAfter Settles .settled := by
  cases handed : osMismatch config task with
  | true =>
      rw [handleTask, handed, if_pos rfl]
      refine .perform rfl fun now => follows_of_settled ?_
      have ended := settled_report (by decide : TaskState.failed ≠ .running)
      exact .bind (.perform (ended _ _ _ _ _) fun _ => trivial) fun _ => trivial
  | false =>
      rw [handleTask_eq handed]
      refine .perform rfl fun startedAt => ?_
      -- the report begins the turn of the task, whatever comes of it
      have announces : turnAfter .settled (.send (updateTaskStatus task.taskId
          (taskStateToApi .running) none (some startedAt) none none)) =
          some (.announced task.taskId 2) := by
        rw [turnAfter, announced_updateTaskStatus, if_pos rfl]
        rfl
      refine .perform announces fun answer => .perform rfl fun lastCancelCheck => ?_
      refine .bind (run_follows config task lastCancelCheck) ?_
      rintro exec _ rfl
      exact follows_of_settled (concludeTask_issues settled_of_local config task startedAt exec
        fun state ended _ _ _ _ => settled_report ended _ _ _ _ _)

theorem handleTasks_follows (config : WorkerConfig) (tasks : List AgentClient.TaskDispatch) :
    (handleTasks config tasks).Follows turnAfter Settles .settled := by
  induction tasks with
  | nil => rfl
  | cons task tasks ih =>
      refine .bind (handleTask_follows config task) ?_
      rintro exitCode _ rfl
      refine .bind ih ?_
      rintro others _ rfl
      rfl

theorem tickOnce_follows (config : WorkerConfig) :
    (tickOnce config).Follows turnAfter Settles .settled := by
  refine .perform rfl fun _ => .perform rfl fun answer => ?_
  split
  · rfl
  · exact handleTasks_follows config _

theorem run_follows_tick (config : WorkerConfig) :
    (WorkerApp.run config).Follows turnAfter Settles .settled := by
  refine .perform rfl fun registered => ?_
  cases isSuccess registered with
  | true => exact tickOnce_follows config
  | false => rfl

end WorkerApp

/-! ## The turns of the workers in a run -/

/-- What is left of the worker's program goes on from the turn. -/
def InTurn (pool : FleetPool) (agentId : String) (turn : TaskTurn) : Prop :=
  pool.InMode turnAfter Settles agentId turn

/-- The step is a call of the worker. -/
def FleetStep.isCallOf (agentId : String) : FleetStep → Bool
  | .call other _ => decide (other = agentId)
  | _ => false

theorem FleetStep.exists_of_isCallOf {agentId : String} {step : FleetStep}
    (isCall : step.isCallOf agentId = true) :
    ∃ surroundings, step = .call agentId surroundings := by
  cases step with
  | call other surroundings => exact ⟨surroundings, by rw [of_decide_eq_true isCall]⟩
  | _ => cases isCall

section Runs

variable (deployment : Deployment) (config : MasterConfig) {pool : FleetPool} {agentId : String}

/-- Only its own calls add to the deeds of a worker. -/
theorem deeds_fleetStep {step : FleetStep} (other : step.isCallOf agentId = false) :
    (fleetStep deployment config pool step).state.deeds agentId = pool.state.deeds agentId := by
  cases step with
  | run worker => rw [fleetStep, FleetStep.action, ThreadPool.step_start_state]
  | tickOnce worker => rw [fleetStep, FleetStep.action, ThreadPool.step_start_state]
  | master step => rfl
  | call calling surroundings =>
      have different : agentId ≠ calling := by
        rintro rfl
        simp [FleetStep.isCallOf] at other
      by_cases running : pool.Running calling
      · obtain ⟨call, next, found⟩ := running
        rw [fleetStep, FleetStep.action, ThreadPool.step_call_state found]
        exact Fleet.exec_others deployment config calling surroundings call pool.state agentId
          different
      · rw [fleetStep, FleetStep.action, ThreadPool.step_call_of_idle running]

theorem starts_follow {step : FleetStep} {id : String} {program : WorkerProgram TickResult}
    (starts : step.action = .start id program) : program.Follows turnAfter Settles .settled := by
  cases step with
  | run worker =>
      cases starts
      exact WorkerApp.run_follows_tick worker
  | tickOnce worker =>
      cases starts
      exact WorkerApp.tickOnce_follows worker
  | call other surroundings => cases starts
  | master step => cases starts

theorem fleetRun_follows (steps : List FleetStep) :
    (fleetRun deployment config steps).AllFollow turnAfter Settles := by
  have always : ∀ step ∈ steps, True := fun _ _ => trivial
  refine run_invariant_along (fleetStep deployment config) (fun pool step _ follow => ?_)
    (ThreadPool.allFollow_idle _) (along_of_forall _ always _)
  exact follow.step fun id program starts => ⟨.settled, starts_follow starts⟩

/-- The only process that a worker starts is that of the task it announced last. -/
theorem InTurn.fork {turn : TaskTurn} (inTurn : InTurn pool agentId turn) {taskId : String}
    {argv : List String} {env : List (String × String)} {stdoutPath stderrPath : String}
    {next : Option ChildProcess → WorkerProgram TickResult}
    (found : pool.threads agentId = some (.call (.fork taskId argv env stdoutPath stderrPath)
      next)) : turn = .announced taskId 0 := by
  obtain ⟨program, isProgram, follows⟩ := inTurn
  rw [found, Option.some_inj] at isProgram
  subst isProgram
  obtain ⟨later, allowed, _⟩ := follows
  cases turn with
  | settled => cases allowed
  | announced announced readings =>
      cases readings with
      | succ readings => cases allowed
      | zero =>
          simp only [turnAfter] at allowed
          split at allowed
          · rename_i same
            rw [same]
          · cases allowed

/-- A worker that has announced a task has a call to make. -/
theorem InTurn.running {taskId : String} {readings : Nat}
    (inTurn : InTurn pool agentId (.announced taskId readings)) : pool.Running agentId :=
  ThreadPool.InMode.running inTurn fun _ settles => by cases settles

/-- After the readings of the clock the next call starts the process. -/
theorem InTurn.exists_fork {taskId : String}
    (inTurn : InTurn pool agentId (.announced taskId 0)) :
    ∃ argv env stdoutPath stderrPath next, pool.threads agentId =
      some (.call (.fork taskId argv env stdoutPath stderrPath) next) := by
  obtain ⟨request, next, found⟩ := inTurn.running
  obtain ⟨program, isProgram, follows⟩ := inTurn
  rw [found, Option.some_inj] at isProgram
  subst isProgram
  obtain ⟨later, allowed, _⟩ := follows
  cases request with
  | fork forked argv env stdoutPath stderrPath =>
      simp only [turnAfter] at allowed
      split at allowed
      · rename_i same
        exact ⟨argv, env, stdoutPath, stderrPath, next, same ▸ found⟩
      · cases allowed
  | _ => cases allowed

/-- The turn after a call of the worker. -/
theorem InTurn.call {turn : TaskTurn} (inTurn : InTurn pool agentId turn) {call : WorkerCall}
    {next : call.Reply → WorkerProgram TickResult}
    (found : pool.threads agentId = some (.call call next)) (surroundings : Surroundings) :
    ∃ later, turnAfter turn call = some later ∧
      InTurn (fleetStep deployment config pool (.call agentId surroundings)) agentId later :=
  ThreadPool.InMode.call inTurn found surroundings

/-- Other steps leave the worker in its turn, or start it when it is done. -/
theorem InTurn.other {turn : TaskTurn} (inTurn : InTurn pool agentId turn) {step : FleetStep}
    (other : step.isCallOf agentId = false) :
    InTurn (fleetStep deployment config pool step) agentId turn ∨
      ¬ pool.Running agentId ∧
        InTurn (fleetStep deployment config pool step) agentId .settled := by
  have noCall : ∀ surroundings, step.action ≠ .call agentId surroundings := by
    intro surroundings same
    cases step with
    | call calling _ =>
        cases same
        simp [FleetStep.isCallOf] at other
    | _ => cases same
  rcases ThreadPool.threads_step_of_other (fleetService deployment config) noCall with
    same | ⟨idle, program, starts, found⟩
  · obtain ⟨program, isProgram, follows⟩ := inTurn
    exact .inl ⟨program, same.trans isProgram, follows⟩
  · exact .inr ⟨idle, program, found, starts_follow starts⟩

/-- After an announcement a worker moves by one reading of a clock with each of its calls. -/
theorem InTurn.reading {taskId : String} {readings : Nat}
    (inTurn : InTurn pool agentId (.announced taskId (readings + 1)))
    (surroundings : Surroundings) :
    InTurn (fleetStep deployment config pool (.call agentId surroundings)) agentId
      (.announced taskId readings) := by
  obtain ⟨call, next, found⟩ := inTurn.running
  obtain ⟨later, allowed, continued⟩ := inTurn.call deployment config found surroundings
  cases call with
  | nowUtcIso8601 =>
      cases allowed
      exact continued
  | steadyClock =>
      cases allowed
      exact continued
  | _ => cases allowed

end Runs

end DistributedComputing
