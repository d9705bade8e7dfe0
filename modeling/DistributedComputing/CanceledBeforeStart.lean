import DistributedComputing.AwaitedTasks
import DistributedComputing.TerminalStates

/-!
# Tasks that are canceled before their turn

A worker reports a task as running before it starts the process, and starts the process
whatever the master answers.  So it runs a task that was canceled while it waited behind
the earlier tasks of its batch, unless the worker or its `fork` fails before.
-/

namespace DistributedComputing

open TransitionRuns CallProgram WorkerApp

section Claims

variable (deployment : Deployment) (config : MasterConfig)

/-- The worker's next call reports the task as running, the master handles the report, and
the task is canceled by then. -/
def AnnouncesCanceled (pool : FleetPool) (agentId : String) (surroundings : Surroundings)
    (taskIdRaw : String) : Prop :=
  (∃ request next, pool.threads agentId = some (.call (.send request) next) ∧
      request.announced = some taskIdRaw) ∧
    surroundings.transport ≠ .requestLost ∧ CanceledIn pool.state.store taskIdRaw

/-- The worker's next call starts the process of the task, and it succeeds. -/
def Launches (pool : FleetPool) (agentId : String) (surroundings : Surroundings)
    (taskIdRaw : String) : Prop :=
  (∃ argv env stdoutPath stderrPath next, pool.threads agentId =
      some (.call (.fork taskIdRaw argv env stdoutPath stderrPath) next)) ∧
    surroundings.child ≠ none

/-- After such a report the worker does not start the task. -/
def LaunchesNoCanceled (steps : List FleetStep) : Prop :=
  ∀ before agentId surroundings between forking after taskIdRaw,
    steps = before ++ .call agentId surroundings :: (between ++ .call agentId forking :: after) →
    AnnouncesCanceled (fleetRun deployment config before) agentId surroundings taskIdRaw →
    ¬ Launches (fleetRun deployment config (before ++ .call agentId surroundings :: between))
      agentId forking taskIdRaw

/-- After such a report the worker does not come to its third call, or that call, which is
the `fork`, fails. -/
def FailsToLaunch (steps : List FleetStep) : Prop :=
  ∀ before agentId surroundings between forking after taskIdRaw,
    steps = before ++ .call agentId surroundings :: (between ++ .call agentId forking :: after) →
    AnnouncesCanceled (fleetRun deployment config before) agentId surroundings taskIdRaw →
    between.countP (FleetStep.isCallOf agentId) = 2 → forking.child = none

/-- The step cancels no task that a worker has received and not begun to handle. -/
def SparesAwaiting (pool : FleetPool) (step : FleetStep) : Prop :=
  ∀ agentId, ∀ taskIdRaw ∈ WorkerDeed.awaiting (pool.state.deeds agentId),
    CanceledIn (fleetStep deployment config pool step).state.store taskIdRaw →
      CanceledIn pool.state.store taskIdRaw

end Claims

/-! ## After the report of a canceled task -/

section Reports

variable (deployment : Deployment) (config : MasterConfig) {agentId taskIdRaw : String}

theorem exec_keepsTerminal (surroundings : Surroundings) (call : WorkerCall) (fleet : Fleet) :
    Store.KeepsTerminal fleet.store
      (Fleet.exec deployment config agentId surroundings call fleet).2.store := by
  cases call with
  | send request =>
      change Store.KeepsTerminal fleet.store
        (Fleet.send deployment config surroundings request fleet.store).2
      rcases Fleet.send_store deployment config surroundings request fleet.store with
        lost | handled
      · rw [lost]
        exact Store.KeepsTerminal.refl _
      · rw [handled]
        exact masterStep_keepsTerminal deployment fleet.store config _
  | _ => exact Store.KeepsTerminal.refl _

theorem fleetStep_keepsTerminal (pool : FleetPool) (step : FleetStep) :
    Store.KeepsTerminal pool.state.store (fleetStep deployment config pool step).state.store := by
  have started : ∀ id program,
      (ThreadPool.step (fleetService deployment config) pool (.start id program)).state =
        pool.state := fun id program => ThreadPool.step_start_state id program
  cases step with
  | run worker =>
      rw [fleetStep, FleetStep.action, started]
      exact Store.KeepsTerminal.refl _
  | tickOnce worker =>
      rw [fleetStep, FleetStep.action, started]
      exact Store.KeepsTerminal.refl _
  | master step => exact masterStep_keepsTerminal deployment pool.state.store config step
  | call other surroundings =>
      by_cases running : pool.Running other
      · obtain ⟨call, next, found⟩ := running
        rw [fleetStep, FleetStep.action, ThreadPool.step_call_state found]
        exact exec_keepsTerminal deployment config surroundings call pool.state
      · rw [fleetStep, FleetStep.action, ThreadPool.step_call_of_idle running]
        exact Store.KeepsTerminal.refl _

theorem CanceledIn.fleetStep {pool : FleetPool} (canceled : CanceledIn pool.state.store taskIdRaw)
    (step : FleetStep) :
    CanceledIn (fleetStep deployment config pool step).state.store taskIdRaw := by
  obtain ⟨taskId, isId, state⟩ := canceled
  exact ⟨taskId, isId, fleetStep_keepsTerminal deployment config pool step taskId _ state rfl⟩

/-- So many calls after a worker has reported a canceled task as running. -/
structure Reported (pool : FleetPool) (agentId taskIdRaw : String) (calls : Nat) : Prop where
  canceled : CanceledIn pool.state.store taskIdRaw
  dropped : taskIdRaw ∉ WorkerDeed.awaiting (pool.state.deeds agentId)
  approaching : ∀ readings, calls + readings = 2 →
    InTurn pool agentId (.announced taskIdRaw readings)
  past : 2 < calls → ∃ turn, InTurn pool agentId turn ∧
    ∀ readings, turn ≠ .announced taskIdRaw readings

/-- The worker starts the process with its third call, and never again. -/
theorem Reported.launches_iff {pool : FleetPool} {calls : Nat}
    (reported : Reported pool agentId taskIdRaw calls) (forking : Surroundings) :
    Launches pool agentId forking taskIdRaw ↔ calls = 2 ∧ forking.child ≠ none := by
  constructor
  · rintro ⟨⟨argv, env, stdoutPath, stderrPath, next, found⟩, succeeds⟩
    refine ⟨?_, succeeds⟩
    by_cases past : 2 < calls
    · obtain ⟨turn, inTurn, other⟩ := reported.past past
      exact absurd (inTurn.fork found) (other 0)
    · have inTurn := reported.approaching (2 - calls) (by omega)
      have isLast := (TaskTurn.announced.inj (inTurn.fork found)).2
      omega
  · rintro ⟨rfl, succeeds⟩
    exact ⟨(reported.approaching 0 rfl).exists_fork, succeeds⟩

/-- The report itself. -/
theorem reported_of_announces {steps : List FleetStep} {surroundings : Surroundings}
    (announces : AnnouncesCanceled (fleetRun deployment config steps) agentId surroundings
      taskIdRaw) :
    Reported (fleetRun deployment config (steps ++ [.call agentId surroundings])) agentId
      taskIdRaw 0 := by
  obtain ⟨⟨request, next, found, isAnnounced⟩, _, canceled⟩ := announces
  obtain ⟨turn, inTurn⟩ : ∃ turn, InTurn (fleetRun deployment config steps) agentId turn := by
    obtain ⟨turn, follows⟩ := fleetRun_follows deployment config steps agentId _ found
    exact ⟨turn, _, found, follows⟩
  have stepped : fleetRun deployment config (steps ++ [.call agentId surroundings]) =
      fleetStep deployment config (fleetRun deployment config steps)
        (.call agentId surroundings) := run_append ..
  rw [stepped]
  refine ⟨canceled.fleetStep deployment config _, ?_, ?_, fun past => absurd past (by omega)⟩
  · obtain ⟨body, rfl⟩ := Request.exists_of_announced isAnnounced
    rw [fleetStep, FleetStep.action, ThreadPool.step_call_state found]
    intro member
    have deeds : (Fleet.exec deployment config agentId surroundings
        (.send (.updateTaskStatus taskIdRaw body))
          (fleetRun deployment config steps).state).2.deeds agentId =
        (fleetRun deployment config steps).state.deeds agentId ++ [.exchange _ _] :=
      Fleet.record_deeds_self _ agentId _
    rw [show (fleetService deployment config).exec = Fleet.exec deployment config from rfl, deeds,
      WorkerDeed.awaiting_concat] at member
    simpa using (List.mem_filter.mp member).2
  · rintro readings isTwo
    obtain ⟨later, allowed, continued⟩ := inTurn.call deployment config found surroundings
    cases turn with
    | announced other earlier => cases earlier <;> cases allowed
    | settled =>
        rw [turnAfter, isAnnounced] at allowed
        cases allowed
        rwa [show readings = 2 by omega]

/-- A call of the worker after the report. -/
theorem Reported.call {steps : List FleetStep} {calls : Nat}
    (reported : Reported (fleetRun deployment config steps) agentId taskIdRaw calls)
    (surroundings : Surroundings) (past : 2 < calls + 1) :
    ∃ turn, InTurn (fleetStep deployment config (fleetRun deployment config steps)
      (.call agentId surroundings)) agentId turn ∧
        ∀ readings, turn ≠ .announced taskIdRaw readings := by
  by_cases third : calls = 2
  · have inTurn := reported.approaching 0 third
    obtain ⟨argv, env, stdoutPath, stderrPath, next, found⟩ := inTurn.exists_fork
    obtain ⟨turn, allowed, continued⟩ := inTurn.call deployment config found surroundings
    rw [turnAfter, if_pos rfl, Option.some_inj] at allowed
    subst allowed
    exact ⟨_, continued, fun readings same => by cases same⟩
  · obtain ⟨turn, inTurn, other⟩ := reported.past (by omega)
    by_cases running : (fleetRun deployment config steps).Running agentId
    · obtain ⟨call, next, found⟩ := running
      obtain ⟨later, allowed, continued⟩ := inTurn.call deployment config found surroundings
      refine ⟨later, continued, ?_⟩
      rintro readings rfl
      rcases announced_of_turnAfter allowed with ⟨earlier, same⟩ | ⟨request, rfl, isAnnounced⟩
      · exact other earlier same
      · -- the task is not awaited any more
        exact reported.dropped (awaiting_of_announced deployment config found isAnnounced)
    · rw [fleetStep, FleetStep.action, ThreadPool.step_call_of_idle running]
      exact ⟨turn, inTurn, other⟩

/-- A step of the system after the report. -/
theorem Reported.step {steps : List FleetStep} {calls : Nat}
    (reported : Reported (fleetRun deployment config steps) agentId taskIdRaw calls)
    (step : FleetStep) :
    Reported (fleetRun deployment config (steps ++ [step])) agentId taskIdRaw
      (calls + if step.isCallOf agentId then 1 else 0) := by
  have stepped : fleetRun deployment config (steps ++ [step]) =
      fleetStep deployment config (fleetRun deployment config steps) step := run_append ..
  have canceled := reported.canceled.fleetStep deployment config step
  have dropped : taskIdRaw ∉ WorkerDeed.awaiting
      ((fleetStep deployment config (fleetRun deployment config steps) step).state.deeds
        agentId) := by
    intro member
    rcases awaiting_fleetStep deployment config member with before | spared
    · exact reported.dropped before
    · exact spared canceled
  rw [stepped]
  by_cases isCall : step.isCallOf agentId = true
  · obtain ⟨surroundings, rfl⟩ := FleetStep.exists_of_isCallOf isCall
    rw [if_pos isCall]
    refine ⟨canceled, dropped, ?_, reported.call deployment config surroundings⟩
    intro readings isTwo
    exact (reported.approaching (readings + 1) (by omega)).reading deployment config surroundings
  · rw [if_neg isCall]
    rw [Bool.not_eq_true] at isCall
    refine ⟨canceled, dropped, ?_, ?_⟩
    · intro readings isTwo
      have inTurn := reported.approaching readings isTwo
      rcases inTurn.other deployment config isCall with same | ⟨idle, _⟩
      · exact same
      · exact absurd inTurn.running idle
    · intro past
      obtain ⟨turn, inTurn, other⟩ := reported.past past
      rcases inTurn.other deployment config isCall with same | ⟨_, settled⟩
      · exact ⟨turn, same, other⟩
      · exact ⟨.settled, settled, fun readings same => by cases same⟩

/-- Any steps of the system after the report. -/
theorem Reported.run {steps : List FleetStep} {calls : Nat}
    (reported : Reported (fleetRun deployment config steps) agentId taskIdRaw calls)
    (between : List FleetStep) :
    Reported (fleetRun deployment config (steps ++ between)) agentId taskIdRaw
      (calls + between.countP (FleetStep.isCallOf agentId)) := by
  induction between generalizing steps calls with
  | nil =>
      rw [List.append_nil]
      exact reported
  | cons step between ih =>
      have rest := ih (reported.step deployment config step)
      rw [List.append_assoc, List.singleton_append] at rest
      rw [List.countP_cons, Nat.add_comm (List.countP _ between), ← Nat.add_assoc]
      exact rest

/-- After the report of a canceled task the third call of the worker starts it. -/
theorem launches_of_announces_iff {before between : List FleetStep}
    {surroundings forking : Surroundings}
    (announces : AnnouncesCanceled (fleetRun deployment config before) agentId surroundings
      taskIdRaw) :
    Launches (fleetRun deployment config (before ++ .call agentId surroundings :: between))
        agentId forking taskIdRaw ↔
      between.countP (FleetStep.isCallOf agentId) = 2 ∧ forking.child ≠ none := by
  have reported :=
    (reported_of_announces deployment config announces).run deployment config between
  rw [List.append_assoc, List.singleton_append, Nat.zero_add] at reported
  exact reported.launches_iff forking

end Reports

/-- A worker launches a canceled task, unless its third call after the report is missing or
fails. -/
theorem launches_no_canceled_task (deployment : Deployment) (config : MasterConfig)
    (steps : List FleetStep) :
    LaunchesNoCanceled deployment config steps ↔ FailsToLaunch deployment config steps := by
  constructor
  · intro launchesNone before agentId surroundings between forking after taskIdRaw split announces
      third
    have none := launchesNone before agentId surroundings between forking after taskIdRaw split
      announces
    rw [launches_of_announces_iff deployment config announces] at none
    by_contra succeeds
    exact none ⟨third, succeeds⟩
  · intro fails before agentId surroundings between forking after taskIdRaw split announces launches
    rw [launches_of_announces_iff deployment config announces] at launches
    exact launches.2 (fails before agentId surroundings between forking after taskIdRaw split
      announces launches.1)

/-! ## Runs with canceled tasks -/

section Runs

variable {deployment : Deployment} {config : MasterConfig}

/-- No worker awaits a canceled task. -/
def NoneCanceled (fleet : Fleet) : Prop :=
  ∀ agentId, ∀ taskIdRaw ∈ WorkerDeed.awaiting (fleet.deeds agentId),
    ¬ CanceledIn fleet.store taskIdRaw

theorem noneCanceled_fleetStep {pool : FleetPool} {step : FleetStep}
    (spares : SparesAwaiting deployment config pool step) (fresh : NoneCanceled pool.state) :
    NoneCanceled (fleetStep deployment config pool step).state := by
  intro agentId taskIdRaw member canceled
  rcases awaiting_fleetStep deployment config member with awaited | spared
  · exact fresh agentId taskIdRaw awaited (spares agentId taskIdRaw awaited canceled)
  · exact spared canceled

theorem fleetRun_noneCanceled {steps : List FleetStep}
    (spares : Along (fleetStep deployment config) (SparesAwaiting deployment config)
      (ThreadPool.idle { store := Store.empty }) steps) :
    NoneCanceled (fleetRun deployment config steps).state := by
  have start : NoneCanceled { store := Store.empty } := by
    intro agentId taskIdRaw member
    cases member
  have kept : ∀ pool step, SparesAwaiting deployment config pool step →
      NoneCanceled pool.state → NoneCanceled (fleetStep deployment config pool step).state :=
    fun _ _ => noneCanceled_fleetStep
  exact run_invariant_along (fleetStep deployment config) kept start spares

/-- In a run in which no task is canceled while a worker awaits it, no worker reports a
canceled task as running. -/
theorem failsToLaunch_of_spares {steps : List FleetStep}
    (spares : Along (fleetStep deployment config) (SparesAwaiting deployment config)
      (ThreadPool.idle { store := Store.empty }) steps) :
    FailsToLaunch deployment config steps := by
  rintro before agentId surroundings between forking after taskIdRaw rfl
    ⟨⟨request, next, found, isAnnounced⟩, _, canceled⟩ _
  have sparedBefore := ((along_append _ _ _ before _).mp spares).1
  exact absurd canceled (fleetRun_noneCanceled sparedBefore agentId taskIdRaw
    (awaiting_of_announced deployment config found isAnnounced))

/-- The step cancels nothing. -/
theorem sparesAwaiting_of_kept {pool : FleetPool} {step : FleetStep}
    (kept : ∀ row ∈ (fleetStep deployment config pool step).state.store.tasks.rows,
      row.state = .canceled → pool.state.store.ledger.state row.taskId = some .canceled) :
    SparesAwaiting deployment config pool step := by
  rintro agentId taskIdRaw _ ⟨taskId, isId, canceled⟩
  obtain ⟨row, found, isCanceled⟩ := Store.exists_task_of_state canceled
  have held := kept row (KeyedTable.mem_of_lookup found) isCanceled
  rw [KeyedTable.key_of_lookup found] at held
  exact ⟨taskId, isId, held⟩

/-- The step finds no worker with a task that it awaits. -/
theorem sparesAwaiting_of_none {pool : FleetPool} {step : FleetStep}
    (none : ∀ agentId, WorkerDeed.awaiting (pool.state.deeds agentId) = []) :
    SparesAwaiting deployment config pool step := by
  intro agentId taskIdRaw member
  rw [none agentId] at member
  cases member

/-- A worker without calls has done nothing. -/
theorem deeds_fleetRun {agentId : String} {steps : List FleetStep}
    (silent : ∀ step ∈ steps, step.isCallOf agentId = false) :
    (fleetRun deployment config steps).state.deeds agentId = [] := by
  have kept : ∀ pool step, step.isCallOf agentId = false → pool.state.deeds agentId = [] →
      (fleetStep deployment config pool step).state.deeds agentId = [] :=
    fun pool step other none => (deeds_fleetStep deployment config other).trans none
  exact run_invariant_along (fleetStep deployment config) kept rfl (along_of_forall _ silent _)

end Runs

/-- Of two tasks the first is canceled before the poll, so that the worker runs the second. -/
def canceledBeforePoll (deployment : Deployment) : List FleetStep :=
  let create : MasterStep := .calm deployment 0 (.createTask (.json (.object
    [("command", .string "true")])))
  .master create :: .master create :: .master (.calm deployment 0 (.cancelTask "1")) ::
    .run { agentId := "agent-1", uploadLogs := false } :: callsAt deployment "agent-1" 8 1000

/-- The second task is canceled when its process runs. -/
def canceledAfterLaunch (deployment : Deployment) : List FleetStep :=
  .master (.calm deployment 1000 (.cancelTask "2")) :: callsAt deployment "agent-1" 2 1000

theorem awaiting_canceledBeforePoll (agentId : String) :
    WorkerDeed.awaiting ((fleetRun isoPgsql {} (canceledBeforePoll isoPgsql)).state.deeds
      agentId) = [] := by
  by_cases same : agentId = "agent-1"
  · rw [same]
    rfl
  · rw [deeds_fleetRun]
    · rfl
    · simpa [canceledBeforePoll, callsAt, FleetStep.isCallOf] using Ne.symm same

theorem launches_no_canceled_task_canceledAroundRun :
    let steps := canceledBeforePoll isoPgsql ++ canceledAfterLaunch isoPgsql
    let fleet := (fleetRun isoPgsql {} steps).state
    LaunchesNoCanceled isoPgsql {} steps ∧ CanceledIn fleet.store "1" ∧
      CanceledIn fleet.store "2" ∧ WorkerDeed.launched (fleet.deeds "agent-1") = ["2"] := by
  refine ⟨(launches_no_canceled_task isoPgsql {} _).mpr (failsToLaunch_of_spares ?_),
    ⟨1, by decide, rfl⟩, ⟨2, by decide, rfl⟩, rfl⟩
  refine (along_append ..).mpr ⟨?_, sparesAwaiting_of_none awaiting_canceledBeforePoll, ?_⟩
  · refine ⟨?_, ?_, sparesAwaiting_of_none fun _ => rfl, ?_⟩
    · exact sparesAwaiting_of_kept (by decide)
    · exact sparesAwaiting_of_kept (by decide)
    · refine ⟨?_, ?_, ?_, ?_, ?_, ?_, ?_, ?_, ?_, trivial⟩ <;>
        exact sparesAwaiting_of_kept (by decide)
  · exact ⟨sparesAwaiting_of_kept (by decide), sparesAwaiting_of_kept (by decide), trivial⟩

/-- A worker has polled a task, which is canceled before the worker reports on it. -/
def canceledWhileAwaited (deployment : Deployment) : List FleetStep :=
  .master (.calm deployment 0 (.createTask (.json (.object [("command", .string "true")])))) ::
    .run { agentId := "agent-1", uploadLogs := false } ::
      callsAt deployment "agent-1" 4 1000 ++
        [.master (.calm deployment 1000 (.cancelTask "1"))]

/-- The report is refused with 409, and the worker starts the process. -/
theorem launches_canceled_task :
    (∃ request refused, (fleetRun isoPgsql {} (canceledWhileAwaited isoPgsql ++
        callsAt isoPgsql "agent-1" 4 1000)).state.deeds "agent-1" =
      (fleetRun isoPgsql {} (canceledWhileAwaited isoPgsql)).state.deeds "agent-1" ++
        [.exchange request (some refused), .launch "1"] ∧
      request.announced = some "1" ∧ refused.status = 409) ∧
      ¬ LaunchesNoCanceled isoPgsql {}
        (canceledWhileAwaited isoPgsql ++ callsAt isoPgsql "agent-1" 4 1000) := by
  constructor
  · exact ⟨_, _, rfl, rfl, rfl⟩
  · intro launchesNone
    have announces : AnnouncesCanceled (fleetRun isoPgsql {} (canceledWhileAwaited isoPgsql))
        "agent-1" (.calm isoPgsql 1000) "1" :=
      ⟨⟨_, _, rfl, rfl⟩, nofun, 1, by decide, rfl⟩
    refine launchesNone (canceledWhileAwaited isoPgsql) "agent-1" (.calm isoPgsql 1000)
      (callsAt isoPgsql "agent-1" 2 1000) (.calm isoPgsql 1000) [] "1" rfl announces ?_
    exact ⟨⟨_, _, _, _, _, rfl⟩, nofun⟩

end DistributedComputing
