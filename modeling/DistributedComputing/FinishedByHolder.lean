import DistributedComputing.LeaseHistory
import DistributedComputing.WorkerFleet

/-!
# Who finishes a task

A status report does not say who sends it, and the master does not ask.  So a worker
finishes only tasks that it polled and that are running, but it may do so after a sweep
took the task from it and another worker polled it.
-/

namespace DistributedComputing

open TransitionRuns CallProgram

/-- The invariant of the tables. -/
structure Accounted (store : Store) : Prop where
  consistent : store.ledger.Consistent
  overWhenClosed : store.ledger.OverWhenClosed

theorem accounted_empty : Accounted Store.empty :=
  ⟨Ledger.empty_consistent, Ledger.empty_overWhenClosed⟩

/-- The worker received the task from a poll and leased it. -/
structure Knows (agentId : String) (fleet : Fleet) (taskIdRaw : String) : Prop where
  received : ∃ task ∈ WorkerDeed.received (fleet.deeds agentId), task.taskId = taskIdRaw
  leased : ∀ taskId, Api.parseTaskId taskIdRaw = some taskId →
    fleet.store.ledger.Leased agentId taskId

/-- What a call of a worker leads to: leases stay, the other workers' deeds are not
touched, and a task is finished only while it runs and the worker knows it. -/
structure Proceeds (agentId : String) (before after : Fleet) : Prop where
  accounted : Accounted before.store → Accounted after.store
  leased : ∀ other taskId, before.store.ledger.Leased other taskId →
    after.store.ledger.Leased other taskId
  others : ∀ other, other ≠ agentId → after.deeds other = before.deeds other
  finishes : ∀ taskId, ¬ before.store.ledger.Finished taskId →
    after.store.ledger.Finished taskId →
      before.store.ledger.state taskId = some .running ∧
        ∃ taskIdRaw, Knows agentId before taskIdRaw ∧ Api.parseTaskId taskIdRaw = some taskId

/-- The call reports, if it does, on one of the tasks. -/
def ReportsOn (taskIds : List String) : WorkerCall → Prop
  | .send (.updateTaskStatus taskIdRaw _) => taskIdRaw ∈ taskIds
  | _ => True

theorem ReportsOn.of_local (taskIds : List String) (call : WorkerCall) (isLocal : call.Local) :
    ReportsOn taskIds call := by
  cases call with
  | send request => cases isLocal
  | fork taskId argv env stdoutPath stderrPath => trivial
  | uploadTaskLog taskId stream data => trivial
  | nowUtcIso8601 => trivial
  | steadyClock => trivial
  | readLog path => trivial

section Calls

variable {deployment : Deployment} (config : MasterConfig)

theorem masterStep_accounted {store : Store} {step : MasterStep}
    (healthy : step.Healthy deployment) (accounted : Accounted store) :
    Accounted (masterStep deployment config store step) := by
  refine ⟨masterStep_consistent config healthy accounted.consistent, ?_⟩
  obtain ⟨events, _, enabled, explains⟩ := masterStep_explained config store healthy
  rw [explains.ledger_eq]
  exact run_invariant_along Ledger.step
    (fun _ _ allowed isOver => Ledger.step_overWhenClosed allowed isOver) accounted.overWhenClosed
    enabled

theorem masterStep_leased {store : Store} {step : MasterStep} (healthy : step.Healthy deployment)
    {agentId : String} {taskId : Int} (leased : store.ledger.Leased agentId taskId) :
    (masterStep deployment config store step).ledger.Leased agentId taskId := by
  obtain ⟨events, _, _, explains⟩ := masterStep_explained config store healthy
  rw [explains.ledger_eq]
  exact leased.run events

theorem Knows.mono {agentId : String} {before after : Fleet} {taskIdRaw : String}
    (knows : Knows agentId before taskIdRaw)
    (extended : before.deeds agentId <+: after.deeds agentId)
    (leased : ∀ taskId, before.store.ledger.Leased agentId taskId →
      after.store.ledger.Leased agentId taskId) : Knows agentId after taskIdRaw where
  received := by
    obtain ⟨task, member, same⟩ := knows.received
    obtain ⟨more, grown⟩ := extended
    rw [← grown, WorkerDeed.received_append]
    exact ⟨task, List.mem_append_left _ member, same⟩
  leased taskId parsed := leased taskId (knows.leased taskId parsed)

/-- A call that leaves the tables alone. -/
theorem Proceeds.of_store_eq {agentId : String} {before after : Fleet}
    (same : after.store = before.store)
    (others : ∀ other, other ≠ agentId → after.deeds other = before.deeds other) :
    Proceeds agentId before after where
  accounted := by
    rw [same]
    exact id
  leased := by
    rw [same]
    exact fun _ _ => id
  others := others
  finishes taskId unfinished finished := by
    rw [same] at finished
    exact absurd finished unfinished

/-- A call that is a request handled by the master. -/
theorem Proceeds.of_masterStep {agentId : String} {before after : Fleet} {schedule : Schedule}
    {request : Request} (healthy : (MasterStep.request schedule request).Healthy deployment)
    (handled : after.store =
      masterStep deployment config before.store (.request schedule request))
    (others : ∀ other, other ≠ agentId → after.deeds other = before.deeds other)
    {taskIds : List String} (own : ReportsOn taskIds (.send request))
    (knows : ∀ taskIdRaw ∈ taskIds, Knows agentId before taskIdRaw) :
    Proceeds agentId before after where
  accounted accounted := by
    rw [handled]
    exact masterStep_accounted config healthy accounted
  leased other taskId leased := by
    rw [handled]
    exact masterStep_leased config healthy leased
  others := others
  finishes taskId unfinished finished := by
    rw [handled] at finished
    obtain ⟨⟨_, taskIdRaw, body, isReport, parsed⟩, running⟩ :=
      masterStep_finishes config healthy unfinished finished
    cases isReport
    exact ⟨running, taskIdRaw, knows taskIdRaw own, parsed⟩

/-- Every call of a worker that reports only on tasks it knows proceeds. -/
theorem exec_proceeds {agentId : String} {surroundings : Surroundings}
    (healthy : surroundings.Healthy deployment) {call : WorkerCall} {taskIds : List String}
    (own : ReportsOn taskIds call) {fleet : Fleet}
    (knows : ∀ taskIdRaw ∈ taskIds, Knows agentId fleet taskIdRaw) :
    Proceeds agentId fleet (Fleet.exec deployment config agentId surroundings call fleet).2 := by
  have others := Fleet.exec_others deployment config agentId surroundings call fleet
  cases call with
  | send request =>
      rcases Fleet.send_store deployment config surroundings request fleet.store with
        lost | handled
      · exact .of_store_eq lost others
      · exact .of_masterStep config (healthy.request request) handled others own knows
  | uploadTaskLog taskId stream data => exact .of_store_eq rfl others
  | nowUtcIso8601 => exact .of_store_eq rfl others
  | steadyClock => exact .of_store_eq rfl others
  | fork taskId argv env stdoutPath stderrPath => exact .of_store_eq rfl others
  | readLog path => exact .of_store_eq rfl others

end Calls

/-! ## Every run -/

section Runs

variable (deployment : Deployment) (config : MasterConfig)

/-- Workers rely on keeping what they know, and proceed. -/
def leaseContract : ThreadPool.Contract String WorkerCall WorkerCall.Reply Empty Fleet
    Surroundings Empty MasterStep TickResult where
  service := fleetService deployment config
  permitted := Surroundings.Healthy deployment
  starts agentId program := ∃ worker : WorkerConfig, worker.agentId = agentId ∧
    (program = WorkerApp.run worker ∨ program = WorkerApp.tickOnce worker)
  happens step _ := step.Healthy deployment
  inv fleet := Accounted fleet.store
  rely agentId before after := before.deeds agentId = after.deeds agentId ∧
    ∀ taskId, before.store.ledger.Leased agentId taskId →
      after.store.ledger.Leased agentId taskId
  guar := Proceeds
  post _ _ _ := True

abbrev ProceedsSafely {Result : Type} (agentId : String) (post : Result → Fleet → Prop)
    (program : WorkerProgram Result) (fleet : Fleet) : Prop :=
  program.Safe (leaseContract deployment config).permitted
    ((fleetService deployment config).exec agentId) ((fleetService deployment config).touch agentId)
    ((leaseContract deployment config).rely agentId)
    ((leaseContract deployment config).guar agentId) post fleet

variable {deployment}

/-- A program that reports only on tasks that the worker knows. -/
theorem safe_of_reportsOn {Result : Type} {agentId : String} {taskIds : List String}
    {program : WorkerProgram Result} (issues : program.Issues (ReportsOn taskIds)) {fleet : Fleet}
    (knows : ∀ taskIdRaw ∈ taskIds, Knows agentId fleet taskIdRaw) :
    ProceedsSafely deployment config agentId (fun _ _ => True) program fleet := by
  have stable : ∀ before after : Fleet, (leaseContract deployment config).rely agentId before after →
      (∀ taskIdRaw ∈ taskIds, Knows agentId before taskIdRaw) →
      ∀ taskIdRaw ∈ taskIds, Knows agentId after taskIdRaw := by
    rintro before after ⟨sameDeeds, leased⟩ known taskIdRaw member
    exact (known taskIdRaw member).mono (sameDeeds ▸ List.prefix_rfl) leased
  refine Safe.weaken (fun _ _ _ => trivial) (Safe.of_issues stable ?_ issues knows)
  intro call own state known
  refine ⟨fun part => part.elim, fun surroundings healthy => ?_⟩
  have proceeds := exec_proceeds config healthy own known
  refine ⟨proceeds, fun taskIdRaw member => ?_⟩
  exact (known taskIdRaw member).mono
    (Fleet.exec_extends deployment config agentId surroundings call state)
    (proceeds.leased agentId)

theorem handleTasks_issues (worker : WorkerConfig) (tasks : List AgentClient.TaskDispatch) :
    (WorkerApp.handleTasks worker tasks).Issues
      (ReportsOn (tasks.map AgentClient.TaskDispatch.taskId)) := by
  have locals := ReportsOn.of_local (tasks.map AgentClient.TaskDispatch.taskId)
  have each : ∀ task ∈ tasks, (WorkerApp.handleTask worker task).Issues
      (ReportsOn (tasks.map AgentClient.TaskDispatch.taskId)) := fun task member =>
    WorkerApp.handleTask_issues locals (fun _ _ _ _ => trivial) (fun _ => trivial) trivial
      fun _ _ _ _ _ => List.mem_map_of_mem member
  generalize ReportsOn (tasks.map AgentClient.TaskDispatch.taskId) = allowed at each
  clear locals
  induction tasks with
  | nil => trivial
  | cons task tasks ih =>
      exact .bind (each task (by simp)) fun exitCode =>
        .bind (ih fun other member => each other (by simp [member])) fun others => trivial

/-- The tasks in the answer to a poll are leased by then. -/
theorem leased_of_received {agentId : String} {attempts : List Attempt}
    (healthy : deployment.Healthy attempts) {body : Body} {store : Store}
    {tasks : List AgentClient.TaskDispatch}
    (received : AgentClient.receivedTasks (some (ControlService.handlePollTasks deployment.broker
      attempts agentId body store).1) = some tasks) {taskIdRaw : String}
    (member : taskIdRaw ∈ tasks.map AgentClient.TaskDispatch.taskId) {taskId : Int}
    (parsed : Api.parseTaskId taskIdRaw = some taskId) :
    (ControlService.handlePollTasks deployment.broker attempts agentId body
      store).2.ledger.Leased agentId taskId := by
  obtain ⟨freeSlots, dispatches, noSlots, sameIds, explains⟩ :=
    handlePollTasks_received healthy store agentId body received
  rw [sameIds] at member
  obtain ⟨dispatch, listed, rfl⟩ := List.mem_map.mp member
  rw [Api.parseTaskId_toString] at parsed
  have sameId : dispatch.taskId = taskId := by
    split at parsed
    · exact Option.some.inj parsed
    · cases parsed
  rw [← sameId, explains.ledger_eq]
  apply Ledger.leased_of_claim
  have slots : ¬ freeSlots ≤ 0 := by
    intro none
    rw [noSlots none] at listed
    cases listed
  simp only [pollEvents, slots, if_false, List.mem_cons, List.mem_map]
  exact .inr ⟨dispatch, listed, rfl⟩

/-- What a poll brings, the worker knows. -/
theorem knows_of_received {agentId : String} {surroundings : Surroundings}
    (healthy : surroundings.Healthy deployment) {freeSlots : Int} {fleet : Fleet}
    {tasks : List AgentClient.TaskDispatch}
    (received : AgentClient.receivedTasks (Fleet.send deployment config surroundings
      (AgentClient.pollTasks agentId freeSlots) fleet.store).1 = some tasks) :
    ∀ taskIdRaw ∈ tasks.map AgentClient.TaskDispatch.taskId,
      Knows agentId (Fleet.exec deployment config agentId surroundings
        (.send (AgentClient.pollTasks agentId freeSlots)) fleet).2 taskIdRaw := by
  intro taskIdRaw member
  constructor
  · obtain ⟨task, listed, same⟩ := List.mem_map.mp member
    refine ⟨task, ?_, same⟩
    have deeds : (Fleet.exec deployment config agentId surroundings
        (.send (AgentClient.pollTasks agentId freeSlots)) fleet).2.deeds agentId =
          fleet.deeds agentId ++ [.exchange (AgentClient.pollTasks agentId freeSlots) _] :=
      Fleet.record_deeds_self _ agentId _
    rw [deeds, WorkerDeed.received_append, WorkerDeed.received_poll, received]
    exact List.mem_append_right _ listed
  · intro taskId parsed
    simp only [Fleet.exec, Fleet.record_store]
    cases answered : (Fleet.send deployment config surroundings
        (AgentClient.pollTasks agentId freeSlots) fleet.store).1 with
    | none =>
        rw [answered] at received
        cases received
    | some response =>
        rw [Fleet.send_of_answer deployment config answered] at received ⊢
        exact leased_of_received healthy.1 received member parsed

theorem tickOnce_proceeds (worker : WorkerConfig) (fleet : Fleet) :
    ProceedsSafely deployment config worker.agentId (fun _ _ => True) (WorkerApp.tickOnce worker)
      fleet := by
  have beats : (WorkerApp.heartbeat worker .idle).Issues (ReportsOn []) :=
    .perform trivial fun _ => trivial
  refine Safe.bind (safe_of_reportsOn config beats (by simp)) fun _ later _ => ?_
  refine Safe.perform (fun _ _ part => part.elim) fun last _ surroundings healthy => ?_
  have polls : ReportsOn [] (.send (AgentClient.pollTasks worker.agentId worker.slots)) := trivial
  refine ⟨exec_proceeds config healthy polls (by simp), ?_⟩
  rintro answer ⟨⟩
  split
  · trivial
  · rename_i tasks received
    exact safe_of_reportsOn config (handleTasks_issues worker tasks)
      (knows_of_received config healthy received)

theorem run_proceeds (worker : WorkerConfig) (fleet : Fleet) :
    ProceedsSafely deployment config worker.agentId (fun _ _ => True) (WorkerApp.run worker)
      fleet := by
  have registers : (WorkerApp.register worker).Issues (ReportsOn []) :=
    .perform trivial fun _ => trivial
  refine Safe.bind (safe_of_reportsOn config registers (by simp)) fun registered later _ => ?_
  split
  · exact tickOnce_proceeds config worker later
  · trivial

theorem leaseContract_fits : (leaseContract deployment config).Fits where
  reflexive _ _ _ := ⟨rfl, fun _ => id⟩
  transitive _ _ _ _ start rest :=
    ⟨start.1.trans rest.1, fun taskId leased => rest.2 taskId (start.2 taskId leased)⟩
  stable _ _ _ _ _ _ := trivial
  guarantees agentId before after accounted proceeds :=
    ⟨proceeds.accounted accounted, fun other different =>
      ⟨(proceeds.others other different).symm, proceeds.leased other⟩⟩
  events step fleet accounted healthy :=
    ⟨masterStep_accounted config healthy accounted,
      fun agentId => ⟨rfl, fun taskId leased => masterStep_leased config healthy leased⟩⟩
  started := by
    rintro agentId program fleet _ ⟨worker, rfl, rfl | rfl⟩
    · exact run_proceeds config worker fleet
    · exact tickOnce_proceeds config worker fleet

theorem fleetRun_proceeds {steps : List FleetStep}
    (healthy : ∀ step ∈ steps, step.Healthy deployment) :
    (leaseContract deployment config).AllSafe (fleetRun deployment config steps) := by
  have start : (leaseContract deployment config).AllSafe
      (ThreadPool.idle { store := Store.empty }) :=
    (leaseContract deployment config).allSafe_idle accounted_empty
  refine run_invariant_along (fleetStep deployment config) (fun pool step allowed safe => ?_) start
    (along_of_forall _ healthy _)
  refine safe.step (leaseContract_fits config) ?_
  cases step with
  | run worker => exact ⟨worker, rfl, .inl rfl⟩
  | tickOnce worker => exact ⟨worker, rfl, .inr rfl⟩
  | call agentId surroundings => exact allowed
  | master step => exact allowed

end Runs

/-- A worker finishes a task that is running and that a poll brought it; it holds the
task, or has lost it to sweeps since. -/
theorem finished_by_holder_or_after_sweep (deployment : Deployment) (config : MasterConfig)
    (steps : List FleetStep) (healthy : ∀ step ∈ steps, step.Healthy deployment)
    (agentId : String) (surroundings : Surroundings)
    (healthyCall : surroundings.Healthy deployment) (taskId : Int) :
    let before := (fleetRun deployment config steps).state
    let after := (fleetRun deployment config (steps ++ [.call agentId surroundings])).state
    ¬ before.store.ledger.Finished taskId → after.store.ledger.Finished taskId →
      before.store.ledger.state taskId = some .running ∧
        (∃ task ∈ WorkerDeed.received (before.deeds agentId),
          Api.parseTaskId task.taskId = some taskId) ∧
        (before.store.HeldBy agentId taskId ∨ before.store.SweptFrom agentId taskId) := by
  intro before after unfinished finished
  have safe := fleetRun_proceeds config healthy
  have stepped : after = (ThreadPool.step (fleetService deployment config)
      (fleetRun deployment config steps) (.call agentId surroundings)).state := by
    simp only [after, fleetRun, run_append]
    rfl
  rcases safe.call_state (leaseContract_fits config) agentId healthyCall with same | proceeds
  · rw [stepped, show (ThreadPool.step (fleetService deployment config)
      (fleetRun deployment config steps) (.call agentId surroundings)).state = before from same]
      at finished
    exact absurd finished unfinished
  · rw [stepped] at finished
    obtain ⟨running, taskIdRaw, knows, parsed⟩ := proceeds.finishes taskId unfinished finished
    obtain ⟨task, received, sameId⟩ := knows.received
    exact ⟨running, ⟨task, received, by rw [sameId, parsed]⟩,
      Store.heldBy_or_sweptFrom safe.inv.consistent safe.inv.overWhenClosed running
        (knows.leased taskId parsed)⟩

/-- A sweep takes the task from it, and another worker polls the task. -/
def sweptMeanwhile (deployment : Deployment) : List FleetStep :=
  aboutToReport deployment ++
    .master (.calmSweep deployment 400000) :: .run { agentId := "agent-2", uploadLogs := false } ::
      callsAt deployment "agent-2" 3 400000

theorem healthy_sweptMeanwhile (deployment : Deployment) :
    ∀ step ∈ sweptMeanwhile deployment, step.Healthy deployment := by
  simp [sweptMeanwhile, aboutToReport, callsAt, FleetStep.Healthy, MasterStep.healthy_calm,
    MasterStep.healthy_calmSweep, Surroundings.healthy_calm]

theorem finished_by_holder_or_after_sweep_sweptMeanwhile :
    let before := (fleetRun isoPgsql {} (sweptMeanwhile isoPgsql)).state
    before.store.HeldBy "agent-1" 1 ∨ before.store.SweptFrom "agent-1" 1 :=
  (finished_by_holder_or_after_sweep isoPgsql {} (sweptMeanwhile isoPgsql)
    (healthy_sweptMeanwhile isoPgsql) "agent-1" (.calm isoPgsql 400000)
    (Surroundings.healthy_calm isoPgsql 400000) 1 (by rintro (running | running) <;> cases running)
    (.inl rfl)).2.2

theorem swept_worker_finishes_task :
    let before := (fleetRun isoPgsql {} (sweptMeanwhile isoPgsql)).state
    let after := (fleetRun isoPgsql {} (sweptMeanwhile isoPgsql ++
      [.call "agent-1" (.calm isoPgsql 400000)])).state
    before.store.ledger.state 1 = some .running ∧ after.store.ledger.state 1 = some .succeeded ∧
      before.store.ledger.assignee 1 = some "agent-2" ∧ ¬ before.store.HeldBy "agent-1" 1 := by
  refine ⟨rfl, rfl, rfl, ?_⟩
  rintro ⟨⟨task, found, assigned⟩, _⟩
  cases found
  exact absurd (Option.some.inj assigned) (by decide)

end DistributedComputing
