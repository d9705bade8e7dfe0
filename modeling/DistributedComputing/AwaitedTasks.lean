import DistributedComputing.AnnouncedTasks
import DistributedComputing.AtomicFailures
import DistributedComputing.WorkerBatches

/-!
# The tasks that a worker awaits

Of the tasks of its last poll a worker awaits those that it has not begun to handle.  It
announces only these, and none of them was canceled when the poll brought it.
-/

namespace DistributedComputing

open TransitionRuns CallProgram WorkerApp

namespace WorkerDeed

/-- What one more deed leaves of the tasks that the worker has not begun to handle: a poll
brings new ones, and a worker begins to handle a task by reporting on it. -/
def stillAwaiting (waiting : List String) : WorkerDeed → List String
  | .exchange (.pollTasks _ _) answer =>
      ((AgentClient.receivedTasks answer).getD []).map AgentClient.TaskDispatch.taskId
  | .exchange (.updateTaskStatus taskIdRaw _) _ => waiting.filter (· ≠ taskIdRaw)
  | _ => waiting

/-- The tasks of the last poll that the worker has not begun to handle. -/
def awaiting (deeds : List WorkerDeed) : List String :=
  deeds.foldl stillAwaiting []

theorem awaiting_concat (deeds : List WorkerDeed) (deed : WorkerDeed) :
    awaiting (deeds ++ [deed]) = stillAwaiting (awaiting deeds) deed :=
  List.foldl_concat ..

end WorkerDeed

/-- The request addresses a task that is canceled. -/
def CanceledIn (store : Store) (taskIdRaw : String) : Prop :=
  ∃ taskId, Api.parseTaskId taskIdRaw = some taskId ∧
    store.ledger.state taskId = some .canceled

/-! ## What a poll brings -/

/-- Whatever fails, the tasks that a poll returns are distinct and run. -/
theorem running_of_poll {deployment : Deployment} {attempts : List Attempt} {agentId : String}
    {freeSlots : Int} {store after : Store} {dispatches : List TaskDispatch}
    (returned : deployment.broker.pollTasksForAgent attempts agentId freeSlots store =
      (.ok (some dispatches), after)) :
    (dispatches.map TaskDispatch.taskId).Nodup ∧
      ∀ taskId ∈ dispatches.map TaskDispatch.taskId, after.ledger.state taskId = some .running := by
  have loop := deployment.pollTasksForAgentLoop agentId freeSlots
  rcases loop.returned returned with ⟨attempt, _, before, passed⟩ | ⟨_, isDefault, _⟩
  · -- the pass is the poll of an attempt in which nothing fails
    have quiet := deployment.healthy_quietAttempt attempt
    have polled := loop.first_returns (deployment.healthyAttempt_quietAttempt attempt) []
      (show deployment.pollTasksForAgentPass agentId freeSlots _ before = _ from passed)
    have spec := Deployment.pollTasksForAgent_spec quiet before agentId freeSlots
    rw [polled] at spec
    obtain ⟨_, noSlots, explains⟩ := spec
    exact ⟨explains.nodup_dispatches noSlots, fun taskId member =>
      ((explains.claimed noSlots).moved taskId member).2.1⟩
  · rw [Option.some.inj isDefault]
    simp

/-- What a worker reads in the answer to a poll. -/
theorem running_of_received {deployment : Deployment} {attempts : List Attempt}
    {agentId : String} {body : Body} {store : Store} {tasks : List AgentClient.TaskDispatch}
    (received : AgentClient.receivedTasks (some (ControlService.handlePollTasks deployment.broker
      attempts agentId body store).1) = some tasks) :
    let after := (ControlService.handlePollTasks deployment.broker attempts agentId body store).2
    (tasks.map AgentClient.TaskDispatch.taskId).Nodup ∧
      ∀ taskIdRaw ∈ tasks.map AgentClient.TaskDispatch.taskId, ¬ CanceledIn after taskIdRaw := by
  have refused : ∀ response : Response, ¬ response.Successful →
      AgentClient.receivedTasks (some response) = none := by
    intro response failed
    have notSuccess : AgentClient.isSuccess (some response) = false := decide_eq_false failed
    simp [AgentClient.receivedTasks, notSuccess]
  unfold ControlService.handlePollTasks at received ⊢
  cases parsed : ControlService.parseBody ControlService.parseFreeSlots body with
  | error response =>
      have status := ControlService.parseBody_error parsed
      rw [parsed, refused response (by simp [Response.Successful, status])] at received
      cases received
  | ok freeSlots =>
      rcases ended : deployment.broker.pollTasksForAgent attempts agentId freeSlots store with
        ⟨error | _ | dispatches, after⟩
      · simp only [parsed, ended] at received
        rw [refused _ (by simp [Response.Successful, ControlService.dbErrorResponse,
          ControlService.errorResponse])] at received
        cases received
      · simp only [parsed, ended] at received
        rw [refused _ (by simp [Response.Successful, ControlService.agentNotFoundResponse,
          ControlService.errorResponse])] at received
        cases received
      · simp only [parsed, ended] at received ⊢
        rw [AgentClient.receivedTasks_dispatchesResponse, Option.some_inj] at received
        obtain ⟨distinct, running⟩ := running_of_poll ended
        have asTexts : tasks.map AgentClient.TaskDispatch.taskId =
            (dispatches.map TaskDispatch.taskId).map toString := by
          rw [← received, List.map_map, List.map_map]
          rfl
        have parsedIds : ∀ taskId ∈ dispatches.map TaskDispatch.taskId,
            Api.parseTaskId (toString taskId) = some taskId := fun taskId member =>
          parseTaskId_of_state (running taskId member)
        rw [asTexts]
        constructor
        · refine distinct.map_on ?_
          intro first firstMember second secondMember sameText
          have firstParsed := parsedIds first firstMember
          rw [sameText, parsedIds second secondMember] at firstParsed
          exact (Option.some.inj firstParsed).symm
        · rintro _ member ⟨taskId, isText, canceled⟩
          obtain ⟨sent, sentMember, rfl⟩ := List.mem_map.mp member
          rw [parsedIds sent sentMember, Option.some_inj] at isText
          rw [← isText, running sent sentMember] at canceled
          cases canceled

/-! ## A worker announces only what it awaits -/

section Announcements

variable (deployment : Deployment) (config : MasterConfig)

/-- A call of the worker: the deeds of the others stay, and an announced task was awaited. -/
structure Awaits (agentId : String) (before after : Fleet) : Prop where
  others : ∀ other, other ≠ agentId → after.deeds other = before.deeds other
  announced : ∀ request answer taskIdRaw,
    after.deeds agentId = before.deeds agentId ++ [.exchange request answer] →
      request.announced = some taskIdRaw →
        taskIdRaw ∈ WorkerDeed.awaiting (before.deeds agentId)

/-- A worker relies on the others to leave its deeds alone. -/
def awaitContract : ThreadPool.Contract String WorkerCall WorkerCall.Reply Empty Fleet
    Surroundings Empty MasterStep TickResult where
  service := fleetService deployment config
  permitted _ := True
  starts agentId program := ∃ worker : WorkerConfig, worker.agentId = agentId ∧
    (program = WorkerApp.run worker ∨ program = WorkerApp.tickOnce worker)
  happens _ _ := True
  inv _ := True
  rely agentId before after := after.deeds agentId = before.deeds agentId
  guar := Awaits
  post _ _ _ := True

abbrev AwaitsSafely {Result : Type} (agentId : String) (post : Result → Fleet → Prop)
    (program : WorkerProgram Result) (fleet : Fleet) : Prop :=
  program.Safe (awaitContract deployment config).permitted
    ((fleetService deployment config).exec agentId) ((fleetService deployment config).touch agentId)
    ((awaitContract deployment config).rely agentId)
    ((awaitContract deployment config).guar agentId) post fleet

variable {agentId : String}

/-- The deeds after a call that announces nothing, or an awaited task. -/
theorem exec_awaits (surroundings : Surroundings) {call : WorkerCall} {fleet : Fleet}
    (announced : ∀ request taskIdRaw, call = .send request → request.announced = some taskIdRaw →
      taskIdRaw ∈ WorkerDeed.awaiting (fleet.deeds agentId)) :
    Awaits agentId fleet (Fleet.exec deployment config agentId surroundings call fleet).2 where
  others := Fleet.exec_others deployment config agentId surroundings call fleet
  announced request answer taskIdRaw grown isAnnounced := by
    cases call with
    | send sent =>
        have deeds : fleet.deeds agentId ++ [.exchange sent _] =
            fleet.deeds agentId ++ [.exchange request answer] :=
          (Fleet.record_deeds_self _ agentId _).symm.trans grown
        have isSame := List.append_cancel_left deeds
        cases isSame
        exact announced request taskIdRaw rfl isAnnounced
    | fork taskId argv env stdoutPath stderrPath =>
        have deeds : fleet.deeds agentId ++ [.launch taskId] =
            fleet.deeds agentId ++ [.exchange request answer] :=
          (Fleet.record_deeds_self _ agentId _).symm.trans grown
        have isSame := List.append_cancel_left deeds
        cases isSame
    | uploadTaskLog taskId stream data => exact absurd grown (by simp [Fleet.exec])
    | nowUtcIso8601 => exact absurd grown (by simp [Fleet.exec])
    | steadyClock => exact absurd grown (by simp [Fleet.exec])
    | readLog path => exact absurd grown (by simp [Fleet.exec])

/-- The call is no poll, announces nothing, and reports on none of the tasks. -/
def Undisturbing (taskIds : List String) : WorkerCall → Prop
  | .send (.pollTasks _ _) => False
  | .send (.updateTaskStatus taskIdRaw body) => taskIdRaw ∉ taskIds ∧
      (Request.updateTaskStatus taskIdRaw body).announced = none
  | _ => True

theorem Undisturbing.of_local (taskIds : List String) (call : WorkerCall) (isLocal : call.Local) :
    Undisturbing taskIds call := by
  cases call with
  | send request => cases isLocal
  | _ => trivial

theorem Undisturbing.report {taskIds : List String} {taskIdRaw : String}
    (other : taskIdRaw ∉ taskIds) {state : TaskState} (ended : state ≠ .running)
    (exitCode : Option Int) (startedAt finishedAt errorMessage : Option String) :
    Undisturbing taskIds (.send (AgentClient.updateTaskStatus taskIdRaw (taskStateToApi state)
      exitCode startedAt finishedAt errorMessage)) := by
  refine ⟨other, ?_⟩
  have isEnded := announced_updateTaskStatus taskIdRaw state exitCode startedAt finishedAt
    errorMessage
  rwa [if_neg ended] at isEnded

theorem exec_undisturbing (surroundings : Surroundings) {taskIds : List String}
    {call : WorkerCall} (undisturbing : Undisturbing taskIds call) {fleet : Fleet}
    (awaited : WorkerDeed.awaiting (fleet.deeds agentId) = taskIds) :
    let after := (Fleet.exec deployment config agentId surroundings call fleet).2
    Awaits agentId fleet after ∧ WorkerDeed.awaiting (after.deeds agentId) = taskIds := by
  intro after
  constructor
  · apply exec_awaits
    rintro request taskIdRaw rfl isAnnounced
    cases request with
    | updateTaskStatus reported body =>
        rw [undisturbing.2] at isAnnounced
        cases isAnnounced
    | _ => cases isAnnounced
  · cases call with
    | send request =>
        have deeds : after.deeds agentId = fleet.deeds agentId ++ [.exchange request _] :=
          Fleet.record_deeds_self _ agentId _
        rw [deeds, WorkerDeed.awaiting_concat, awaited]
        cases request with
        | pollTasks polling body => cases undisturbing
        | updateTaskStatus taskIdRaw body =>
            apply List.filter_eq_self.mpr
            intro waiting member
            have different : waiting ≠ taskIdRaw := by
              rintro rfl
              exact undisturbing.1 member
            simpa using different
        | _ => rfl
    | fork taskId argv env stdoutPath stderrPath =>
        have deeds : after.deeds agentId = fleet.deeds agentId ++ [.launch taskId] :=
          Fleet.record_deeds_self _ agentId _
        rw [deeds, WorkerDeed.awaiting_concat, awaited]
        rfl
    | _ => exact awaited

variable {deployment}

/-- A program that announces nothing leaves alone what the worker awaits. -/
theorem safe_of_undisturbing {Result : Type} {taskIds : List String}
    {program : WorkerProgram Result} (issues : program.Issues (Undisturbing taskIds))
    {fleet : Fleet} (awaited : WorkerDeed.awaiting (fleet.deeds agentId) = taskIds) :
    AwaitsSafely deployment config agentId
      (fun _ later => WorkerDeed.awaiting (later.deeds agentId) = taskIds) program fleet := by
  refine Safe.of_issues ?_ ?_ issues awaited
  · intro before after sameDeeds held
    rw [show after.deeds agentId = before.deeds agentId from sameDeeds]
    exact held
  · intro call undisturbing state held
    exact ⟨fun part => part.elim, fun surroundings _ =>
      exec_undisturbing deployment config surroundings undisturbing held⟩

/-- A report on the task that is awaited first puts it off. -/
theorem exec_report_awaited (surroundings : Surroundings) {taskIdRaw : String}
    {taskIds : List String} (fresh : taskIdRaw ∉ taskIds) {fleet : Fleet}
    (awaited : WorkerDeed.awaiting (fleet.deeds agentId) = taskIdRaw :: taskIds) (body : Body) :
    let after := (Fleet.exec deployment config agentId surroundings
      (.send (.updateTaskStatus taskIdRaw body)) fleet).2
    Awaits agentId fleet after ∧ WorkerDeed.awaiting (after.deeds agentId) = taskIds := by
  intro after
  constructor
  · apply exec_awaits
    rintro request other ⟨⟩ isAnnounced
    obtain ⟨_, sameRequest⟩ := Request.exists_of_announced isAnnounced
    rw [← (Request.updateTaskStatus.inj sameRequest).1, awaited]
    exact List.mem_cons_self ..
  · have deeds : after.deeds agentId = fleet.deeds agentId ++ [.exchange _ _] :=
      Fleet.record_deeds_self _ agentId _
    rw [deeds, WorkerDeed.awaiting_concat, awaited]
    have others : ∀ waiting ∈ taskIds, waiting ≠ taskIdRaw := by
      rintro waiting member rfl
      exact fresh member
    simpa [WorkerDeed.stillAwaiting] using others

theorem report_awaits {taskId : String} {taskIds : List String} (fresh : taskId ∉ taskIds)
    (state : TaskState) (exitCode : Option Int) (startedAt finishedAt errorMessage : Option String)
    {fleet : Fleet} (awaited : WorkerDeed.awaiting (fleet.deeds agentId) = taskId :: taskIds) :
    AwaitsSafely deployment config agentId
      (fun _ later => WorkerDeed.awaiting (later.deeds agentId) = taskIds)
      (report taskId state exitCode startedAt finishedAt errorMessage) fleet := by
  refine Safe.perform (fun _ _ part => part.elim) fun later sameDeeds surroundings _ => ?_
  have awaitedLater : WorkerDeed.awaiting (later.deeds agentId) = taskId :: taskIds := by
    rw [show later.deeds agentId = fleet.deeds agentId from sameDeeds]
    exact awaited
  exact (exec_report_awaited config surroundings fresh awaitedLater _).imp id
    fun putOff _ _ => putOff

theorem handleTask_awaits (worker : WorkerConfig) (task : AgentClient.TaskDispatch)
    {taskIds : List String} (fresh : task.taskId ∉ taskIds) {fleet : Fleet}
    (awaited : WorkerDeed.awaiting (fleet.deeds agentId) = task.taskId :: taskIds) :
    AwaitsSafely deployment config agentId
      (fun _ later => WorkerDeed.awaiting (later.deeds agentId) = taskIds)
      (handleTask worker task) fleet := by
  have reads : (ask .nowUtcIso8601).Issues (Undisturbing (task.taskId :: taskIds)) :=
    ⟨trivial, fun _ => trivial⟩
  cases handed : osMismatch worker task with
  | true =>
      rw [handleTask, handed, if_pos rfl]
      refine Safe.bind (safe_of_undisturbing config reads awaited) fun now later awaitedLater => ?_
      exact Safe.bind (report_awaits config fresh _ _ _ _ _ awaitedLater) fun _ _ rest => rest
  | false =>
      rw [handleTask_eq handed]
      refine Safe.bind (safe_of_undisturbing config reads awaited) fun now later awaitedLater => ?_
      refine Safe.bind (report_awaits config fresh _ _ _ _ _ awaitedLater) fun _ last rest => ?_
      have locals := Undisturbing.of_local taskIds
      have beats : (heartbeat worker .busy).Issues (Undisturbing taskIds) :=
        .perform trivial fun _ => trivial
      have clock : (ask .steadyClock).Issues (Undisturbing taskIds) :=
        ⟨trivial, fun _ => trivial⟩
      have concludes : ∀ exec,
          (concludeTask worker task now exec).Issues (Undisturbing taskIds) := fun exec =>
        concludeTask_issues locals worker task now exec
          fun _ ended _ _ _ _ => Undisturbing.report fresh ended _ _ _ _
      exact safe_of_undisturbing config (.bind clock fun lastCancelCheck =>
        .bind (TaskExecutor.run_issues locals (isCanceled_issues locals trivial) beats _
          (fun _ _ _ _ => trivial) _) concludes) rest

/-- A worker handles the tasks that it awaits in their order. -/
theorem handleTasks_awaits (worker : WorkerConfig) {tasks : List AgentClient.TaskDispatch}
    (distinct : (tasks.map AgentClient.TaskDispatch.taskId).Nodup) {fleet : Fleet}
    (awaited : WorkerDeed.awaiting (fleet.deeds agentId) =
      tasks.map AgentClient.TaskDispatch.taskId) :
    AwaitsSafely deployment config agentId (fun _ _ => True) (handleTasks worker tasks) fleet := by
  induction tasks generalizing fleet with
  | nil => trivial
  | cons task tasks ih =>
      rw [List.map_cons, List.nodup_cons] at distinct
      refine Safe.bind (handleTask_awaits config worker task distinct.1 awaited)
        fun exitCode later rest => ?_
      exact Safe.bind (ih distinct.2 rest) fun _ _ _ => trivial

/-- The tasks that a poll brings are distinct and not canceled. -/
theorem polled_of_send {surroundings : Surroundings} {polling : String} {body : Body}
    {store : Store} {tasks : List AgentClient.TaskDispatch}
    (received : AgentClient.receivedTasks (Fleet.send deployment config surroundings
      (.pollTasks polling body) store).1 = some tasks) :
    (tasks.map AgentClient.TaskDispatch.taskId).Nodup ∧
      ∀ taskIdRaw ∈ tasks.map AgentClient.TaskDispatch.taskId,
        ¬ CanceledIn (Fleet.send deployment config surroundings (.pollTasks polling body) store).2
          taskIdRaw := by
  cases answered : (Fleet.send deployment config surroundings (.pollTasks polling body)
      store).1 with
  | none =>
      rw [answered] at received
      cases received
  | some response =>
      rw [Fleet.send_of_answer deployment config answered] at received ⊢
      exact running_of_received received

theorem tickOnce_awaits (worker : WorkerConfig) (fleet : Fleet) :
    AwaitsSafely deployment config worker.agentId (fun _ _ => True) (tickOnce worker) fleet := by
  have beats : (heartbeat worker .idle).Issues
      (Undisturbing (WorkerDeed.awaiting (fleet.deeds worker.agentId))) :=
    .perform trivial fun _ => trivial
  refine Safe.bind (safe_of_undisturbing config beats rfl) fun _ later _ => ?_
  refine Safe.perform (fun _ _ part => part.elim) fun last _ surroundings _ => ?_
  constructor
  · apply exec_awaits
    rintro request taskIdRaw ⟨⟩ ⟨⟩
  · rintro answer ⟨⟩
    split
    · trivial
    · rename_i tasks received
      refine handleTasks_awaits config worker (polled_of_send config received).1 ?_
      let request := AgentClient.pollTasks worker.agentId worker.slots
      let sent := Fleet.send deployment config surroundings request last.store
      have deeds := Fleet.record_deeds_self { last with store := sent.2 } worker.agentId
        (.exchange request sent.1)
      refine (congrArg WorkerDeed.awaiting deeds).trans ?_
      rw [WorkerDeed.awaiting_concat]
      exact congrArg (fun polled => (Option.getD polled []).map AgentClient.TaskDispatch.taskId)
        received

theorem run_awaits (worker : WorkerConfig) (fleet : Fleet) :
    AwaitsSafely deployment config worker.agentId (fun _ _ => True) (WorkerApp.run worker)
      fleet := by
  have registers : (register worker).Issues
      (Undisturbing (WorkerDeed.awaiting (fleet.deeds worker.agentId))) :=
    .perform trivial fun _ => trivial
  refine Safe.bind (safe_of_undisturbing config registers rfl) fun registered later _ => ?_
  split
  · exact tickOnce_awaits config worker later
  · trivial

theorem awaitContract_fits : (awaitContract deployment config).Fits where
  reflexive _ _ _ := rfl
  transitive _ _ _ _ start rest := rest.trans start
  stable _ _ _ _ _ _ := trivial
  guarantees agentId before after _ awaits :=
    ⟨trivial, fun other different => awaits.others other different⟩
  events step fleet _ _ := ⟨trivial, fun agentId => rfl⟩
  started := by
    rintro agentId program fleet _ ⟨worker, rfl, rfl | rfl⟩
    · exact run_awaits config worker fleet
    · exact tickOnce_awaits config worker fleet

theorem fleetRun_awaits (steps : List FleetStep) :
    (awaitContract deployment config).AllSafe (fleetRun deployment config steps) := by
  have start : (awaitContract deployment config).AllSafe
      (ThreadPool.idle { store := Store.empty }) :=
    (awaitContract deployment config).allSafe_idle trivial
  have always : ∀ step ∈ steps, True := fun _ _ => trivial
  refine run_invariant_along (fleetStep deployment config) (fun pool step _ safe => ?_) start
    (along_of_forall _ always _)
  refine safe.step (awaitContract_fits config) ?_
  cases step with
  | run worker => exact ⟨worker, rfl, .inl rfl⟩
  | tickOnce worker => exact ⟨worker, rfl, .inr rfl⟩
  | call agentId surroundings => trivial
  | master step => trivial

/-! ## How what is awaited changes -/

/-- What a worker awaits after a call it awaited before, or a poll has just brought it. -/
theorem awaiting_exec (surroundings : Surroundings) {call : WorkerCall} {fleet : Fleet}
    {taskIdRaw : String} :
    let after := (Fleet.exec deployment config agentId surroundings call fleet).2
    taskIdRaw ∈ WorkerDeed.awaiting (after.deeds agentId) →
      taskIdRaw ∈ WorkerDeed.awaiting (fleet.deeds agentId) ∨
        ¬ CanceledIn after.store taskIdRaw := by
  intro after member
  cases call with
  | send request =>
      have deeds : after.deeds agentId = fleet.deeds agentId ++ [.exchange request _] :=
        Fleet.record_deeds_self _ agentId _
      rw [deeds, WorkerDeed.awaiting_concat] at member
      cases request with
      | pollTasks polling body =>
          cases received : AgentClient.receivedTasks (Fleet.send deployment config surroundings
              (.pollTasks polling body) fleet.store).1 with
          | none =>
              rw [WorkerDeed.stillAwaiting, received] at member
              cases member
          | some tasks =>
              rw [WorkerDeed.stillAwaiting, received] at member
              exact .inr ((polled_of_send config received).2 taskIdRaw member)
      | updateTaskStatus other body => exact .inl (List.mem_filter.mp member).1
      | _ => exact .inl member
  | fork taskId argv env stdoutPath stderrPath =>
      have deeds : after.deeds agentId = fleet.deeds agentId ++ [.launch taskId] :=
        Fleet.record_deeds_self _ agentId _
      rw [deeds, WorkerDeed.awaiting_concat] at member
      exact .inl member
  | _ => exact .inl member

variable (deployment)

/-- What a worker awaits after a step of the system. -/
theorem awaiting_fleetStep {pool : FleetPool} {step : FleetStep} {taskIdRaw : String} :
    let after := (fleetStep deployment config pool step).state
    taskIdRaw ∈ WorkerDeed.awaiting (after.deeds agentId) →
      taskIdRaw ∈ WorkerDeed.awaiting (pool.state.deeds agentId) ∨
        ¬ CanceledIn after.store taskIdRaw := by
  intro after member
  by_cases isCall : step.isCallOf agentId = true
  · obtain ⟨surroundings, rfl⟩ := FleetStep.exists_of_isCallOf isCall
    by_cases running : pool.Running agentId
    · obtain ⟨call, next, found⟩ := running
      have stepped : after =
          (Fleet.exec deployment config agentId surroundings call pool.state).2 :=
        ThreadPool.step_call_state found surroundings
      rw [stepped] at member ⊢
      exact awaiting_exec config surroundings member
    · have unmoved : after = pool.state :=
        congrArg ThreadPool.state (ThreadPool.step_call_of_idle running surroundings)
      rw [unmoved] at member
      exact .inl member
  · rw [Bool.not_eq_true] at isCall
    rw [deeds_fleetStep deployment config isCall] at member
    exact .inl member

/-- A worker announces only a task that it awaits. -/
theorem awaiting_of_announced {steps : List FleetStep} {request : Request} {taskIdRaw : String}
    {next : Option Response → WorkerProgram TickResult}
    (found : (fleetRun deployment config steps).threads agentId =
      some (.call (.send request) next)) (isAnnounced : request.announced = some taskIdRaw) :
    taskIdRaw ∈ WorkerDeed.awaiting ((fleetRun deployment config steps).state.deeds agentId) := by
  have safe : (awaitContract deployment config).AllSafe (fleetRun deployment config steps) :=
    fleetRun_awaits config steps
  have awaits := ((safe.threads agentId _ found _ rfl).2 {} trivial).1
  exact awaits.announced request _ taskIdRaw (Fleet.record_deeds_self _ agentId _) isAnnounced

end Announcements

end DistributedComputing
