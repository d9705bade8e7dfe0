import DistributedComputing.FailureFreeRequests

/-!
# The batch of a worker

What a worker received from its last poll is, task by task, still to be started, in the
works, or settled.  Each of its calls moves at most one task on, and touches no task of
another worker.
-/

namespace DistributedComputing

open TransitionRuns ControlService

namespace WorkerDeed

/-- The tasks that the worker started a process for. -/
def launched : List WorkerDeed → List String
  | [] => []
  | .launch taskId :: deeds => taskId :: launched deeds
  | .exchange _ _ :: deeds => launched deeds

/-- The tasks that the last poll brought. -/
def lastReceived (deeds : List WorkerDeed) : List AgentClient.TaskDispatch :=
  deeds.foldl (fun tasks deed =>
    match deed with
    | .exchange (.pollTasks _ _) answer => (AgentClient.receivedTasks answer).getD []
    | _ => tasks) []

/-- A status report was answered with 200. -/
def Accepted : WorkerDeed → Prop
  | .exchange (.updateTaskStatus _ _) answer =>
      ∃ response, answer = some response ∧ response.status = 200
  | _ => True

theorem launched_append (first second : List WorkerDeed) :
    launched (first ++ second) = launched first ++ launched second := by
  induction first with
  | nil => rfl
  | cons deed deeds ih => cases deed <;> simp [launched, ih]

theorem lastReceived_poll (deeds : List WorkerDeed) (agentId : String) (freeSlots : Int)
    (answer : Option Response) :
    lastReceived (deeds ++ [.exchange (AgentClient.pollTasks agentId freeSlots) answer]) =
      (AgentClient.receivedTasks answer).getD [] := by
  unfold lastReceived
  rw [List.foldl_concat]
  rfl

end WorkerDeed

/-- Of the requests of workers, those that are neither polls nor reports. -/
def Request.Quiet : Request → Prop
  | .upsertAgent _ _ => True
  | .agentHeartbeat _ _ => True
  | .getTask _ => True
  | _ => False

theorem Request.Quiet.gentle {request : Request} (quiet : request.Quiet) : request.Gentle := by
  cases request <;> trivial

theorem Request.Gentle.accepted {request : Request} (gentle : request.Gentle)
    (answer : Option Response) : WorkerDeed.Accepted (.exchange request answer) := by
  cases request <;> trivial

theorem Request.Quiet.lastReceived {request : Request} (quiet : request.Quiet)
    (deeds : List WorkerDeed) (answer : Option Response) :
    WorkerDeed.lastReceived (deeds ++ [.exchange request answer]) =
      WorkerDeed.lastReceived deeds := by
  unfold WorkerDeed.lastReceived
  rw [List.foldl_concat]
  cases request <;> trivial

/-- What holds throughout a run in which nothing fails. -/
structure Orderly (fleet : Fleet) : Prop where
  consistent : fleet.store.ledger.Consistent
  assigned : ∀ agentId, ∀ taskIdRaw ∈ WorkerDeed.launched (fleet.deeds agentId),
    ∃ taskId, Api.parseTaskId taskIdRaw = some taskId ∧
      fleet.store.ledger.assignee taskId = some agentId
  once : ∀ agentId, (WorkerDeed.launched (fleet.deeds agentId)).Nodup
  accepted : ∀ agentId, ∀ deed ∈ fleet.deeds agentId, deed.Accepted

/-- Except for the touched ones, the worker's tasks are as before, and it has neither
started a process nor polled. -/
structure Keeps (agentId : String) (touched : List Int) (before after : Fleet) : Prop where
  spares : Ledger.Spares agentId touched before.store.ledger after.store.ledger
  launched : WorkerDeed.launched (after.deeds agentId) =
    WorkerDeed.launched (before.deeds agentId)
  received : WorkerDeed.lastReceived (after.deeds agentId) =
    WorkerDeed.lastReceived (before.deeds agentId)

theorem Keeps.refl (agentId : String) (fleet : Fleet) : Keeps agentId [] fleet fleet :=
  ⟨.refl _ _ _, rfl, rfl⟩

theorem Keeps.trans {agentId : String} {first second third : Fleet}
    (start : Keeps agentId [] first second) (rest : Keeps agentId [] second third) :
    Keeps agentId [] first third :=
  ⟨start.spares.trans rest.spares, rest.launched.trans start.launched,
    rest.received.trans start.received⟩

theorem Keeps.of_deeds_eq {agentId : String} {before after : Fleet}
    (spares : Ledger.Spares agentId [] before.store.ledger after.store.ledger)
    (same : after.deeds agentId = before.deeds agentId) : Keeps agentId [] before after :=
  ⟨spares, by rw [same], by rw [same]⟩

/-- The worker has the task, and the task runs. -/
def InHand (agentId : String) (fleet : Fleet) (taskIdRaw : String) : Prop :=
  ∃ taskId, taskIdRaw = toString taskId ∧ Api.parseTaskId taskIdRaw = some taskId ∧
    fleet.store.ledger.assignee taskId = some agentId ∧
    fleet.store.ledger.state taskId = some .running

/-- The task is over, with the given exit code. -/
def Settled (agentId : String) (fleet : Fleet) (ended : AgentClient.TaskDispatch × Int) : Prop :=
  ∃ taskId, Api.parseTaskId ended.1.taskId = some taskId ∧
    fleet.store.ledger.assignee taskId = some agentId ∧
    (fleet.store.ledger.state taskId = some .succeeded ∨
      fleet.store.ledger.state taskId = some .failed) ∧
    fleet.store.ledger.exitCode taskId = some ended.2

/-- Where the worker stands with the tasks that its last poll brought. -/
structure Batch (agentId : String) (received pending : List AgentClient.TaskDispatch)
    (settled : TickResult) (fleet : Fleet) : Prop where
  orderly : Orderly fleet
  received_eq : WorkerDeed.lastReceived (fleet.deeds agentId) = received
  distinct : (pending.map AgentClient.TaskDispatch.taskId).Nodup
  inHand : ∀ task ∈ pending, InHand agentId fleet task.taskId
  unstarted : ∀ task ∈ pending, task.taskId ∉ WorkerDeed.launched (fleet.deeds agentId)
  isOver : ∀ ended ∈ settled, Settled agentId fleet ended

/-- The worker is at work on one task of its batch. -/
structure AtWork (agentId : String) (received : List AgentClient.TaskDispatch)
    (task : AgentClient.TaskDispatch) (pending : List AgentClient.TaskDispatch)
    (settled : TickResult) (fleet : Fleet) : Prop where
  batch : Batch agentId received pending settled fleet
  inHand : InHand agentId fleet task.taskId
  fresh : task.taskId ∉ pending.map AgentClient.TaskDispatch.taskId

section Batches

variable {agentId : String} {touched : List Int} {before after : Fleet}

theorem InHand.keeps {taskIdRaw : String} (inHand : InHand agentId before taskIdRaw)
    (untouched : ∀ taskId ∈ touched, taskIdRaw ≠ toString taskId)
    (keeps : Keeps agentId touched before after) : InHand agentId after taskIdRaw := by
  obtain ⟨taskId, isText, parsed, assigned, running⟩ := inHand
  have spared : taskId ∉ touched := fun member => untouched taskId member isText
  obtain ⟨stateEq, stillAssigned, _⟩ := keeps.spares taskId spared assigned
  exact ⟨taskId, isText, parsed, stillAssigned, stateEq.trans running⟩

theorem Settled.keeps {ended : AgentClient.TaskDispatch × Int}
    (settled : Settled agentId before ended)
    (running : ∀ taskId ∈ touched, before.store.ledger.state taskId = some .running)
    (keeps : Keeps agentId touched before after) : Settled agentId after ended := by
  obtain ⟨taskId, parsed, assigned, finished, exitCode⟩ := settled
  have spared : taskId ∉ touched := by
    intro member
    rw [running taskId member] at finished
    rcases finished with succeeded | failed
    · cases succeeded
    · cases failed
  obtain ⟨stateEq, stillAssigned, exitCodeEq⟩ := keeps.spares taskId spared assigned
  refine ⟨taskId, parsed, stillAssigned, ?_, exitCodeEq.trans exitCode⟩
  rw [stateEq]
  exact finished

theorem Batch.keeps {received pending : List AgentClient.TaskDispatch} {settled : TickResult}
    (batch : Batch agentId received pending settled before) (orderly : Orderly after)
    (untouched : ∀ task ∈ pending, ∀ taskId ∈ touched, task.taskId ≠ toString taskId)
    (running : ∀ taskId ∈ touched, before.store.ledger.state taskId = some .running)
    (keeps : Keeps agentId touched before after) :
    Batch agentId received pending settled after where
  orderly := orderly
  received_eq := keeps.received.trans batch.received_eq
  distinct := batch.distinct
  inHand task member := (batch.inHand task member).keeps (untouched task member) keeps
  unstarted task member := by
    rw [keeps.launched]
    exact batch.unstarted task member
  isOver ended member := (batch.isOver ended member).keeps running keeps

theorem AtWork.keeps {received pending : List AgentClient.TaskDispatch}
    {task : AgentClient.TaskDispatch} {settled : TickResult}
    (atWork : AtWork agentId received task pending settled before) (orderly : Orderly after)
    (keeps : Keeps agentId [] before after) :
    AtWork agentId received task pending settled after where
  batch := atWork.batch.keeps orderly (by simp) (by simp) keeps
  inHand := atWork.inHand.keeps (by simp) keeps
  fresh := atWork.fresh

variable {received pending : List AgentClient.TaskDispatch} {task : AgentClient.TaskDispatch}
  {settled : TickResult}

theorem Batch.atWork (batch : Batch agentId received (task :: pending) settled before) :
    AtWork agentId received task pending settled before where
  batch :=
    { orderly := batch.orderly
      received_eq := batch.received_eq
      distinct := (List.nodup_cons.mp batch.distinct).2
      inHand := fun other member => batch.inHand other (by simp [member])
      unstarted := fun other member => batch.unstarted other (by simp [member])
      isOver := batch.isOver }
  inHand := batch.inHand task (by simp)
  fresh := (List.nodup_cons.mp batch.distinct).1

theorem AtWork.restart (atWork : AtWork agentId received task pending settled before)
    (unstarted : task.taskId ∉ WorkerDeed.launched (before.deeds agentId)) :
    Batch agentId received (task :: pending) settled before where
  orderly := atWork.batch.orderly
  received_eq := atWork.batch.received_eq
  distinct := List.nodup_cons.mpr ⟨atWork.fresh, atWork.batch.distinct⟩
  inHand := List.forall_mem_cons.mpr ⟨atWork.inHand, atWork.batch.inHand⟩
  unstarted := List.forall_mem_cons.mpr ⟨unstarted, atWork.batch.unstarted⟩
  isOver := atWork.batch.isOver

end Batches

/-! ## What the calls do -/

/-- The tasks stay with their agents, no process is started, and every new deed is in
order. -/
theorem Orderly.step {before after : Fleet} (orderly : Orderly before)
    (consistent : after.store.ledger.Consistent)
    (assigned : ∀ agentId taskId, before.store.ledger.assignee taskId = some agentId →
      after.store.ledger.assignee taskId = some agentId)
    (launched : ∀ agentId, WorkerDeed.launched (after.deeds agentId) =
      WorkerDeed.launched (before.deeds agentId))
    (accepted : ∀ agentId, ∀ deed ∈ after.deeds agentId,
      deed ∈ before.deeds agentId ∨ deed.Accepted) : Orderly after where
  consistent := consistent
  assigned agentId taskIdRaw member := by
    rw [launched] at member
    obtain ⟨taskId, parsed, held⟩ := orderly.assigned agentId taskIdRaw member
    exact ⟨taskId, parsed, assigned agentId taskId held⟩
  once agentId := by
    rw [launched]
    exact orderly.once agentId
  accepted agentId deed member :=
    (accepted agentId deed member).elim (orderly.accepted agentId deed) id

/-- A worker's exchange leaves the store given and adds one deed. -/
theorem Orderly.exchange {fleet : Fleet} (orderly : Orderly fleet) {store : Store}
    (consistent : store.ledger.Consistent)
    (assigned : ∀ agentId taskId, fleet.store.ledger.assignee taskId = some agentId →
      store.ledger.assignee taskId = some agentId)
    (agentId : String) {request : Request} {answer : Option Response}
    (accepted : WorkerDeed.Accepted (.exchange request answer)) :
    Orderly (({ fleet with store := store } : Fleet).record agentId
      (.exchange request answer)) := by
  refine orderly.step consistent assigned (fun other => ?_) (fun other deed member => ?_)
  · by_cases same : other = agentId
    · subst same
      rw [Fleet.record_deeds_self, WorkerDeed.launched_append]
      exact List.append_nil _
    · rw [Fleet.record_deeds_of_ne _ same]
  · by_cases same : other = agentId
    · subst same
      rw [Fleet.record_deeds_self, List.mem_append, List.mem_singleton] at member
      refine member.imp_right ?_
      rintro rfl
      exact accepted
    · rw [Fleet.record_deeds_of_ne _ same] at member
      exact .inl member

/-- A call that is no `fork`, no poll and no report. -/
def QuietCall : WorkerCall → Prop
  | .send request => request.Quiet
  | .fork _ _ _ _ _ => False
  | _ => True

section Calls

variable {deployment : Deployment} (config : MasterConfig) {surroundings : Surroundings}
  {agentId : String} {fleet : Fleet}

theorem exec_gentle (healthy : surroundings.Healthy deployment) {request : Request}
    (gentle : request.Gentle) (orderly : Orderly fleet) :
    let after := (Fleet.exec deployment config agentId surroundings (.send request) fleet).2
    Orderly after ∧ ∀ other, Ledger.Spares other [] fleet.store.ledger after.store.ledger := by
  intro after
  have spares : ∀ other, Ledger.Spares other [] fleet.store.ledger after.store.ledger := by
    intro other
    rcases Fleet.send_store deployment config surroundings request fleet.store with lost | handled
    · rw [show after.store = fleet.store from lost]
      exact .refl other [] fleet.store.ledger
    · rw [show after.store = _ from handled]
      exact masterStep_spares config (healthy.request request) gentle orderly.consistent other
  have consistent : after.store.ledger.Consistent := by
    rcases Fleet.send_store deployment config surroundings request fleet.store with lost | handled
    · rw [show after.store = fleet.store from lost]
      exact orderly.consistent
    · rw [show after.store = _ from handled]
      exact masterStep_consistent config (healthy.request request) orderly.consistent
  refine ⟨?_, spares⟩
  exact orderly.exchange consistent
    (fun other taskId held => (spares other taskId (by simp) held).2.1) agentId (gentle.accepted _)

/-- Quiet calls leave everybody's tasks alone. -/
theorem exec_quiet (healthy : surroundings.Healthy deployment) {call : WorkerCall}
    (quiet : QuietCall call) (orderly : Orderly fleet) :
    let after := (Fleet.exec deployment config agentId surroundings call fleet).2
    Orderly after ∧ ∀ other, Keeps other [] fleet after := by
  have unchanged : Orderly fleet ∧ ∀ other, Keeps other [] fleet fleet :=
    ⟨orderly, fun other => .refl other fleet⟩
  cases call with
  | fork taskId argv env stdoutPath stderrPath => cases quiet
  | uploadTaskLog taskId stream data => exact unchanged
  | nowUtcIso8601 => exact unchanged
  | steadyClock => exact unchanged
  | readLog path => exact unchanged
  | send request =>
      have isQuiet : request.Quiet := quiet
      intro after
      obtain ⟨orderlyAfter, spares⟩ :=
        exec_gentle config healthy isQuiet.gentle orderly
      refine ⟨orderlyAfter, fun other => ?_⟩
      by_cases same : other = agentId
      · subst same
        have deeds : after.deeds other = fleet.deeds other ++ [.exchange request _] :=
          Fleet.record_deeds_self _ other _
        refine ⟨spares other, ?_, ?_⟩
        · rw [deeds, WorkerDeed.launched_append]
          exact List.append_nil _
        · rw [deeds]
          exact isQuiet.lastReceived _ _
      · exact .of_deeds_eq (spares other)
          (Fleet.exec_others deployment config agentId surroundings _ fleet other same)

/-- A step of the others that finds nothing to sweep and neither reports nor cancels. -/
def MasterStep.Harmless (deployment : Deployment) (config : MasterConfig) (store : Store) :
    MasterStep → Prop
  | .request schedule received =>
      (MasterStep.request schedule received).Healthy deployment ∧ received.Gentle
  | .sweep attempts => deployment.Healthy attempts ∧
      ∀ attempt ∈ attempts, store.staleAgents attempt.now config.offlineAfterSec = []

theorem external_harmless {step : MasterStep}
    (harmless : step.Harmless deployment config fleet.store) (orderly : Orderly fleet) :
    let after : Fleet :=
      { fleet with store := masterStep deployment config fleet.store step }
    Orderly after ∧ ∀ agentId, Keeps agentId [] fleet after := by
  intro after
  have spares : ∀ agentId, Ledger.Spares agentId [] fleet.store.ledger after.store.ledger := by
    intro agentId
    cases step with
    | request schedule request =>
        exact masterStep_spares config harmless.1 harmless.2 orderly.consistent agentId
    | sweep attempts =>
        rw [maintenance_quiet config harmless.1 harmless.2]
        exact .refl agentId [] fleet.store.ledger
  have healthy : step.Healthy deployment := by
    cases step with
    | request schedule request => exact harmless.1
    | sweep attempts => exact harmless.1
  refine ⟨orderly.step (masterStep_consistent config healthy orderly.consistent)
    (fun agentId taskId held => (spares agentId taskId (by simp) held).2.1)
    (fun agentId => rfl) (fun agentId deed member => .inl member),
    fun agentId => .of_deeds_eq (spares agentId) rfl⟩

variable (deployment) in
/-- The worker starts a process for the next task of its batch. -/
theorem exec_fork {received pending : List AgentClient.TaskDispatch}
    {task : AgentClient.TaskDispatch} {settled : TickResult}
    (batch : Batch agentId received (task :: pending) settled fleet) (argv : List String)
    (env : List (String × String)) (stdoutPath stderrPath : String) :
    let after := (Fleet.exec deployment config agentId surroundings
      (.fork task.taskId argv env stdoutPath stderrPath) fleet).2
    Orderly after ∧ (∀ other, other ≠ agentId → Keeps other [] fleet after) ∧
      AtWork agentId received task pending settled after := by
  intro after
  have deeds : after.deeds agentId = fleet.deeds agentId ++ [.launch task.taskId] :=
    Fleet.record_deeds_self fleet agentId _
  have launched : WorkerDeed.launched (after.deeds agentId) =
      WorkerDeed.launched (fleet.deeds agentId) ++ [task.taskId] := by
    rw [deeds, WorkerDeed.launched_append]
    rfl
  have others : ∀ other, other ≠ agentId → after.deeds other = fleet.deeds other :=
    Fleet.exec_others deployment config agentId surroundings _ fleet
  have orderly : Orderly after := by
    refine ⟨batch.orderly.consistent, ?_, ?_, ?_⟩
    · intro other taskIdRaw member
      by_cases same : other = agentId
      · subst same
        rw [launched, List.mem_append, List.mem_singleton] at member
        rcases member with old | rfl
        · exact batch.orderly.assigned other taskIdRaw old
        · obtain ⟨taskId, _, parsed, held, _⟩ := batch.inHand task (by simp)
          exact ⟨taskId, parsed, held⟩
      · rw [others other same] at member
        exact batch.orderly.assigned other taskIdRaw member
    · intro other
      by_cases same : other = agentId
      · subst same
        rw [launched, List.nodup_append]
        refine ⟨batch.orderly.once other, by simp, ?_⟩
        rintro taskIdRaw old _ new rfl
        rw [List.mem_singleton.mp new] at old
        exact batch.unstarted task (by simp) old
      · rw [others other same]
        exact batch.orderly.once other
    · intro other deed member
      by_cases same : other = agentId
      · subst same
        rw [deeds, List.mem_append, List.mem_singleton] at member
        rcases member with old | rfl
        · exact batch.orderly.accepted other deed old
        · trivial
      · rw [others other same] at member
        exact batch.orderly.accepted other deed member
  have rest := batch.atWork
  refine ⟨orderly, fun other different => .of_deeds_eq (.refl _ _ _) (others other different), ?_⟩
  refine ⟨⟨orderly, ?_, rest.batch.distinct, rest.batch.inHand, ?_, rest.batch.isOver⟩,
    rest.inHand, rest.fresh⟩
  · rw [deeds]
    unfold WorkerDeed.lastReceived
    rw [List.foldl_concat]
    exact rest.batch.received_eq
  · intro other member
    rw [launched, List.mem_append, List.mem_singleton, not_or]
    refine ⟨rest.batch.unstarted other member, fun same => rest.fresh ?_⟩
    rw [← same]
    exact List.mem_map_of_mem member

/-- Nothing fails on the way to the master and back, and the database reads the worker's
clock. -/
structure Surroundings.FailureFree (deployment : Deployment) (surroundings : Surroundings) :
    Prop where
  healthy : surroundings.Healthy deployment
  delivered : surroundings.transport = .delivered
  readable : deployment.ReadsText (IsoTime.isoUtc surroundings.clock)

theorem exec_delivered (calm : surroundings.FailureFree deployment) (request : Request) :
    Fleet.exec deployment config agentId surroundings (.send request) fleet =
      let handled :=
        ControlService.handle config deployment.broker surroundings.schedule request fleet.store
      (.ok (some handled.1),
        ({ fleet with store := handled.2 } : Fleet).record agentId
          (.exchange request (some handled.1))) := by
  simp only [Fleet.exec, Fleet.send, calm.delivered]

/-- A task of the tables is read back under its id. -/
theorem parseTaskId_of_state {store : Store} {taskId : Int} {state : TaskState}
    (held : store.ledger.state taskId = some state) :
    Api.parseTaskId (toString taskId) = some taskId := by
  obtain ⟨row, found, _⟩ := Store.exists_task_of_state held
  have bounds := Store.task_bounds found
  have seqBounds := store.taskSeqBounds
  unfold maxTaskId at seqBounds
  rw [Api.parseTaskId_toString, if_pos (by omega)]

/-- A poll brings distinct tasks that it claimed and that nobody had. -/
theorem tasks_of_poll {attempts : List Attempt} (healthy : deployment.Healthy attempts)
    {store : Store} (consistent : store.ledger.Consistent) {body : Body}
    {tasks : List AgentClient.TaskDispatch}
    (received : AgentClient.receivedTasks (some (handlePollTasks deployment.broker attempts agentId
      body store).1) = some tasks) :
    let after := (handlePollTasks deployment.broker attempts agentId body store).2
    (tasks.map AgentClient.TaskDispatch.taskId).Nodup ∧
      ∀ taskIdRaw ∈ tasks.map AgentClient.TaskDispatch.taskId, ∃ taskId,
        taskIdRaw = toString taskId ∧ Api.parseTaskId taskIdRaw = some taskId ∧
          after.ledger.assignee taskId = some agentId ∧
          after.ledger.state taskId = some .running ∧ store.ledger.assignee taskId = none := by
  intro after
  obtain ⟨slots, dispatches, noSlots, sameIds, explains⟩ :=
    handlePollTasks_received healthy store agentId body received
  have claimed := explains.claimed noSlots
  have parsed : ∀ taskId ∈ dispatches.map TaskDispatch.taskId,
      Api.parseTaskId (toString taskId) = some taskId := fun taskId member =>
    parseTaskId_of_state (claimed.moved taskId member).2.1
  have asTexts : tasks.map AgentClient.TaskDispatch.taskId =
      (dispatches.map TaskDispatch.taskId).map toString := by
    rw [sameIds, List.map_map]
    rfl
  rw [asTexts]
  constructor
  · refine (explains.nodup_dispatches noSlots).map_on ?_
    intro first firstMember second secondMember sameText
    have firstParsed := parsed first firstMember
    rw [sameText, parsed second secondMember] at firstParsed
    exact (Option.some.inj firstParsed).symm
  · intro taskIdRaw member
    obtain ⟨taskId, listed, rfl⟩ := List.mem_map.mp member
    obtain ⟨queued, running, assigned⟩ := claimed.moved taskId listed
    exact ⟨taskId, rfl, parsed taskId listed, assigned, running,
      consistent.unassigned taskId (.inr queued)⟩

theorem lastReceived_exec_poll {freeSlots : Int} {answer : Option Response}
    (answered : (Fleet.exec deployment config agentId surroundings
      (.send (AgentClient.pollTasks agentId freeSlots)) fleet).1 = .ok answer) :
    WorkerDeed.lastReceived ((Fleet.exec deployment config agentId surroundings
      (.send (AgentClient.pollTasks agentId freeSlots)) fleet).2.deeds agentId) =
        (AgentClient.receivedTasks answer).getD [] := by
  have sent : (Fleet.send deployment config surroundings (AgentClient.pollTasks agentId freeSlots)
      fleet.store).1 = answer := Except.ok.inj answered
  simp only [Fleet.exec, Fleet.record_deeds_self, WorkerDeed.lastReceived_poll, sent]

/-- A poll starts a batch. -/
theorem exec_poll (calm : surroundings.FailureFree deployment) (orderly : Orderly fleet)
    {freeSlots : Int} {answer : Option Response} {tasks : List AgentClient.TaskDispatch}
    (answered : (Fleet.exec deployment config agentId surroundings
      (.send (AgentClient.pollTasks agentId freeSlots)) fleet).1 = .ok answer)
    (received : AgentClient.receivedTasks answer = some tasks) :
    Batch agentId tasks tasks [] (Fleet.exec deployment config agentId surroundings
      (.send (AgentClient.pollTasks agentId freeSlots)) fleet).2 := by
  have gentle : (AgentClient.pollTasks agentId freeSlots).Gentle := trivial
  have orderlyAfter : Orderly (Fleet.exec deployment config agentId surroundings _ fleet).2 :=
    (exec_gentle config calm.healthy gentle orderly).1
  have last := lastReceived_exec_poll config answered
  rw [received, Option.getD_some] at last
  rw [exec_delivered config calm] at answered orderlyAfter last ⊢
  cases answered
  obtain ⟨distinct, polled⟩ := tasks_of_poll calm.healthy.1 orderly.consistent received
  refine ⟨orderlyAfter, last, distinct, ?_, ?_, by simp⟩
  · intro task member
    obtain ⟨taskId, isText, parsed, assigned, running, _⟩ :=
      polled task.taskId (List.mem_map_of_mem member)
    exact ⟨taskId, isText, parsed, assigned, running⟩
  · intro task member started
    obtain ⟨taskId, _, parsed, _, _, unassigned⟩ :=
      polled task.taskId (List.mem_map_of_mem member)
    rw [Fleet.record_deeds_self, WorkerDeed.launched_append] at started
    have before : task.taskId ∈ WorkerDeed.launched (fleet.deeds agentId) := by
      simpa [WorkerDeed.launched] using started
    obtain ⟨other, parsedToo, assigned⟩ := orderly.assigned agentId task.taskId before
    rw [parsed, Option.some_inj] at parsedToo
    rw [← parsedToo, unassigned] at assigned
    cases assigned

/-- A report of the worker on the task that it is working on. -/
theorem exec_report (calm : surroundings.FailureFree deployment)
    {received pending : List AgentClient.TaskDispatch} {task : AgentClient.TaskDispatch}
    {settled : TickResult} (atWork : AtWork agentId received task pending settled fleet)
    {state : TaskState} (target : state = .running ∨ state = .succeeded ∨ state = .failed)
    {exitCode : Option Int} (inRange : ∀ value, exitCode = some value → toInt32 value = value)
    {startedAt finishedAt errorMessage : Option String}
    (reads : ∀ text, startedAt = some text ∨ finishedAt = some text →
      deployment.ReadsText text) :
    let after := (Fleet.exec deployment config agentId surroundings (.send
      (AgentClient.updateTaskStatus task.taskId (taskStateToApi state) exitCode startedAt
        finishedAt errorMessage)) fleet).2
    (∀ other, other ≠ agentId → Keeps other [] fleet after) ∧
      Batch agentId received pending settled after ∧
      WorkerDeed.launched (after.deeds agentId) = WorkerDeed.launched (fleet.deeds agentId) ∧
      ∃ taskId, task.taskId = toString taskId ∧ Api.parseTaskId task.taskId = some taskId ∧
        after.store.ledger.assignee taskId = some agentId ∧
        after.store.ledger.state taskId = some state ∧
        ∀ value, exitCode = some value → after.store.ledger.exitCode taskId = some value := by
  obtain ⟨taskId, isText, parsedId, assigned, running⟩ := atWork.inHand
  obtain ⟨body, asRequest, parsed⟩ := parseBody_updateTaskStatus
    (taskStateFromApi_toApi state) exitCode startedAt finishedAt errorMessage
  have valid : Api.isValidTaskStateTransition .running state = true := by
    rcases target with rfl | rfl | rfl <;> rfl
  have unfiltered : ∀ text option, Option.filter (fun value : String => !value.isEmpty) option =
      some text → option = some text := fun text option filtered =>
    (Option.filter_eq_some_iff.mp filtered).1
  obtain ⟨answered, explains⟩ := handleUpdateTaskStatus_accepted calm.healthy.1 calm.healthy.2
    parsedId parsed running valid
    (fun text isText => reads text (isText.imp (unfiltered text _) (unfiltered text _)))
  rw [asRequest, exec_delivered config calm]
  intro after
  have handled : after.store.ledger =
      fleet.store.ledger.step (.report taskId state (exitCode.map toInt32)) := explains.ledger_eq
  have accepted : WorkerDeed.Accepted (.exchange (.updateTaskStatus task.taskId body)
      (some (ControlService.handle config deployment.broker surroundings.schedule
        (.updateTaskStatus task.taskId body) fleet.store).1)) :=
    ⟨_, rfl, congrArg Response.status answered⟩
  have consistent : after.store.ledger.Consistent := by
    rw [handled]
    exact Ledger.report_consistent atWork.batch.orderly.consistent ⟨.running, running, valid⟩
  have stays : after.store.ledger.assignee = fleet.store.ledger.assignee := by
    rw [handled]
    rfl
  have orderly : Orderly after := by
    refine atWork.batch.orderly.exchange consistent (fun other held assignedToo => ?_) agentId
      accepted
    rw [← assignedToo]
    exact congrFun stays held
  have deeds : after.deeds agentId = fleet.deeds agentId ++ [.exchange _ _] :=
    Fleet.record_deeds_self _ agentId _
  have launched : WorkerDeed.launched (after.deeds agentId) =
      WorkerDeed.launched (fleet.deeds agentId) := by
    rw [deeds, WorkerDeed.launched_append]
    exact List.append_nil _
  have own : Keeps agentId [taskId] fleet after := by
    refine ⟨?_, launched, ?_⟩
    · rw [handled]
      exact Ledger.spares_report agentId _ taskId state _
    · rw [deeds]
      unfold WorkerDeed.lastReceived
      rw [List.foldl_concat]
  refine ⟨fun other different => .of_deeds_eq ?_ (Fleet.record_deeds_of_ne _ different _), ?_,
    launched, taskId, isText, parsedId, ?_, ?_, ?_⟩
  · rw [handled]
    exact Ledger.spares_report_of_other assigned different state _
  · refine atWork.batch.keeps orderly ?_ ?_ own
    · intro other member touched isTouched sameText
      rw [List.mem_singleton.mp isTouched, ← isText] at sameText
      exact atWork.fresh (sameText ▸ List.mem_map_of_mem member)
    · intro touched isTouched
      rw [List.mem_singleton.mp isTouched]
      exact running
  · rw [stays]
    exact assigned
  · rw [handled]
    simp [Ledger.step]
  · rintro value rfl
    rw [handled]
    simp [Ledger.step, inRange value rfl]

end Calls

end DistributedComputing
