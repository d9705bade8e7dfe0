import DistributedComputing.WorkerBatches

/-!
# Exactly-once completion when nothing fails

Each worker is verified against what it relies on the others to do: they keep the system
orderly and leave its tasks alone.  Its own calls move its batch on, so that a finished
tick leaves every task of the batch settled.
-/

namespace DistributedComputing

open TransitionRuns CallProgram ControlService WorkerApp

/-- A finished tick: what its poll brought is what it handled, and all of it is settled. -/
def TickDone (agentId : String) (outcome : TickResult) (fleet : Fleet) : Prop :=
  WorkerDeed.lastReceived (fleet.deeds agentId) = outcome.map Prod.fst ∧
    ∀ ended ∈ outcome, Settled agentId fleet ended

section Contract

variable (deployment : Deployment) (config : MasterConfig)

def tickContract : ThreadPool.Contract String WorkerCall WorkerCall.Reply Empty Fleet
    Surroundings Empty MasterStep TickResult where
  service := fleetService deployment config
  permitted := Surroundings.FailureFree deployment
  starts agentId program := ∃ worker : WorkerConfig, worker.agentId = agentId ∧
    (program = run worker ∨ program = tickOnce worker)
  happens step fleet := step.Harmless deployment config fleet.store
  inv := Orderly
  rely agentId before after := Orderly after ∧ Keeps agentId [] before after
  guar agentId before after :=
    Orderly after ∧ ∀ other, other ≠ agentId → Keeps other [] before after
  post := TickDone

abbrev SafeTick {Result : Type} (agentId : String) (post : Result → Fleet → Prop)
    (program : WorkerProgram Result) (fleet : Fleet) : Prop :=
  program.Safe (tickContract deployment config).permitted
    ((fleetService deployment config).exec agentId) ((fleetService deployment config).touch agentId)
    ((tickContract deployment config).rely agentId)
    ((tickContract deployment config).guar agentId) post fleet

end Contract

/-- An assertion of a worker that implies order and that only its own polls, processes and
reports can end. -/
structure Survives (agentId : String) (holds : Fleet → Prop) : Prop where
  orderly : ∀ fleet, holds fleet → Orderly fleet
  keeps : ∀ before after, Orderly after → Keeps agentId [] before after → holds before →
    holds after

theorem survives_orderly (agentId : String) : Survives agentId Orderly where
  orderly _ := id
  keeps _ _ orderly _ _ := orderly

theorem survives_batch (agentId : String) (received pending : List AgentClient.TaskDispatch)
    (settled : TickResult) : Survives agentId (Batch agentId received pending settled) where
  orderly _ batch := batch.orderly
  keeps _ _ orderly keeps batch := batch.keeps orderly (by simp) (by simp) keeps

theorem survives_atWork (agentId : String) (received : List AgentClient.TaskDispatch)
    (task : AgentClient.TaskDispatch) (pending : List AgentClient.TaskDispatch)
    (settled : TickResult) : Survives agentId (AtWork agentId received task pending settled) where
  orderly _ atWork := atWork.batch.orderly
  keeps _ _ orderly keeps atWork := atWork.keeps orderly keeps

theorem QuietCall.of_local (call : WorkerCall) (isLocal : call.Local) : QuietCall call := by
  cases call with
  | send request => cases isLocal
  | fork taskId argv env stdoutPath stderrPath => cases isLocal
  | uploadTaskLog taskId stream data => trivial
  | nowUtcIso8601 => trivial
  | steadyClock => trivial
  | readLog path => trivial

theorem heartbeat_quiet (worker : WorkerConfig) (workerState : AgentStatus) :
    (heartbeat worker workerState).Issues QuietCall :=
  .perform trivial fun _ => trivial

/-- What the execution of a task that nobody cancels reports. -/
structure Concluded (deployment : Deployment) (result : TaskExecutionResult) : Prop where
  notCanceled : result.canceled = false
  exitCode : toInt32 result.exitCode = result.exitCode
  finishedAt : ∀ text, optionalNonEmpty result.finishedAt = some text → deployment.ReadsText text

theorem toInt32_exitCode (status : ChildStatus) :
    toInt32 (TaskExecutor.exitCode status) = TaskExecutor.exitCode status := by
  cases status with
  | exited code =>
      have bound := code.isLt
      apply toInt32_of_bounds <;> simp only [TaskExecutor.exitCode] <;> omega
  | signaled signal =>
      have bound := signal.isLt
      apply toInt32_of_bounds <;> simp only [TaskExecutor.exitCode] <;> omega

theorem eq_of_optionalNonEmpty {value text : String} (filled : optionalNonEmpty value = some text) :
    value = text := by
  unfold optionalNonEmpty at filled
  split at filled
  · cases filled
  · exact Option.some.inj filled

/-- The state that follows from an execution. -/
theorem conclusion_final {deployment : Deployment} {result : TaskExecutionResult}
    (concluded : Concluded deployment result) :
    (conclusion result).1 = .succeeded ∨ (conclusion result).1 = .failed := by
  unfold conclusion
  rw [concluded.notCanceled]
  repeat' split
  all_goals simp_all

section Ticks

variable {deployment : Deployment} (config : MasterConfig) {agentId : String}
  {holds : Fleet → Prop} (survives : Survives agentId holds) {fleet : Fleet}

include survives

theorem safe_of_quiet {Result : Type} {program : WorkerProgram Result}
    (issues : program.Issues QuietCall) (initially : holds fleet) :
    SafeTick deployment config agentId (fun _ => holds) program fleet := by
  refine Safe.of_issues (fun before after relied => survives.keeps before after relied.1 relied.2)
    (fun call quiet state held => ⟨fun part => part.elim, fun surroundings calm => ?_⟩) issues
    initially
  obtain ⟨orderly, keeps⟩ :=
    exec_quiet config calm.healthy quiet (survives.orderly state held)
  exact ⟨⟨orderly, fun other _ => keeps other⟩,
    survives.keeps state _ orderly (keeps agentId) held⟩

/-- A quiet call, followed by a program that uses its reply. -/
theorem safe_ask {Result : Type} {post : Result → Fleet → Prop} {call : WorkerCall}
    {next : call.Reply → WorkerProgram Result} (quiet : QuietCall call) (initially : holds fleet)
    (rest : ∀ surroundings, surroundings.FailureFree deployment → ∀ later reply, holds later →
      (Fleet.exec deployment config agentId surroundings call later).1 = .ok reply →
      holds (Fleet.exec deployment config agentId surroundings call later).2 →
        SafeTick deployment config agentId post (next reply)
          (Fleet.exec deployment config agentId surroundings call later).2) :
    SafeTick deployment config agentId post (ask call >>= next) fleet := by
  refine Safe.perform (fun _ _ part => part.elim) fun later relied surroundings calm => ?_
  have held := survives.keeps fleet later relied.1 relied.2 initially
  obtain ⟨orderly, keeps⟩ := exec_quiet config calm.healthy quiet relied.1
  refine ⟨⟨orderly, fun other _ => keeps other⟩, fun reply returned => ?_⟩
  exact rest surroundings calm later reply held returned
    (survives.keeps later _ orderly (keeps agentId) held)

section Execution

variable {taskIdRaw : String} (inHand : ∀ state, holds state → InHand agentId state taskIdRaw)

include inHand

/-- The worker never sees its task canceled or queued. -/
theorem isCanceled_safe (worker : WorkerConfig) (lastCancelCheck : Int)
    (initially : holds fleet) :
    SafeTick deployment config agentId (fun checked state => checked.1 = false ∧ holds state)
      (isCanceled worker taskIdRaw lastCancelCheck) fleet := by
  refine safe_ask config survives trivial initially fun _ _ _ now _ _ held => ?_
  split
  · exact ⟨rfl, held⟩
  · have quiet : QuietCall (.send (AgentClient.getTaskState taskIdRaw)) := trivial
    refine safe_ask config survives quiet held fun surroundings calm later answer before answered
      after => ?_
    rw [exec_delivered config calm] at answered
    cases answered
    obtain ⟨taskId, _, parsed, _, running⟩ := inHand later before
    have seen := receivedState_handleGetTask calm.healthy.1 parsed running
    split
    · exact ⟨rfl, after⟩
    · rename_i state found
      have isRunning : state = "running" := Option.some.inj (found.symm.trans seen)
      subst isRunning
      exact ⟨rfl, after⟩

omit inHand in
theorem finish_safe (result : TaskExecutionResult) (notCanceled : result.canceled = false)
    (status : ChildStatus) (initially : holds fleet) :
    SafeTick deployment config agentId
      (fun ended state => Concluded deployment ended ∧ holds state)
      (TaskExecutor.finish result status) fleet := by
  refine safe_ask config survives trivial initially fun surroundings calm later finishedAt _ read
    held => ⟨⟨notCanceled, toInt32_exitCode status, ?_⟩, held⟩
  intro text filled
  have isText : IsoTime.isoUtc surroundings.clock = finishedAt := Except.ok.inj read
  rw [← eq_of_optionalNonEmpty filled, ← isText]
  exact calm.readable

theorem waitLoop_safe (worker : WorkerConfig) (timeoutSec start : Int) (child : ChildProcess)
    {result : TaskExecutionResult} (concluded : Concluded deployment result)
    (waits : List WaitResult) (lastCancelCheck : Int) (initially : holds fleet) :
    SafeTick deployment config agentId
      (fun ended state => Concluded deployment ended ∧ holds state)
      (TaskExecutor.waitLoop (isCanceled worker taskIdRaw) (heartbeat worker .busy) timeoutSec
        start child result waits lastCancelCheck) fleet := by
  induction waits generalizing lastCancelCheck fleet with
  | nil => exact finish_safe config survives result concluded.notCanceled child.status initially
  | cons wait waits ih =>
      cases wait with
      | interrupted => exact ih lastCancelCheck initially
      | failed =>
          exact ⟨⟨concluded.notCanceled, concluded.exitCode, concluded.finishedAt⟩, initially⟩
      | running =>
          refine Safe.bind (isCanceled_safe config survives inHand worker lastCancelCheck initially)
            ?_
          rintro ⟨canceled, checked⟩ later ⟨notCanceled, held⟩
          have isFalse : canceled = false := notCanceled
          subst isFalse
          refine Safe.bind (safe_of_quiet config survives
            (TaskExecutor.timedOut_issues QuietCall.of_local timeoutSec start) held) ?_
          intro late last held
          split
          · exact finish_safe config survives { result with timedOut := true }
              concluded.notCanceled child.statusWhenKilled held
          · refine Safe.bind (safe_of_quiet config survives (heartbeat_quiet worker .busy) held) ?_
            exact fun _ state held => ih checked held

end Execution

end Ticks

section Tasks

variable {deployment : Deployment} (config : MasterConfig) {agentId : String} {fleet : Fleet}
  {received pending : List AgentClient.TaskDispatch} {task : AgentClient.TaskDispatch}
  {settled : TickResult}

/-- The process of a task is started once, and the task stays in hand. -/
theorem executor_safe (worker : WorkerConfig) (logRoot : String) (lastCancelCheck : Int)
    (batch : Batch agentId received (task :: pending) settled fleet) :
    SafeTick deployment config agentId
      (fun ended state => Concluded deployment ended ∧
        AtWork agentId received task pending settled state)
      (TaskExecutor.run logRoot task (isCanceled worker task.taskId) (heartbeat worker .busy)
        lastCancelCheck) fleet := by
  refine safe_ask config (survives_batch agentId received (task :: pending) settled) trivial batch
    fun _ _ _ startedAt _ _ begun => ?_
  refine Safe.perform (fun _ _ part => part.elim) fun later relied surroundings calm => ?_
  have ready := begun.keeps relied.1 (by simp) (by simp) relied.2
  obtain ⟨orderly, others, atWork⟩ := exec_fork deployment config ready (TaskExecutor.buildArgv task)
    (TaskExecutor.childEnv task) _ _
  refine ⟨⟨orderly, others⟩, fun forked _ => ?_⟩
  have blank : ∀ result : TaskExecutionResult, result.canceled = false → result.exitCode = -1 →
      result.finishedAt = "" → Concluded deployment result := by
    intro result notCanceled exitCode finishedAt
    refine ⟨notCanceled, by rw [exitCode]; rfl, fun text filled => ?_⟩
    rw [finishedAt] at filled
    cases filled
  cases forked with
  | none => exact ⟨blank _ rfl rfl rfl, atWork⟩
  | some child =>
      have survives := survives_atWork agentId received task pending settled
      refine safe_ask config survives trivial atWork fun _ _ _ start _ _ held => ?_
      exact waitLoop_safe config survives (fun _ working => working.inHand) worker _ start child
        (blank _ rfl rfl rfl) child.waits lastCancelCheck held

section Reports

variable {exitCode : Option Int} (inRange : ∀ value, exitCode = some value → toInt32 value = value)
  {startedAt finishedAt : Option String}
  (reads : ∀ text, startedAt = some text ∨ finishedAt = some text → deployment.ReadsText text)
  (errorMessage : Option String)

include inRange reads

/-- The report that starts a task leaves it to be started. -/
theorem startReport_safe (batch : Batch agentId received (task :: pending) settled fleet) :
    SafeTick deployment config agentId
      (fun _ => Batch agentId received (task :: pending) settled)
      (report task.taskId .running exitCode startedAt finishedAt errorMessage) fleet := by
  refine Safe.perform (fun _ _ part => part.elim) fun later relied surroundings calm => ?_
  have begun := batch.keeps relied.1 (by simp) (by simp) relied.2
  obtain ⟨others, rest, launched, taskId, isText, parsed, assigned, running, _⟩ :=
    exec_report config calm begun.atWork (.inl rfl) inRange reads
  refine ⟨⟨rest.orderly, others⟩, fun _ _ => ?_⟩
  have atWork : AtWork agentId received task pending settled _ :=
    ⟨rest, ⟨taskId, isText, parsed, assigned, running⟩, begun.atWork.fresh⟩
  apply atWork.restart
  rw [launched]
  exact begun.unstarted task (by simp)

/-- The report that ends a task settles it. -/
theorem finalReport_safe (atWork : AtWork agentId received task pending settled fleet)
    {state : TaskState} (final : state = .succeeded ∨ state = .failed) {value : Int}
    (isValue : exitCode = some value) :
    SafeTick deployment config agentId
      (fun _ => Batch agentId received pending (settled ++ [(task, value)]))
      (report task.taskId state exitCode startedAt finishedAt errorMessage) fleet := by
  refine Safe.perform (fun _ _ part => part.elim) fun later relied surroundings calm => ?_
  obtain ⟨others, rest, _, taskId, _, parsed, assigned, reached, exited⟩ :=
    exec_report config calm (atWork.keeps relied.1 relied.2) (.inr final) inRange reads
  refine ⟨⟨rest.orderly, others⟩, fun _ _ => ?_⟩
  refine ⟨rest.orderly, rest.received_eq, rest.distinct, rest.inHand, rest.unstarted, ?_⟩
  intro ended member
  rcases List.mem_append.mp member with old | new
  · exact rest.isOver ended old
  · rw [List.mem_singleton.mp new]
    have isOver := final.imp (fun isState => reached.trans (congrArg some isState))
      (fun isState => reached.trans (congrArg some isState))
    exact ⟨taskId, parsed, assigned, isOver, exited value isValue⟩

end Reports

/-- The loop body settles its task, with the exit code that it returns. -/
theorem handleTask_safe (worker : WorkerConfig)
    (batch : Batch agentId received (task :: pending) settled fleet) :
    SafeTick deployment config agentId
      (fun exitCode => Batch agentId received pending (settled ++ [(task, exitCode)]))
      (handleTask worker task) fleet := by
  have survives := survives_batch agentId received (task :: pending) settled
  unfold handleTask
  split
  · refine safe_ask config survives trivial batch fun surroundings calm _ now _ read held => ?_
    have isText : IsoTime.isoUtc surroundings.clock = now := Except.ok.inj read
    refine Safe.bind (finalReport_safe config ?_ ?_ _ held.atWork (.inr rfl) rfl)
      fun _ _ ended => ended
    · rintro value ⟨⟩
      rfl
    · rintro text (none | some)
      · cases none
      · rw [← Option.some.inj some, ← isText]
        exact calm.readable
  · refine safe_ask config survives trivial batch fun surroundings calm _ startedAt _ read held => ?_
    have isText : IsoTime.isoUtc surroundings.clock = startedAt := Except.ok.inj read
    have readable : deployment.ReadsText startedAt := isText ▸ calm.readable
    refine Safe.bind (startReport_safe config (by simp) ?_ none held) fun _ _ begun => ?_
    · rintro text (some | none)
      · rw [← Option.some.inj some]
        exact readable
      · cases none
    refine safe_ask config survives trivial begun fun _ _ _ lastCancelCheck _ _ ready => ?_
    refine Safe.bind (executor_safe config worker worker.logDir lastCancelCheck ready) ?_
    rintro exec later ⟨concluded, atWork⟩
    refine Safe.bind (safe_of_quiet config (survives_atWork agentId received task pending settled)
      (uploadLogs_issues QuietCall.of_local worker task.taskId exec (conclusion exec).2) atWork) ?_
    intro errorMessage last atWork
    rw [if_neg (by simp [concluded.notCanceled])]
    refine Safe.bind (finalReport_safe config ?_ ?_ _ atWork (conclusion_final concluded) rfl)
      fun _ _ ended => ended
    · rintro value ⟨⟩
      exact concluded.exitCode
    · rintro text (started | finished)
      · rw [← eq_of_optionalNonEmpty started]
        exact readable
      · exact concluded.finishedAt text finished

theorem handleTasks_safe (worker : WorkerConfig) (tasks : List AgentClient.TaskDispatch)
    (batch : Batch agentId received tasks settled fleet) :
    SafeTick deployment config agentId
      (fun ended state => ended.map Prod.fst = tasks ∧
        Batch agentId received [] (settled ++ ended) state) (handleTasks worker tasks) fleet := by
  induction tasks generalizing settled fleet with
  | nil => exact ⟨rfl, by simpa using batch⟩
  | cons task tasks ih =>
      refine Safe.bind (handleTask_safe config worker batch) fun exitCode later rest => ?_
      refine Safe.bind (ih rest) ?_
      rintro ended last ⟨sameTasks, isOver⟩
      exact ⟨by simp [sameTasks], by simpa using isOver⟩

theorem tickOnce_safe (worker : WorkerConfig) (orderly : Orderly fleet) :
    SafeTick deployment config worker.agentId (TickDone worker.agentId) (tickOnce worker) fleet := by
  refine Safe.bind (safe_of_quiet config (survives_orderly worker.agentId)
    (heartbeat_quiet worker .idle) orderly) fun _ _ _ => ?_
  refine Safe.perform (fun _ _ part => part.elim) fun later relied surroundings calm => ?_
  have gentle : (AgentClient.pollTasks worker.agentId worker.slots).Gentle := trivial
  obtain ⟨orderlyAfter, spares⟩ := exec_gentle config calm.healthy gentle relied.1
  refine ⟨⟨orderlyAfter, fun other different => .of_deeds_eq (spares other)
    (Fleet.exec_others deployment config worker.agentId surroundings _ later other different)⟩, ?_⟩
  intro answer answered
  split
  · rename_i nothing
    refine ⟨(lastReceived_exec_poll config answered).trans ?_, by simp⟩
    rw [nothing]
    rfl
  · rename_i tasks received
    refine Safe.weaken ?_ (handleTasks_safe config worker tasks
      (exec_poll config calm relied.1 answered received))
    rintro ended state ⟨sameTasks, batch⟩
    exact ⟨batch.received_eq.trans sameTasks.symm,
      fun one member => batch.isOver one (by simp [member])⟩

theorem run_safe (worker : WorkerConfig) (orderly : Orderly fleet) :
    SafeTick deployment config worker.agentId (TickDone worker.agentId) (run worker) fleet := by
  have registers : SafeTick deployment config worker.agentId
      (fun registered state => registered = true ∧ Orderly state) (register worker) fleet := by
    have quiet : ∀ registration, QuietCall (.send (AgentClient.registerAgent registration)) :=
      fun _ => trivial
    refine safe_ask config (survives_orderly worker.agentId) (quiet _) orderly
      fun surroundings calm later answer _ answered after => ⟨?_, after⟩
    rw [exec_delivered config calm] at answered
    cases answered
    obtain ⟨body, isRequest, succeeds⟩ := handleUpsertAgent_registers calm.healthy.1
      config.heartbeatIntervalSec _ later.store
    rw [isRequest]
    exact succeeds
  refine Safe.bind registers ?_
  rintro registered later ⟨rfl, orderlyLater⟩
  exact tickOnce_safe config worker orderlyLater

theorem TickDone.keeps {outcome : TickResult} {before after : Fleet}
    (done : TickDone agentId outcome before) (keeps : Keeps agentId [] before after) :
    TickDone agentId outcome after :=
  ⟨keeps.received.trans done.1, fun ended member => (done.2 ended member).keeps (by simp) keeps⟩

theorem tickContract_fits : (tickContract deployment config).Fits where
  reflexive agentId state orderly := ⟨orderly, .refl agentId state⟩
  transitive _ _ _ _ start rest := ⟨rest.1, start.2.trans rest.2⟩
  stable _ _ _ _ relied done := done.keeps relied.2
  guarantees _ _ _ _ guaranteed :=
    ⟨guaranteed.1, fun other different => ⟨guaranteed.1, guaranteed.2 other different⟩⟩
  events step state orderly harmless := by
    obtain ⟨orderlyAfter, keeps⟩ := external_harmless config harmless orderly
    exact ⟨orderlyAfter, fun agentId => ⟨orderlyAfter, keeps agentId⟩⟩
  started := by
    rintro agentId program state orderly ⟨worker, rfl, rfl | rfl⟩
    · exact run_safe config worker orderly
    · exact tickOnce_safe config worker orderly

end Tasks

/-! ## Every run -/

/-- The step belongs to a run without failures: no message is lost, no database call fails,
nobody cancels or reports in place of a worker, and sweeps find no stale agent. -/
def FleetStep.FailureFree (deployment : Deployment) (config : MasterConfig) (pool : FleetPool) :
    FleetStep → Prop
  | .run _ => True
  | .tickOnce _ => True
  | .call _ surroundings => surroundings.FailureFree deployment
  | .master step => step.Harmless deployment config pool.state.store

theorem orderly_empty : Orderly { store := Store.empty } where
  consistent := Ledger.empty_consistent
  assigned _ _ member := by cases member
  once _ := List.nodup_nil
  accepted _ _ member := by cases member

theorem fleetRun_safe {deployment : Deployment} (config : MasterConfig) {steps : List FleetStep}
    (failureFree : Along (fleetStep deployment config) (FleetStep.FailureFree deployment config)
      (ThreadPool.idle { store := Store.empty }) steps) :
    (tickContract deployment config).AllSafe (fleetRun deployment config steps) := by
  refine run_invariant_along (fleetStep deployment config) (fun pool step allowed safe => ?_)
    ((tickContract deployment config).allSafe_idle orderly_empty) failureFree
  refine safe.step (tickContract_fits config) ?_
  cases step with
  | run worker => exact ⟨worker, rfl, .inl rfl⟩
  | tickOnce worker => exact ⟨worker, rfl, .inr rfl⟩
  | call agentId surroundings => exact allowed
  | master step => exact allowed

/-- The task of the dispatch is over in the tables, with the exit code. -/
def Store.Completed (store : Store) (ended : AgentClient.TaskDispatch × Int) : Prop :=
  ∃ taskId task, Api.parseTaskId ended.1.taskId = some taskId ∧ store.task taskId = some task ∧
    (task.state = .succeeded ∨ task.state = .failed) ∧ task.exitCode = some ended.2 ∧
    ∀ row ∈ store.taskAssignments, ¬ OpenRow taskId row

theorem Settled.completed {agentId : String} {fleet : Fleet}
    {ended : AgentClient.TaskDispatch × Int} (orderly : Orderly fleet)
    (settled : Settled agentId fleet ended) : fleet.store.Completed ended := by
  obtain ⟨taskId, parsed, _, finished, exitCode⟩ := settled
  have known : ∃ state, fleet.store.ledger.state taskId = some state ∧ state ≠ .running ∧
      (state = .succeeded ∨ state = .failed) := by
    rcases finished with succeeded | failed
    · exact ⟨.succeeded, succeeded, by simp, .inl rfl⟩
    · exact ⟨.failed, failed, by simp, .inr rfl⟩
  obtain ⟨state, held, stopped, final⟩ := known
  obtain ⟨task, found, rfl⟩ := Store.exists_task_of_state held
  refine ⟨taskId, task, parsed, found, final, ?_, ?_⟩
  · rwa [Store.ledger_exitCode, found] at exitCode
  · intro row member isOpen
    obtain ⟨other, otherFound, running, _⟩ :=
      (orderly.consistent.openRow_iff taskId row.agentId).mp ⟨row, member, isOpen, rfl⟩
    rw [found] at otherFound
    cases otherFound
    exact stopped running

theorem tasks_complete_exactly_once (deployment : Deployment) (config : MasterConfig)
    (steps : List FleetStep)
    (failureFree : Along (fleetStep deployment config) (FleetStep.FailureFree deployment config)
      (ThreadPool.idle { store := Store.empty }) steps) :
    let pool := fleetRun deployment config steps
    (∀ agentId, (WorkerDeed.launched (pool.state.deeds agentId)).Nodup) ∧
      (∀ agentId other, ∀ taskId ∈ WorkerDeed.launched (pool.state.deeds agentId),
        taskId ∈ WorkerDeed.launched (pool.state.deeds other) → agentId = other) ∧
      (∀ agentId, ∀ deed ∈ pool.state.deeds agentId, deed.Accepted) ∧
      ∀ agentId outcome, pool.threads agentId = some (.done outcome) →
        WorkerDeed.lastReceived (pool.state.deeds agentId) = outcome.map Prod.fst ∧
          ∀ ended ∈ outcome, pool.state.store.Completed ended := by
  intro pool
  have safe : (tickContract deployment config).AllSafe pool := fleetRun_safe config failureFree
  have orderly : Orderly pool.state := safe.inv
  refine ⟨orderly.once, ?_, orderly.accepted, ?_⟩
  · intro agentId other taskIdRaw member otherMember
    obtain ⟨taskId, parsed, assigned⟩ := orderly.assigned agentId taskIdRaw member
    obtain ⟨otherId, otherParsed, otherAssigned⟩ := orderly.assigned other taskIdRaw otherMember
    rw [parsed, Option.some_inj] at otherParsed
    rw [← otherParsed, assigned, Option.some_inj] at otherAssigned
    exact otherAssigned
  · intro agentId outcome finished
    have done : TickDone agentId outcome pool.state := safe.threads agentId _ finished
    exact ⟨done.1, fun ended member => (done.2 ended member).completed orderly⟩

/-- A worker polls a task, runs it and reports that it succeeded. -/
def ranToTheEnd (deployment : Deployment) : List FleetStep :=
  aboutToReport deployment ++ callsAt deployment "agent-1" 1 1000

theorem failureFree_calm : (Surroundings.calm isoPgsql 1000).FailureFree isoPgsql where
  healthy := Surroundings.healthy_calm isoPgsql 1000
  delivered := rfl
  readable _ := rfl

theorem failureFree_ranToTheEnd :
    Along (fleetStep isoPgsql {}) (FleetStep.FailureFree isoPgsql {})
      (ThreadPool.idle { store := Store.empty }) (ranToTheEnd isoPgsql) := by
  rw [along_iff]
  intro before step after split
  have member : step ∈ ranToTheEnd isoPgsql := by simp [split]
  simp only [ranToTheEnd, aboutToReport, callsAt, List.mem_append, List.mem_cons,
    List.mem_replicate] at member
  rcases member with (rfl | rfl | ⟨_, rfl⟩) | ⟨_, rfl⟩
  · exact ⟨MasterStep.healthy_calm _ _ _, trivial⟩
  · trivial
  · exact failureFree_calm
  · exact failureFree_calm

theorem tasks_complete_exactly_once_ranToTheEnd :
    let pool := fleetRun isoPgsql {} (ranToTheEnd isoPgsql)
    ∃ task, pool.threads "agent-1" = some (.done [(task, 0)]) ∧
      pool.state.store.Completed (task, 0) := by
  refine ⟨_, rfl, ?_⟩
  exact ((tasks_complete_exactly_once isoPgsql {} (ranToTheEnd isoPgsql)
    failureFree_ranToTheEnd).2.2.2 "agent-1" _ rfl).2 _ (List.mem_singleton.mpr rfl)

end DistributedComputing
