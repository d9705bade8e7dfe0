import DistributedComputing.BackendPasses
import DistributedComputing.MongoModes

/-!
# The two brokers answer alike

Sequences of calls as `ControlService` makes them, on PostgreSQL and on MongoDB.  The brokers
state the rules for reports and requeues independently, and differ where a time is set by
default over another one, where a requeued task has an error message, in the times that they
read, in the order of agent ids, and in texts that hold a NUL.  Along calls that touch none
of these they return the same.
-/

namespace DistributedComputing

open TransitionRuns

/-! ## Calls and what they return -/

inductive BrokerCall
  | upsertAgent (agent : AgentInput)
  | updateHeartbeat (heartbeat : AgentHeartbeat)
  | createTask (task : TaskInput)
  | pollTasksForAgent (agentId : String) (freeSlots : Int)
  | updateTaskStatus (taskId : Int) (update : TaskStatusUpdate)
  | cancelTask (taskId : Int)
  | markOfflineAgentsAndRequeue (offlineAfterSec : Int)
  | getTask (taskId : Int)
  | listTasks (state : Option TaskState) (agentId : Option String) (limit offset : Int)
  | getAgent (agentId : String)
  | listAgents (status : Option AgentStatus) (limit offset : Int)

inductive BrokerReply
  | upserted (done : Bool)
  | beaten (known : Bool)
  | created (taskId : Int)
  | polled (dispatches : Option (List TaskDispatch))
  | updated (known : Bool)
  | canceled (result : CancelTaskResult)
  | requeued (agents : Int)
  | task (record : Option TaskRecord)
  | tasks (summaries : List TaskSummary)
  | agent (record : Option AgentRecord)
  | agents (records : List AgentRecord)

def BrokerCall.answer (broker : Broker) (attempts : List Attempt) :
    BrokerCall → DbAction BrokerReply
  | upsertAgent agent => DbAction.mapResult .upserted (broker.upsertAgent attempts agent)
  | updateHeartbeat heartbeat =>
      DbAction.mapResult .beaten (broker.updateHeartbeat attempts heartbeat)
  | createTask task => DbAction.mapResult .created (broker.createTask attempts task)
  | pollTasksForAgent agentId freeSlots =>
      DbAction.mapResult .polled (broker.pollTasksForAgent attempts agentId freeSlots)
  | updateTaskStatus taskId update =>
      DbAction.mapResult .updated (broker.updateTaskStatus attempts taskId update)
  | cancelTask taskId => DbAction.mapResult .canceled (broker.cancelTask attempts taskId)
  | markOfflineAgentsAndRequeue offlineAfterSec =>
      DbAction.mapResult .requeued (broker.markOfflineAgentsAndRequeue attempts offlineAfterSec)
  | getTask taskId => DbAction.mapResult .task (broker.getTask attempts taskId)
  | listTasks state agentId limit offset =>
      DbAction.mapResult .tasks (broker.listTasks attempts state agentId limit offset)
  | getAgent agentId => DbAction.mapResult .agent (broker.getAgent attempts agentId)
  | listAgents status limit offset =>
      DbAction.mapResult .agents (broker.listAgents attempts status limit offset)

/-- A call with the clock reading that both brokers make, and the schedule of each. -/
structure BrokerStep where
  call : BrokerCall
  now : Time
  onPg : List Attempt
  onMongo : List Attempt

def answerPg (timestamptz : Time → String → Option Time) (store : Store) (step : BrokerStep) :
    Except DbError BrokerReply × Store :=
  step.call.answer (pgBroker timestamptz) step.onPg store

def answerMongo (store : Store) (step : BrokerStep) : Except DbError BrokerReply × Store :=
  step.call.answer mongoBroker step.onMongo store

/-! ## The sequences in question -/

/-- The call is one that a handler of `ControlService` or its maintenance thread makes. -/
def BrokerCall.Issued (store : Store) : BrokerCall → Prop
  | upsertAgent agent => ∃ agentId body, Api.parseAgentInput agentId body = .ok agent
  | updateHeartbeat heartbeat =>
      ∃ agentId body, Api.parseAgentHeartbeat agentId body = .ok heartbeat
  | createTask task => ∃ body, Api.parseTaskCreate body = .ok task
  | pollTasksForAgent _ freeSlots => ∃ body, ControlService.parseFreeSlots body = .ok freeSlots
  | updateTaskStatus taskId update =>
      (∃ body, Api.parseTaskStatusUpdate body = .ok update) ∧
        ∃ row, store.task taskId = some row ∧
          Api.isValidTaskStateTransition row.state update.state = true
  | cancelTask taskId => ∃ raw, Api.parseTaskId raw = some taskId
  | getTask taskId => ∃ raw, Api.parseTaskId raw = some taskId
  | _ => True

/-- A new task has constraints of 32 bits, a creation time of its own and an id left; a list
has a limit from one on, an offset from zero on and no empty agent id. -/
def BrokerCall.Regular (store : Store) (now : Time) : BrokerCall → Prop
  | createTask task =>
      (∀ name ∈ ["cpu_cores", "ram_mb"], ∀ value,
        task.constraints.integerMember name = some value → FitsInt value) ∧
        (∀ row ∈ store.tasks.rows, row.createdAt ≠ now) ∧ store.taskSeq < maxTaskId
  | listTasks _ agentId limit offset => agentId ≠ some "" ∧ 1 ≤ limit ∧ 0 ≤ offset
  | listAgents _ limit offset => 1 ≤ limit ∧ 0 ≤ offset
  | _ => True

/-- Nothing fails, the clocks show the same, no rollback has drawn an id, and `get_time`
reads the form of the protocol. -/
structure BrokerStep.Calm (timestamptz : Time → String → Option Time) (backend : Deployment)
    (step : BrokerStep) : Prop where
  pgHealthy : (Deployment.pgsql timestamptz).Healthy step.onPg
  mongoHealthy : backend.Healthy step.onMongo
  pgClock : ∀ attempt ∈ step.onPg, attempt.now = step.now
  mongoClock : ∀ attempt ∈ step.onMongo, attempt.now = step.now
  noGap : ∀ attempt ∈ step.onPg, attempt.sequenceGap = 0
  readsForm : ∀ attempt ∈ step.onMongo, IsoTime.ReadsForm attempt.getTime

/-- A step of the sequences in question. -/
structure BrokerStep.Ordinary (timestamptz : Time → String → Option Time) (backend : Deployment)
    (store : Store) (step : BrokerStep) : Prop where
  calm : step.Calm timestamptz backend
  issued : step.call.Issued store
  regular : step.call.Regular store step.now

/-- A time in the form of the protocol, from 1970 to the end of the nanoseconds that a clock
of C++ counts, which is on 2262-04-11. -/
def ProtocolTime (text : String) : Prop :=
  ∃ time : Int, text = IsoTime.isoUtc time ∧ 0 ≤ time ∧ time / 1000 ≤ 9223372036 ∧
    IsoTime.year time ≤ 9999 ∧ time % 1000 = 0

/-- A time that is set by default does not replace another one. -/
def KeepsTime (now : Time) (held : Option Time) : Prop :=
  held = none ∨ held = some now

/-- A text that reaches the database holds a NUL; times aside, which have a form. -/
def BrokerCall.holdsNul : BrokerCall → Bool
  | upsertAgent agent =>
      textHoldsNul agent.agentId || textHoldsNul agent.os || textHoldsNul agent.version
  | updateHeartbeat heartbeat => textHoldsNul heartbeat.agentId
  | createTask task =>
      textHoldsNul task.command || task.args.holdsNul || task.env.holdsNul ||
        (normalizeConstraints task.constraints).holdsNul
  | pollTasksForAgent agentId _ => textHoldsNul agentId
  | updateTaskStatus _ update => update.errorMessage.any textHoldsNul
  | listTasks _ agentId _ _ => agentId.any textHoldsNul
  | getAgent agentId => textHoldsNul agentId
  | _ => false

/-- The brokers have the same rule for the call. -/
def BrokerStep.RuledAlike (store : Store) (step : BrokerStep) : Prop :=
  match step.call with
  | .updateTaskStatus taskId update =>
      (∀ text, update.startedAt = some text ∨ update.finishedAt = some text →
        ProtocolTime text) ∧
        ∀ row, store.task taskId = some row →
          (update.startedAt = none → update.state = .running →
            KeepsTime step.now row.startedAt) ∧
          (update.finishedAt = none → update.state.terminal = true →
            KeepsTime step.now row.finishedAt)
  | .markOfflineAgentsAndRequeue offlineAfterSec =>
      ∀ agentId ∈ store.staleAgents step.now offlineAfterSec,
        Deployment.KeepsMessages store agentId
  | .listAgents status _ _ =>
      ∀ attempt ∈ step.onPg, Deployment.SortsByCodePoints attempt.collation store status
  | _ => True

/-- The call touches nothing that the brokers do differently. -/
structure BrokerStep.Agrees (store : Store) (step : BrokerStep) : Prop where
  sinceEpoch : 0 ≤ step.now
  whole : step.call.holdsNul = false
  ruledAlike : step.RuledAlike store

/-- PostgreSQL reads times in the form of the protocol. -/
def ReadsProtocolTimes (timestamptz : Time → String → Option Time) : Prop :=
  ∀ now (time : Int), 0 ≤ time → IsoTime.year time ≤ 9999 → time % 1000 = 0 →
    timestamptz now (IsoTime.isoUtc time) = some time

/-! ## One step -/

/-- Both actions answer the same and leave databases that say the same. -/
def AnswersAlike (onPg onMongo : DbAction BrokerReply) (pg mongo : Store) : Prop :=
  (onPg pg).1 = (onMongo mongo).1 ∧ Mirrors (onPg pg).2 (onMongo mongo).2

theorem SameOutcome.mapResult {Result : Type} {onPg onMongo : DbAction Result} {pg mongo : Store}
    (same : SameOutcome onPg onMongo pg mongo) (convert : Result → BrokerReply) :
    AnswersAlike (DbAction.mapResult convert onPg) (DbAction.mapResult convert onMongo) pg
      mongo := by
  obtain ⟨result, pgAfter, mongoAfter, pgEnded, mongoEnded, mirrors⟩ := same
  unfold AnswersAlike DbAction.mapResult
  rw [pgEnded, mongoEnded]
  exact ⟨rfl, mirrors⟩

section Step

variable {timestamptz : Time → String → Option Time} {backend : Deployment} {step : BrokerStep}
  {pg mongoStore : Store}

/-- Methods answer as the passes of their first attempts do. -/
theorem BrokerStep.Calm.answersAlike (calm : step.Calm timestamptz backend) {Result : Type}
    {pgMethod mongoMethod : List Attempt → DbAction Result} {pgFallback mongoFallback : Result}
    {pgPass mongoPass : Attempt → DbAction Result}
    (pgLoop : (Deployment.pgsql timestamptz).LoopOf pgMethod pgFallback pgPass)
    (mongoLoop : backend.LoopOf mongoMethod mongoFallback mongoPass)
    (convert : Result → BrokerReply) (sinceEpoch : 0 ≤ step.now)
    (passes : ∀ first ∈ step.onPg, ∀ second ∈ step.onMongo, second.now = first.now →
      0 ≤ first.now → SameOutcome (pgPass first) (mongoPass second) pg mongoStore) :
    AnswersAlike (DbAction.mapResult convert (pgMethod step.onPg))
      (DbAction.mapResult convert (mongoMethod step.onMongo)) pg mongoStore := by
  cases pgSchedule : step.onPg with
  | nil => exact (calm.pgHealthy.nonempty pgSchedule).elim
  | cons first pgSpare =>
      cases mongoSchedule : step.onMongo with
      | nil => exact (calm.mongoHealthy.nonempty mongoSchedule).elim
      | cons second mongoSpare =>
          have firstMember : first ∈ step.onPg := by rw [pgSchedule]; exact List.mem_cons_self ..
          have secondMember : second ∈ step.onMongo := by
            rw [mongoSchedule]
            exact List.mem_cons_self ..
          have sameNow : second.now = first.now :=
            (calm.mongoClock second secondMember).trans (calm.pgClock first firstMember).symm
          obtain ⟨result, pgAfter, mongoAfter, pgEnded, mongoEnded, mirrors⟩ :=
            passes first firstMember second secondMember sameNow
              (calm.pgClock first firstMember ▸ sinceEpoch)
          apply SameOutcome.mapResult
          exact ⟨result, pgAfter, mongoAfter,
            pgLoop.first_returns (calm.pgHealthy.attempt first firstMember) pgSpare pgEnded,
            mongoLoop.first_returns (calm.mongoHealthy.attempt second secondMember) mongoSpare
              mongoEnded, mirrors⟩

/-- PostgreSQL and the Mongo broker read the same time. -/
theorem ProtocolTime.read (reads : ReadsProtocolTimes timestamptz)
    {getTime : String → Option IsoTime.Tm} (readsForm : IsoTime.ReadsForm getTime) (now : Time)
    {text : String} (form : ProtocolTime text) :
    ∃ time : Time, PgBroker.timestamptzParam timestamptz now (some text) = .ok (some time) ∧
      IsoTime.parseIsoUtc getTime text = some time ∧ 0 ≤ time := by
  obtain ⟨time, rfl, sinceEpoch, inRange, fourDigits, isWhole⟩ := form
  have rounded : time / 1000 * 1000 = time := by omega
  have noNul : textHoldsNul (IsoTime.isoUtc time) = false := by
    simpa [textHoldsNul] using IsoTime.nul_not_mem_isoUtc time
  refine ⟨time, ?_, ?_, sinceEpoch⟩
  · unfold PgBroker.timestamptzParam
    dsimp only
    rw [PgBroker.textParam_of_not_holdsNul noNul, reads now time sinceEpoch fourDigits isWhole]
  · rw [IsoTime.parseIsoUtc_isoUtc readsForm sinceEpoch inRange fourDigits, rounded]

theorem timestamptzParam_protocol (reads : ReadsProtocolTimes timestamptz)
    {getTime : String → Option IsoTime.Tm} (readsForm : IsoTime.ReadsForm getTime) (now : Time)
    {text : Option String} (form : ∀ carried, text = some carried → ProtocolTime carried) :
    PgBroker.timestamptzParam timestamptz now text =
        .ok (text.bind (IsoTime.parseIsoUtc getTime)) ∧
      ∀ time, text.bind (IsoTime.parseIsoUtc getTime) = some time → (0 : Int) ≤ time := by
  cases text with
  | none =>
      refine ⟨rfl, ?_⟩
      intro time held
      cases held
  | some carried =>
      obtain ⟨time, onPg, onMongo, sinceEpoch⟩ := (form carried rfl).read reads readsForm now
      rw [Option.bind_some, onMongo]
      refine ⟨onPg, ?_⟩
      intro other held
      cases held
      exact sinceEpoch

/-- A message of a report is never empty. -/
theorem errorMessage_ne_empty {body : Json} {update : TaskStatusUpdate}
    (parsed : Api.parseTaskStatusUpdate body = .ok update) : update.errorMessage ≠ some "" := by
  have filtered : Api.optionalNonEmptyStringField body "error_message" ≠ some "" := by
    intro empty
    have kept := (Option.filter_eq_some_iff.mp empty).2
    cases kept
  unfold Api.parseTaskStatusUpdate at parsed
  split at parsed
  · cases parsed
  · split at parsed
    · cases parsed
    · cases parsed
      exact filtered

theorem Deployment.OnMongo.broker_eq (onMongo : backend.OnMongo) :
    backend.broker = mongoBroker := by
  rcases onMongo.eq_or with rfl | rfl <;> rfl

theorem Deployment.OnMongo.pass_eq (onMongo : backend.OnMongo) {Pass : Type}
    (pass : Deployment → Pass) (same : pass .mongoStandalone = pass .mongo) :
    pass backend = pass .mongo := by
  rcases onMongo.eq_or with rfl | rfl
  · rfl
  · exact same

open Deployment

/-- One step, one case a method. -/
theorem BrokerStep.answersAlike (reads : ReadsProtocolTimes timestamptz)
    (onMongo : backend.OnMongo) (ordinary : step.Ordinary timestamptz backend pg)
    (agrees : step.Agrees pg) (mirrors : Mirrors pg mongoStore) :
    AnswersAlike (step.call.answer (pgBroker timestamptz) step.onPg)
      (step.call.answer mongoBroker step.onMongo) pg mongoStore := by
  obtain ⟨calm, issued, regular⟩ := ordinary
  obtain ⟨sinceEpoch, whole, ruledAlike⟩ := agrees
  obtain ⟨call, now, onPg, onMongoToo⟩ := step
  rw [← onMongo.broker_eq]
  cases call with
  | upsertAgent agent =>
      simp only [BrokerCall.holdsNul, Bool.or_eq_false_iff] at whole
      apply calm.answersAlike (upsertAgentLoop (pgsql timestamptz) agent)
        (upsertAgentLoop backend agent) _ sinceEpoch
      intro first _ second _ sameNow fromEpoch
      rw [onMongo.pass_eq (fun deployment => deployment.upsertAgentPass agent) rfl]
      exact upsertAgentPass_sameOutcome sameNow fromEpoch mirrors whole.1.2 whole.2
  | updateHeartbeat heartbeat =>
      apply calm.answersAlike (updateHeartbeatLoop (pgsql timestamptz) heartbeat)
        (updateHeartbeatLoop backend heartbeat) _ sinceEpoch
      intro first _ second _ sameNow fromEpoch
      exact updateHeartbeatPass_sameOutcome sameNow fromEpoch mirrors heartbeat
  | createTask task =>
      simp only [BrokerCall.holdsNul, Bool.or_eq_false_iff] at whole
      obtain ⟨fits, ownTime, room⟩ := regular
      have accepted : PgBroker.jsonbError task = none := by
        simp [PgBroker.jsonbError, whole]
      apply calm.answersAlike (createTaskLoop (pgsql timestamptz) task)
        (createTaskLoop backend task) _ sinceEpoch
      intro first member second _ sameNow fromEpoch
      rw [onMongo.pass_eq (fun deployment => deployment.createTaskPass task) rfl]
      apply createTaskPass_sameOutcome sameNow fromEpoch mirrors whole.1.1.1 accepted
        (castable_normalizeConstraints fits) (calm.noGap first member) room
      rw [calm.pgClock first member]
      exact ownTime
  | pollTasksForAgent agentId freeSlots =>
      apply calm.answersAlike (pollTasksForAgentLoop (pgsql timestamptz) agentId freeSlots)
        (pollTasksForAgentLoop backend agentId freeSlots) _ sinceEpoch
      intro first _ second _ sameNow fromEpoch
      have isPass : backend.pollTasksForAgentPass agentId freeSlots =
          mongo.pollTasksForAgentPass agentId freeSlots :=
        onMongo.pass_eq (fun deployment => deployment.pollTasksForAgentPass agentId freeSlots) rfl
      rw [isPass]
      exact pollTasksForAgentPass_sameOutcome sameNow fromEpoch mirrors agentId freeSlots
  | updateTaskStatus taskId update =>
      obtain ⟨⟨body, parsed⟩, _⟩ := issued
      obtain ⟨forms, keeps⟩ := ruledAlike
      apply calm.answersAlike (updateTaskStatusLoop (pgsql timestamptz) taskId update)
        (updateTaskStatusLoop backend taskId update) _ sinceEpoch
      intro first member second memberToo sameNow fromEpoch
      rw [onMongo.pass_eq (fun deployment => deployment.updateTaskStatusPass taskId update) rfl]
      have started := timestamptzParam_protocol reads (calm.readsForm second memberToo) first.now
        fun text held => forms text (.inl held)
      have finished := timestamptzParam_protocol reads (calm.readsForm second memberToo) first.now
        fun text held => forms text (.inr held)
      have onPgTimes : (pgsql timestamptz).reportedTimes first update =
          .ok (update.startedAt.bind (IsoTime.parseIsoUtc second.getTime),
            update.finishedAt.bind (IsoTime.parseIsoUtc second.getTime)) := by
        unfold reportedTimes
        simp only [started.1, finished.1, bind, Except.bind, pure, Except.pure]
      have wholeMessage : ∀ text, update.errorMessage = some text → textHoldsNul text = false := by
        intro text carried
        simpa [BrokerCall.holdsNul, carried] using whole
      apply updateTaskStatusPass_sameOutcome sameNow fromEpoch mirrors onPgTimes rfl started.2
        finished.2 (errorMessage_ne_empty parsed) wholeMessage
      · rw [calm.pgClock first member]
        exact fun row found => (keeps row found).1
      · rw [calm.pgClock first member]
        exact fun row found => (keeps row found).2
  | cancelTask taskId =>
      apply calm.answersAlike (cancelTaskLoop (pgsql timestamptz) taskId)
        (cancelTaskLoop backend taskId) _ sinceEpoch
      intro first _ second _ sameNow fromEpoch
      exact cancelTaskPass_sameOutcome sameNow fromEpoch mirrors taskId
  | markOfflineAgentsAndRequeue offlineAfterSec =>
      apply calm.answersAlike
        (markOfflineAgentsAndRequeueLoop (pgsql timestamptz) offlineAfterSec)
        (markOfflineAgentsAndRequeueLoop backend offlineAfterSec) _ sinceEpoch
      intro first member second _ sameNow _
      have isPass : backend.markOfflineAgentsAndRequeuePass offlineAfterSec =
          mongo.markOfflineAgentsAndRequeuePass offlineAfterSec :=
        onMongo.pass_eq
          (fun deployment => deployment.markOfflineAgentsAndRequeuePass offlineAfterSec) rfl
      rw [isPass]
      apply markOfflineAgentsAndRequeuePass_sameOutcome sameNow mirrors
      rw [calm.pgClock first member]
      exact ruledAlike
  | getTask taskId =>
      apply calm.answersAlike (getTaskLoop (pgsql timestamptz) taskId)
        (getTaskLoop backend taskId) _ sinceEpoch
      intro first _ second _ _ _
      rw [onMongo.pass_eq (fun deployment => deployment.getTaskPass taskId) rfl]
      exact getTaskPass_sameOutcome mirrors taskId
  | listTasks state agentId limit offset =>
      obtain ⟨nonempty, limited, started⟩ := regular
      apply calm.answersAlike (listTasksLoop (pgsql timestamptz) state agentId limit offset)
        (listTasksLoop backend state agentId limit offset) _ sinceEpoch
      intro first _ second _ _ _
      have isPass : backend.listTasksPass state agentId limit offset =
          mongo.listTasksPass state agentId limit offset :=
        onMongo.pass_eq (fun deployment => deployment.listTasksPass state agentId limit offset) rfl
      rw [isPass]
      exact listTasksPass_sameOutcome mirrors state nonempty limited started
  | getAgent agentId =>
      apply calm.answersAlike (getAgentLoop (pgsql timestamptz) agentId)
        (getAgentLoop backend agentId) _ sinceEpoch
      intro first _ second _ _ _
      rw [onMongo.pass_eq (fun deployment => deployment.getAgentPass agentId) rfl]
      exact getAgentPass_sameOutcome mirrors agentId
  | listAgents status limit offset =>
      obtain ⟨limited, started⟩ := regular
      apply calm.answersAlike (listAgentsLoop (pgsql timestamptz) status limit offset)
        (listAgentsLoop backend status limit offset) _ sinceEpoch
      intro first member second _ _ _
      have isPass : backend.listAgentsPass status limit offset =
          mongo.listAgentsPass status limit offset :=
        onMongo.pass_eq (fun deployment => deployment.listAgentsPass status limit offset) rfl
      rw [isPass]
      exact listAgentsPass_sameOutcome mirrors limited started (ruledAlike first member)

end Step

/-! ## Runs -/

/-- A `timestamptz` that knows the form of the protocol alone. -/
def protocolTimes (_now : Time) (text : String) : Option Time :=
  (IsoTime.readFields text).map fun tm => IsoTime.timegm tm * 1000

theorem readsProtocolTimes_protocolTimes : ReadsProtocolTimes protocolTimes := by
  intro now time sinceEpoch fourDigits isWhole
  have rounded : time / 1000 * 1000 = time := by omega
  have read := IsoTime.readsForm_readFields time sinceEpoch fourDigits
  obtain ⟨tm, isTm, seconds⟩ := Option.map_eq_some_iff.mp read
  rw [protocolTimes, isTm, Option.map_some, seconds, rounded]

/-- A call at the given time in which nothing fails. -/
def calmCall (now : Time) (call : BrokerCall) : BrokerStep where
  call := call
  now := now
  onPg := [{ now := now }]
  onMongo := [{ now := now }]

theorem calm_calmCall (timestamptz : Time → String → Option Time) (now : Time)
    (call : BrokerCall) : (calmCall now call).Calm timestamptz .mongo where
  pgHealthy := (Deployment.pgsql timestamptz).healthy_calmAttempt now
  mongoHealthy := Deployment.mongo.healthy_calmAttempt now
  pgClock := by simp [calmCall]
  mongoClock := by simp [calmCall]
  noGap := by simp [calmCall]
  readsForm := by simpa [calmCall] using IsoTime.readsForm_readFields

/-- An agent registers, a task arrives, and the agent polls it. -/
def polledTask : List BrokerStep :=
  [calmCall 0 (.upsertAgent
      { agentId := "agent-1", os := "linux", version := "dev", cpuCores := 4, ramMb := 1024 }),
    calmCall 1000 (.createTask
      { command := "true"
        args := .array []
        env := .object []
        timeoutSec := none
        constraints := .object [("cpu_cores", .integer 2)] }),
    calmCall 2000 (.pollTasksForAgent "agent-1" 1)]

/-- The report `{"state": state}`, with an end when there is one. -/
def statusReport (state : TaskState) (finishedAt : Option String) : TaskStatusUpdate where
  state := state
  exitCode := none
  startedAt := none
  finishedAt := finishedAt
  errorMessage := none

theorem along_polledTask :
    Along (fun store step => (answerPg protocolTimes store step).2)
      (fun store step => step.Ordinary protocolTimes .mongo store ∧ step.Agrees store)
      Store.empty polledTask := by
  refine ⟨⟨⟨calm_calmCall .., ?_, trivial⟩, by decide, by decide, trivial⟩,
    ⟨⟨calm_calmCall .., ?_, ?_⟩, by decide, by decide, trivial⟩,
    ⟨⟨calm_calmCall .., ?_, trivial⟩, by decide, by decide, trivial⟩, trivial⟩
  · exact ⟨"agent-1", .object [("os", .string "linux"), ("version", .string "dev"),
      ("resources", .object [("cpu_cores", .integer 4), ("ram_mb", .integer 1024),
        ("slots", .integer 0)])], rfl⟩
  · exact ⟨.object [("command", .string "true"),
      ("constraints", .object [("cpu_cores", .integer 2)])], rfl⟩
  · refine ⟨?_, by decide, by decide⟩
    intro name member value held
    simp only [List.mem_cons, List.not_mem_nil, or_false] at member
    rcases member with rfl | rfl
    · cases held
      exact ⟨by decide, by decide⟩
    · cases held
  · exact ⟨.object [("free_slots", .integer 1)], rfl⟩

/-- The agent reports the end of the task and is not heard of again. -/
def finishedTask : List BrokerStep :=
  polledTask ++
    [calmCall 5000 (.updateTaskStatus 1 (statusReport .succeeded (some (IsoTime.isoUtc 4000)))),
      calmCall 6000 (.getTask 1),
      calmCall 200000 (.markOfflineAgentsAndRequeue 120),
      calmCall 201000 (.listTasks none (some "agent-1") 50 0)]

def shownStart : Except DbError BrokerReply → Option String
  | .ok (.task record) => record.bind TaskRecord.startedAt
  | _ => none

/-- A worker reports once more that the task runs. -/
def runningAgain : List BrokerStep :=
  polledTask ++
    [calmCall 5000 (.updateTaskStatus 1 (statusReport .running none)), calmCall 6000 (.getTask 1)]

end DistributedComputing
