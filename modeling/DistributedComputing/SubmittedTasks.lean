import DistributedComputing.AgentClient
import DistributedComputing.OperationFrames
import DistributedComputing.StepCalls
import DistributedComputing.TruthfulAnswers

/-!
# Tasks as they were submitted

No operation changes the command, the arguments, the environment, the timeout or the
constraints of a task, so that a worker and a reader find there what the body of the
submission said.
-/

namespace DistributedComputing

open TransitionRuns ControlService Store

/-! ## What tasks keep -/

/-- What the row says of the submission of its task. -/
def TaskRow.submission (row : TaskRow) : String × Json × Json × Option Int × Json :=
  (row.command, row.args, row.env, row.timeoutSec, row.constraints)

namespace Store

/-- Every task is still there, as it was submitted. -/
def KeepsSubmissions (before after : Store) : Prop :=
  ∀ taskId row, before.task taskId = some row →
    ∃ later, after.task taskId = some later ∧ later.submission = row.submission

theorem KeepsSubmissions.refl (store : Store) : KeepsSubmissions store store :=
  fun _ row found => ⟨row, found, rfl⟩

theorem KeepsSubmissions.trans (first second third : Store)
    (start : KeepsSubmissions first second) (rest : KeepsSubmissions second third) :
    KeepsSubmissions first third := by
  intro taskId row found
  obtain ⟨middle, middleFound, sameMiddle⟩ := start taskId row found
  obtain ⟨later, laterFound, sameLater⟩ := rest taskId middle middleFound
  exact ⟨later, laterFound, sameLater.trans sameMiddle⟩

theorem KeepsSubmissions.of_tasks_eq {before after : Store} (same : after.tasks = before.tasks) :
    KeepsSubmissions before after := by
  intro taskId row found
  refine ⟨row, ?_, rfl⟩
  rw [task, same]
  exact found

theorem keepsSubmissions_updateTasks (store : Store) (test : TaskRow → Bool)
    {change : TaskRow → TaskRow} (keeps : ∀ row, (change row).taskId = row.taskId)
    (same : ∀ row, (change row).submission = row.submission) :
    KeepsSubmissions store (store.updateTasks test change keeps) := by
  intro taskId row found
  refine ⟨if test row then change row else row, by simp [found], ?_⟩
  split
  · exact same row
  · rfl

end Store

/-- A call of the driver changes other fields only. -/
theorem keepsSubmissions_of_effect {call : MongoCall} {before after : Store}
    (effect : ∀ taskId row, before.task taskId = some row →
      call.LeavesOrUpdates taskId row after) : KeepsSubmissions before after := by
  intro taskId row found
  rcases effect taskId row found with same | ⟨filter, set, _, _, written⟩
  · exact ⟨row, same, rfl⟩
  · exact ⟨set.apply row, written, rfl⟩

namespace Deployment

section Passes

variable (deployment : Deployment) (attempt : Attempt) (store : Store)

theorem updateHeartbeatPass_keepsSubmissions (heartbeat : AgentHeartbeat) :
    KeepsSubmissions store (updateHeartbeatPass heartbeat attempt store).2 := by
  unfold updateHeartbeatPass
  split <;> exact .of_tasks_eq rfl

theorem createTaskPass_keepsSubmissions (task : TaskInput) :
    KeepsSubmissions store (deployment.createTaskPass task attempt store).2 := by
  rcases deployment.createTaskPass_cases task attempt store with
    ⟨_, failed⟩ | ⟨taskId, bounds, fresh, inRange, _, created⟩
  · rw [failed]
    exact KeepsSubmissions.refl store
  · rw [created]
    intro other row found
    refine ⟨row, ?_, rfl⟩
    rw [Store.task_insertTask, if_neg]
    · exact found
    · rintro rfl
      rw [Store.task_advanceTaskSeq, found] at fresh
      cases fresh

theorem pollTasksForAgentPass_keepsSubmissions (agentId : String) (freeSlots : Int) :
    KeepsSubmissions store (deployment.pollTasksForAgentPass agentId freeSlots attempt store).2 := by
  unfold pollTasksForAgentPass
  split
  · exact KeepsSubmissions.refl store
  · dsimp only
    split
    · exact .of_tasks_eq rfl
    · split
      · exact KeepsSubmissions.refl store
      · rename_i rows _
        intro taskId row found
        let later := if taskId ∈ (oldest attempt.rank freeSlots rows).map TaskRow.taskId then
          assignedRow attempt.now agentId row else row
        refine ⟨later, ?_, ?_⟩
        · rw [Store.task_updateAgent, task_foldl_assign, Store.task_updateAgent, found]
          simp only [later, Option.map_some, apply_ite some]
        · simp only [later]
          split <;> rfl

theorem updateTaskStatusPass_keepsSubmissions (taskId : Int) (update : TaskStatusUpdate) :
    KeepsSubmissions store (deployment.updateTaskStatusPass taskId update attempt store).2 := by
  unfold updateTaskStatusPass
  split
  · exact KeepsSubmissions.refl store
  · rename_i times _
    split
    · exact KeepsSubmissions.refl store
    · have written := keepsSubmissions_updateTasks store (fun row => decide (row.taskId = taskId))
        (deployment.taskId_reportedRow attempt.now update times) fun _ => rfl
      dsimp only
      split <;> exact written

theorem cancelTaskPass_keepsSubmissions (taskId : Int) :
    KeepsSubmissions store (cancelTaskPass taskId attempt store).2 := by
  unfold cancelTaskPass
  split
  · exact KeepsSubmissions.refl store
  · split
    · exact KeepsSubmissions.refl store
    · exact keepsSubmissions_updateTasks store (fun row => decide (row.taskId = taskId))
        (taskId_canceledRow attempt.now) fun _ => rfl

theorem markOfflineAgentsAndRequeuePass_keepsSubmissions (offlineAfterSec : Int) :
    KeepsSubmissions store
      (deployment.markOfflineAgentsAndRequeuePass offlineAfterSec attempt store).2 := by
  unfold markOfflineAgentsAndRequeuePass
  generalize store.staleAgents attempt.now offlineAfterSec = agentIds
  dsimp only
  induction agentIds generalizing store with
  | nil => exact KeepsSubmissions.refl store
  | cons agentId agentIds ih =>
      refine KeepsSubmissions.trans _ _ _ ?_ (ih _)
      exact keepsSubmissions_updateTasks _ _ deployment.taskId_requeuedRow fun _ => rfl

end Passes

section Operations

variable (deployment : Deployment) (attempts : List Attempt) (store : Store)

/-- What holds of the passes on PostgreSQL and of the calls on MongoDB. -/
theorem keepsSubmissions_of_loop {deployment : Deployment} {Result : Type}
    {method : List Attempt → DbAction Result} {fallback : Result}
    {pass : Attempt → DbAction Result} (loop : deployment.LoopOf method fallback pass)
    (respected : ∀ attempt store, KeepsSubmissions store (pass attempt store).2)
    {attempts : List Attempt} {store : Store}
    (onMongo : deployment.OnMongo → KeepsSubmissions store (method attempts store).2) :
    KeepsSubmissions store (method attempts store).2 := by
  cases deployment with
  | pgsql timestamptz =>
      exact pg_rel KeepsSubmissions.refl KeepsSubmissions.trans loop respected attempts store
  | mongo => exact onMongo trivial
  | mongoStandalone => exact onMongo trivial

theorem transactional_keepsSubmissions {Result : Type} (result : Result)
    {body : Attempt → MongoProgram (SessionEnd Result)}
    {noTransaction : Attempt → MongoProgram Result} {ending : Result → SessionEnd Result}
    (bodyEq : ∀ attempt,
      body attempt = (noTransaction attempt >>= fun value => .done (ending value)))
    {allowed : MongoCall → Prop} (issues : ∀ attempt, (noTransaction attempt).Issues allowed) :
    KeepsSubmissions store (MongoBroker.orElse result (executeWithRetry attempts fun attempt =>
      withTransaction attempt (body attempt) (noTransaction attempt)) store).2 :=
  MongoBroker.transactional_rel KeepsSubmissions.refl KeepsSubmissions.trans
    (fun _ _ _ _ effect => keepsSubmissions_of_effect effect) result attempts bodyEq issues store

theorem plain_keepsSubmissions {Result : Type} (result : Result)
    {program : Attempt → MongoProgram Result} {allowed : MongoCall → Prop}
    (issues : ∀ attempt, (program attempt).Issues allowed) :
    KeepsSubmissions store (MongoBroker.orElse result (executeWithRetry attempts fun attempt =>
      runCalls attempt (program attempt)) store).2 :=
  MongoBroker.plain_rel KeepsSubmissions.refl KeepsSubmissions.trans
    (fun _ _ _ _ effect => keepsSubmissions_of_effect effect) result attempts issues store

theorem upsertAgent_keepsSubmissions (agent : AgentInput) :
    KeepsSubmissions store (deployment.broker.upsertAgent attempts agent store).2 := by
  refine keepsSubmissions_of_loop (deployment.upsertAgentLoop agent)
    (fun _ before => .of_tasks_eq (Store.tasks_upsertAgent ..)) fun onMongo => ?_
  have issues : ∀ attempt,
      (MongoBroker.upsertAgentOnce attempt agent).Issues MongoBroker.LeavesTasks :=
    fun _ => .perform rfl fun _ => trivial
  rcases onMongo.eq_or with rfl | rfl <;>
    exact plain_keepsSubmissions attempts store false issues

theorem updateHeartbeat_keepsSubmissions (heartbeat : AgentHeartbeat) :
    KeepsSubmissions store (deployment.broker.updateHeartbeat attempts heartbeat store).2 := by
  refine keepsSubmissions_of_loop (deployment.updateHeartbeatLoop heartbeat)
    (fun attempt before => updateHeartbeatPass_keepsSubmissions attempt before heartbeat)
    fun onMongo => ?_
  have issues : ∀ attempt,
      (MongoBroker.updateHeartbeatOnce attempt heartbeat).Issues MongoBroker.LeavesTasks :=
    fun _ => .perform rfl fun _ => trivial
  rcases onMongo.eq_or with rfl | rfl <;>
    exact plain_keepsSubmissions attempts store false issues

theorem createTask_keepsSubmissions (task : TaskInput) :
    KeepsSubmissions store (deployment.broker.createTask attempts task store).2 := by
  refine keepsSubmissions_of_loop (deployment.createTaskLoop task)
    (fun attempt before => deployment.createTaskPass_keepsSubmissions attempt before task)
    fun onMongo => ?_
  have kept := transactional_keepsSubmissions attempts store 0
    (fun attempt => MongoBroker.createTaskTransaction_eq attempt task)
    fun attempt => MongoBroker.createTaskNoTransaction_issues attempt task
  rcases onMongo.eq_or with rfl | rfl <;> exact kept

theorem pollTasksForAgent_keepsSubmissions (agentId : String) (freeSlots : Int) :
    KeepsSubmissions store
      (deployment.broker.pollTasksForAgent attempts agentId freeSlots store).2 := by
  refine keepsSubmissions_of_loop (deployment.pollTasksForAgentLoop agentId freeSlots)
    (fun attempt before =>
      deployment.pollTasksForAgentPass_keepsSubmissions attempt before agentId freeSlots)
    fun onMongo => ?_
  have kept := transactional_keepsSubmissions attempts store (some [])
    (fun attempt => MongoBroker.pollTasksForAgentTransaction_eq attempt agentId freeSlots)
    fun attempt => MongoBroker.pollTasksForAgentNoTransaction_issues attempt agentId freeSlots
  rcases onMongo.eq_or with rfl | rfl <;> exact kept

theorem updateTaskStatus_keepsSubmissions (taskId : Int) (update : TaskStatusUpdate) :
    KeepsSubmissions store
      (deployment.broker.updateTaskStatus attempts taskId update store).2 := by
  refine keepsSubmissions_of_loop (deployment.updateTaskStatusLoop taskId update)
    (fun attempt before =>
      deployment.updateTaskStatusPass_keepsSubmissions attempt before taskId update)
    fun onMongo => ?_
  have kept := transactional_keepsSubmissions attempts store false
    (fun attempt => MongoBroker.updateTaskStatusTransaction_eq attempt taskId update)
    fun attempt => MongoBroker.updateTaskStatusNoTransaction_issues attempt taskId update
  rcases onMongo.eq_or with rfl | rfl <;> exact kept

theorem cancelTask_keepsSubmissions (taskId : Int) :
    KeepsSubmissions store (deployment.broker.cancelTask attempts taskId store).2 := by
  refine keepsSubmissions_of_loop (deployment.cancelTaskLoop taskId)
    (fun attempt before => cancelTaskPass_keepsSubmissions attempt before taskId) fun onMongo => ?_
  have kept := transactional_keepsSubmissions attempts store CancelTaskResult.error
    (fun attempt => MongoBroker.cancelTaskTransaction_eq attempt taskId)
    fun attempt => MongoBroker.cancelTaskNoTransaction_issues attempt taskId
  rcases onMongo.eq_or with rfl | rfl <;> exact kept

theorem markOfflineAgentsAndRequeue_keepsSubmissions (offlineAfterSec : Int) :
    KeepsSubmissions store
      (deployment.broker.markOfflineAgentsAndRequeue attempts offlineAfterSec store).2 := by
  refine keepsSubmissions_of_loop (deployment.markOfflineAgentsAndRequeueLoop offlineAfterSec)
    (fun attempt before =>
      deployment.markOfflineAgentsAndRequeuePass_keepsSubmissions attempt before offlineAfterSec)
    fun onMongo => ?_
  have kept := transactional_keepsSubmissions attempts store 0
    (fun attempt =>
      MongoBroker.markOfflineAgentsAndRequeueTransaction_eq attempt offlineAfterSec)
    fun attempt =>
      MongoBroker.markOfflineAgentsAndRequeueNoTransaction_issues attempt offlineAfterSec
  rcases onMongo.eq_or with rfl | rfl <;> exact kept

end Operations

end Deployment

theorem masterStep_keepsSubmissions (deployment : Deployment) (config : MasterConfig)
    (store : Store) (step : MasterStep) :
    KeepsSubmissions store (masterStep deployment config store step) := by
  have call := masterStep_call deployment config store step
  generalize masterStep deployment config store step = after at call
  cases call with
  | quiet => exact KeepsSubmissions.refl store
  | upsertAgent schedule agentId body agent parsed =>
      exact deployment.upsertAgent_keepsSubmissions schedule.first store agent
  | agentHeartbeat schedule agentId body heartbeat parsed =>
      exact deployment.updateHeartbeat_keepsSubmissions schedule.first store heartbeat
  | pollTasks schedule agentId body freeSlots parsed =>
      exact deployment.pollTasksForAgent_keepsSubmissions schedule.first store agentId freeSlots
  | createTask schedule body task parsed =>
      exact deployment.createTask_keepsSubmissions schedule.first store task
  | updateTaskStatus schedule taskIdRaw body taskId update =>
      exact deployment.updateTaskStatus_keepsSubmissions schedule.second store taskId update
  | cancelTask schedule taskIdRaw taskId parsedId =>
      exact deployment.cancelTask_keepsSubmissions schedule.first store taskId
  | sweep attempts =>
      exact deployment.markOfflineAgentsAndRequeue_keepsSubmissions attempts store
        config.offlineAfterSec

theorem masterRun_keepsSubmissions (deployment : Deployment) (config : MasterConfig)
    (start : Store) (steps : List MasterStep) :
    KeepsSubmissions start (run (masterStep deployment config) start steps) := by
  induction steps generalizing start with
  | nil => exact KeepsSubmissions.refl start
  | cons step steps ih =>
      exact (masterStep_keepsSubmissions deployment config start step).trans _ _ _ (ih _)

/-! ## From the body to the row -/

/-- The strings among the items of an array member. -/
def Json.stringItems (name : String) (json : Json) : List String :=
  ((json.arrayMember name).getD []).filterMap Json.asString

/-- What is read of a task is what the body of its submission says. -/
structure SubmittedAs (body : Json) (command : String) (args : List String) (env : Json)
    (timeoutSec : Option Int) (constraints : Json) : Prop where
  command : body.stringMember "command" = some command
  args : args = body.stringItems "args"
  env : env = (body.objectMember "env").getD (.object [])
  timeoutSec : timeoutSec = body.integerMember "timeout_sec"
  isObject : constraints.IsObject
  constraints : ∀ name,
    constraints.member name = ((body.objectMember "constraints").getD (.object [])).constraint name

theorem filter_asString (items : List Json) :
    items.filter (fun item => item.asString.isSome) =
      (items.filterMap Json.asString).map Json.string := by
  induction items with
  | nil => rfl
  | cons item items ih =>
      cases item with
      | string value =>
          have isString : (Json.string value).asString = some value := rfl
          have kept : (Json.string value).asString.isSome = true := rfl
          rw [List.filter_cons, if_pos kept, List.filterMap_cons_some isString, List.map_cons, ih]
      | _ => exact ih

theorem filterMap_string (texts : List String) :
    (texts.map Json.string).filterMap Json.asString = texts := by
  induction texts with
  | nil => rfl
  | cons text texts ih => simp [Json.asString, ih]

theorem isObject_objectMember (body : Json) (name : String) :
    ((body.objectMember name).getD (.object [])).isObject = true := by
  unfold Json.objectMember
  cases body.member name with
  | none => rfl
  | some value =>
      rw [Option.filter_some]
      split
      · assumption
      · rfl

/-! ## From the row to the JSON -/

section Reads

variable (deployment : Deployment) {row : TaskRow}
  (normalized : row.constraints = normalizeConstraints row.constraints)

include normalized

/-- Both brokers read a row with normalized constraints alike. -/
theorem taskDispatch_of_normalized :
    deployment.taskDispatch row = MongoBroker.taskDispatch row := by
  cases deployment with
  | pgsql timestamptz =>
      exact congrArg (fun held => { MongoBroker.taskDispatch row with constraints := held })
        normalized.symm
  | mongo => rfl
  | mongoStandalone => rfl

theorem constraints_taskRecord_of_normalized :
    (deployment.taskRecord row).constraints = row.constraints := by
  cases deployment with
  | pgsql timestamptz => exact normalized.symm
  | mongo => rfl
  | mongoStandalone => rfl

end Reads

theorem members_taskRecordToJson (task : TaskRecord) :
    let shown := Api.taskRecordToJson task
    shown.member "command" = some (.string task.command) ∧ shown.member "args" = some task.args ∧
      shown.member "env" = some task.env ∧ shown.integerMember "timeout_sec" = task.timeoutSec ∧
      shown.member "constraints" = some task.constraints := by
  let base := Json.object
    [("task_id", .integer task.taskId), ("state", .string (taskStateToApi task.state)),
      ("command", .string task.command), ("args", task.args), ("env", task.env)]
  let withTimeout := base.insertSome "timeout_sec" (task.timeoutSec.map .integer)
  have isObject : base.IsObject := trivial
  have early : ∀ name, name ∉ ["constraints", "error_message", "exit_code", "finished_at",
      "started_at", "created_at", "assigned_agent"] →
      (Api.taskRecordToJson task).member name = withTimeout.member name := by
    intro name earlier
    simp only [List.mem_cons, List.not_mem_nil, or_false, not_or] at earlier
    obtain ⟨first, second, third, fourth, fifth, sixth, seventh⟩ := earlier
    unfold Api.taskRecordToJson
    rw [Json.member_insert_of_ne (Ne.symm first), Json.member_insertSome_of_ne (Ne.symm second),
      Json.member_insertSome_of_ne (Ne.symm third), Json.member_insertSome_of_ne (Ne.symm fourth),
      Json.member_insertSome_of_ne (Ne.symm fifth), Json.member_insert_of_ne (Ne.symm sixth),
      Json.member_insertSome_of_ne (Ne.symm seventh)]
  have untouched : ∀ name, name ≠ "timeout_sec" → withTimeout.member name = base.member name :=
    fun name different => Json.member_insertSome_of_ne different.symm _ base
  refine ⟨?_, ?_, ?_, ?_, ?_⟩
  · exact (early "command" (by decide)).trans (untouched "command" (by decide))
  · exact (early "args" (by decide)).trans (untouched "args" (by decide))
  · exact (early "env" (by decide)).trans (untouched "env" (by decide))
  · rw [Json.integerMember, early "timeout_sec" (by decide), isObject.member_insertSome_self _ _ rfl]
    cases task.timeoutSec <;> rfl
  · unfold Api.taskRecordToJson
    apply Json.IsObject.member_insert_self
    repeat first | apply Json.IsObject.insertSome | apply Json.IsObject.insert
    exact isObject

section Submission

variable {body : Json} {input : TaskInput} (parsed : Api.parseTaskCreate body = .ok input)

include parsed

theorem parseTaskCreate_ok :
    body.stringMember "command" = some input.command ∧
      input.args = .array ((body.stringItems "args").map .string) ∧
      input.env = (body.objectMember "env").getD (.object []) ∧
      input.timeoutSec = (body.integerMember "timeout_sec").map toInt32 ∧
      input.constraints = (body.objectMember "constraints").getD (.object []) := by
  unfold Api.parseTaskCreate at parsed
  split at parsed
  · cases parsed
  · rename_i command isCommand
    cases parsed
    refine ⟨isCommand, ?_, rfl, rfl, rfl⟩
    dsimp only
    unfold Json.stringItems Json.arrayMember
    cases body.member "args" with
    | none => rfl
    | some args =>
        cases args with
        | array items => exact congrArg Json.array (filter_asString items)
        | _ => rfl

/-- The row that a create inserts. -/
theorem submission_newTask (whole : textHoldsNul input.command = false) (deployment : Deployment)
    (now : Time) (taskId : Int) :
    (deployment.newTask now taskId input).submission =
      (input.command, input.args, input.env, input.timeoutSec,
        normalizeConstraints input.constraints) := by
  obtain ⟨_, args, env, _, _⟩ := parseTaskCreate_ok parsed
  have argsThere : input.args.isNull = false := by
    rw [args]
    rfl
  have envThere : input.env.isNull = false := by
    have isObject := isObject_objectMember body "env"
    rw [← env] at isObject
    cases held : input.env with
    | null =>
        rw [held] at isObject
        cases isObject
    | _ => rfl
  have command := PgBroker.textParam_of_not_holdsNul whole
  cases deployment <;>
    simp [Deployment.newTask, PgBroker.newTask, MongoBroker.newTask, TaskRow.submission, command,
      argsThere, envThere]

variable (fits : ∀ value, body.integerMember "timeout_sec" = some value →
    -2 ^ 31 ≤ value ∧ value < 2 ^ 31)
  {row : TaskRow} (held : row.submission = (input.command, input.args, input.env,
    input.timeoutSec, normalizeConstraints input.constraints))

include fits held

theorem submittedAs_row :
    row.args = .array ((body.stringItems "args").map .string) ∧
      row.constraints = normalizeConstraints row.constraints ∧
      SubmittedAs body row.command (body.stringItems "args") row.env row.timeoutSec
        row.constraints := by
  obtain ⟨command, args, env, timeoutSec, constraints⟩ := parseTaskCreate_ok parsed
  simp only [TaskRow.submission, Prod.mk.injEq] at held
  obtain ⟨rowCommand, rowArgs, rowEnv, rowTimeout, rowConstraints⟩ := held
  have timeout : row.timeoutSec = body.integerMember "timeout_sec" := by
    rw [rowTimeout, timeoutSec]
    cases requested : body.integerMember "timeout_sec" with
    | none => rfl
    | some value =>
        obtain ⟨low, high⟩ := fits value requested
        rw [Option.map_some, toInt32_of_bounds low high]
  refine ⟨rowArgs.trans args, ?_, ?_⟩
  · rw [rowConstraints, Json.normalizeConstraints_normalizeConstraints]
  · exact
      { command := rowCommand ▸ command
        args := rfl
        env := rowEnv.trans env
        timeoutSec := timeout
        isObject := by
          rw [rowConstraints]
          exact Json.isObject_normalizeConstraints input.constraints
        constraints := by
          intro name
          rw [rowConstraints, Json.member_normalizeConstraints, constraints] }

/-- The worker receives the task as it was submitted. -/
theorem submittedAs_received (deployment : Deployment) :
    let task := AgentClient.received (deployment.taskDispatch row)
    SubmittedAs body task.command task.args task.env task.timeoutSec task.constraints := by
  obtain ⟨rowArgs, normalized, submitted⟩ := submittedAs_row parsed fits held
  have envObject : row.env.isObject = true := by
    rw [submitted.env]
    exact isObject_objectMember body "env"
  have timeout : row.timeoutSec.map toInt32 = row.timeoutSec := by
    rw [submitted.timeoutSec]
    cases requested : body.integerMember "timeout_sec" with
    | none => rfl
    | some value =>
        obtain ⟨low, high⟩ := fits value requested
        rw [Option.map_some, toInt32_of_bounds low high]
  rw [taskDispatch_of_normalized deployment normalized]
  unfold AgentClient.received MongoBroker.taskDispatch
  dsimp only
  rw [rowArgs, if_pos envObject, if_pos submitted.isObject.isObject_eq, timeout]
  have args : ((Json.array ((body.stringItems "args").map .string)).asArray.getD []).filterMap
      Json.asString = body.stringItems "args" := filterMap_string _
  rw [args]
  exact submitted

/-- A reader sees the task as it was submitted. -/
theorem submittedAs_taskRecordToJson (deployment : Deployment) :
    let shown := Api.taskRecordToJson (deployment.taskRecord row)
    ∃ command env constraints, shown.stringMember "command" = some command ∧
      shown.member "args" = some (.array ((body.stringItems "args").map .string)) ∧
      shown.member "env" = some env ∧ shown.member "constraints" = some constraints ∧
      SubmittedAs body command (body.stringItems "args") env (shown.integerMember "timeout_sec")
        constraints := by
  obtain ⟨rowArgs, normalized, submitted⟩ := submittedAs_row parsed fits held
  have fields : (deployment.taskRecord row).command = row.command ∧
      (deployment.taskRecord row).args = row.args ∧ (deployment.taskRecord row).env = row.env ∧
        (deployment.taskRecord row).timeoutSec = row.timeoutSec := by
    cases deployment <;> exact ⟨rfl, rfl, rfl, rfl⟩
  obtain ⟨command, args, env, timeoutSec, constraints⟩ :=
    members_taskRecordToJson (deployment.taskRecord row)
  rw [fields.1] at command
  rw [fields.2.1, rowArgs] at args
  rw [fields.2.2.1] at env
  rw [fields.2.2.2] at timeoutSec
  rw [constraints_taskRecord_of_normalized deployment normalized] at constraints
  refine ⟨row.command, row.env, row.constraints, ?_, args, env, constraints, ?_⟩
  · rw [Json.stringMember, command]
    rfl
  · rw [timeoutSec]
    exact submitted

end Submission

/-! ## From the submission to the worker -/

namespace Deployment

variable {deployment : Deployment} {attempts : List Attempt} {store after : Store}

/-- The tasks that a poll returns are those of the table. -/
theorem row_of_pollTasksForAgent {agentId : String} {freeSlots : Int}
    {dispatches : List TaskDispatch}
    (polled : deployment.broker.pollTasksForAgent attempts agentId freeSlots store =
      (.ok (some dispatches), after)) :
    ∀ dispatch ∈ dispatches, ∃ row, after.task dispatch.taskId = some row ∧
      deployment.taskDispatch row = dispatch := by
  intro dispatch member
  rcases (deployment.pollTasksForAgentLoop agentId freeSlots).returned polled with
    ⟨attempt, _, before, passed⟩ | ⟨_, isDefault, _⟩
  · rcases pollTasksForAgentPass_promises passed with ⟨unknown, _⟩ | ⟨sent, _, isSent, _, _, rows⟩
    · cases unknown
    · cases isSent
      obtain ⟨row, found, _, _, isDispatch⟩ := rows dispatch member
      exact ⟨row, found, isDispatch⟩
  · cases isDefault
    cases member

/-- A create that returns an id has inserted the task. -/
theorem row_of_createTask {task : TaskInput} {taskId : Int} (positive : 0 < taskId)
    (created : deployment.broker.createTask attempts task store = (.ok taskId, after)) :
    ∃ now, after.task taskId = some (deployment.newTask now taskId task) := by
  rcases (deployment.createTaskLoop task).returned created with
    ⟨attempt, _, before, passed⟩ | ⟨_, isDefault, _⟩
  · exact ⟨attempt.now, (createTaskPass_promises passed).2⟩
  · omega

end Deployment

/-- The id of a task is recovered from its text. -/
theorem toString_taskId_inj {first second : Store} {taskId other : Int} {row otherRow : TaskRow}
    (found : first.task taskId = some row) (otherFound : second.task other = some otherRow)
    (same : toString taskId = toString other) : taskId = other := by
  have parsed : ∀ {store : Store} {taskId : Int} {row : TaskRow}, store.task taskId = some row →
      Api.parseTaskId (toString taskId) = some taskId := by
    intro store taskId row found
    have bounds := Store.task_bounds found
    have seqBounds := store.taskSeqBounds
    rw [Api.parseTaskId_toString, if_pos]
    unfold maxTaskId at seqBounds
    omega
  have equal := parsed found
  rw [same, parsed otherFound] at equal
  exact (Option.some.inj equal).symm

/-- Whatever happens after a task was created, every worker that is given it receives it as it
was submitted, and every reader sees it so. -/
theorem tasks_reach_workers_as_submitted (deployment : Deployment) (config : MasterConfig)
    {body : Json} {input : TaskInput} (parsed : Api.parseTaskCreate body = .ok input)
    (whole : body.holdsNul = false)
    (fits : ∀ value, body.integerMember "timeout_sec" = some value →
      -2 ^ 31 ≤ value ∧ value < 2 ^ 31)
    {start created : Store} {schedule : List Attempt} {taskId : Int} (positive : 0 < taskId)
    (inserted : deployment.broker.createTask schedule input start = (.ok taskId, created))
    (steps : List MasterStep) :
    let store := run (masterStep deployment config) created steps
    (∀ attempts agentId freeSlots dispatches after,
      deployment.broker.pollTasksForAgent attempts agentId freeSlots store =
          (.ok (some dispatches), after) →
        ∃ tasks, AgentClient.receivedTasks (some (dispatchesResponse dispatches)) = some tasks ∧
          tasks.map AgentClient.TaskDispatch.taskId =
            dispatches.map (fun dispatch => toString dispatch.taskId) ∧
          ∀ task ∈ tasks, task.taskId = toString taskId →
            SubmittedAs body task.command task.args task.env task.timeoutSec task.constraints) ∧
      ∀ attempts task after,
        deployment.broker.getTask attempts taskId store = (.ok (some task), after) →
          let shown := Api.taskRecordToJson task
          ∃ command env constraints, shown.stringMember "command" = some command ∧
            shown.member "args" = some (.array ((body.stringItems "args").map .string)) ∧
            shown.member "env" = some env ∧ shown.member "constraints" = some constraints ∧
            SubmittedAs body command (body.stringItems "args") env
              (shown.integerMember "timeout_sec") constraints := by
  intro store
  obtain ⟨now, isNew⟩ := Deployment.row_of_createTask positive inserted
  obtain ⟨row, found, sameRow⟩ :=
    masterRun_keepsSubmissions deployment config created steps taskId _ isNew
  have submission := sameRow.trans (submission_newTask parsed (Json.whole_of_stringMember whole
    (parseTaskCreate_ok parsed).1) deployment now taskId)
  refine ⟨?_, ?_⟩
  · intro attempts agentId freeSlots dispatches after polled
    refine ⟨_, AgentClient.receivedTasks_dispatchesResponse dispatches, ?_, ?_⟩
    · rw [List.map_map]
      rfl
    · intro task member sameId
      obtain ⟨dispatch, isSent, rfl⟩ := List.mem_map.mp member
      obtain ⟨sentRow, sentFound, rfl⟩ := Deployment.row_of_pollTasksForAgent polled dispatch isSent
      have kept := deployment.pollTasksForAgent_keepsSubmissions attempts store agentId freeSlots
      rw [polled] at kept
      obtain ⟨later, laterFound, sameLater⟩ := kept taskId row found
      have equal := toString_taskId_inj sentFound laterFound sameId
      rw [equal, laterFound] at sentFound
      cases sentFound
      exact submittedAs_received parsed fits (sameLater.trans submission) deployment
  · intro attempts task after read
    obtain ⟨_, held, heldFound, rfl⟩ := task_of_getTask read
    rw [found] at heldFound
    cases heldFound
    exact submittedAs_taskRecordToJson parsed fits submission deployment

/-- Members and arguments that the master does not keep are among these. -/
def mixedSubmission : Json :=
  .object
    [("command", .string "build"),
      ("args", .array [.string "--fast", .integer 7, .string "all"]),
      ("env", .object [("MODE", .string "release")]), ("timeout_sec", .integer 30),
      ("constraints", .object
        [("os", .string "linux"), ("gpu", .boolean true), ("labels", .array [.string "ssd"])])]

theorem tasks_reach_workers_as_submitted_mixedSubmission :
    ∃ input created dispatches after tasks,
      Api.parseTaskCreate mixedSubmission = .ok input ∧
      mongoBroker.createTask [Deployment.mongo.calmAttempt 0] input Store.empty =
        (.ok 1, created) ∧
      mongoBroker.pollTasksForAgent [Deployment.mongo.calmAttempt 2000] "worker" 1
          (run (masterStep .mongo {}) created [.calm .mongo 1000 (AgentClient.registerAgent
            { agentId := "worker", os := "linux", version := "1" })]) =
        (.ok (some dispatches), after) ∧
      AgentClient.receivedTasks (some (dispatchesResponse dispatches)) = some tasks ∧
      tasks.map AgentClient.TaskDispatch.taskId = ["1"] ∧
      ∀ task ∈ tasks, task.taskId = toString (1 : Int) →
        SubmittedAs mixedSubmission task.command task.args task.env task.timeoutSec
          task.constraints := by
  have fits : ∀ value, mixedSubmission.integerMember "timeout_sec" = some value →
      -2 ^ 31 ≤ value ∧ value < 2 ^ 31 := by
    rintro _ ⟨⟩
    decide
  obtain ⟨input, created, dispatches, after, parsed, inserted, polled, ids⟩ :
      ∃ input created dispatches after, Api.parseTaskCreate mixedSubmission = .ok input ∧
        mongoBroker.createTask [Deployment.mongo.calmAttempt 0] input Store.empty =
          (.ok 1, created) ∧
        mongoBroker.pollTasksForAgent [Deployment.mongo.calmAttempt 2000] "worker" 1
            (run (masterStep .mongo {}) created [.calm .mongo 1000 (AgentClient.registerAgent
              { agentId := "worker", os := "linux", version := "1" })]) =
          (.ok (some dispatches), after) ∧
        dispatches.map (fun dispatch => toString dispatch.taskId) = ["1"] :=
    ⟨_, _, _, _, rfl, rfl, rfl, rfl⟩
  obtain ⟨tasks, receives, sameIds, submitted⟩ :=
    (tasks_reach_workers_as_submitted .mongo {} parsed (by decide) fits (by decide) inserted
      [.calm .mongo 1000 (AgentClient.registerAgent
        { agentId := "worker", os := "linux", version := "1" })]).1 _ _ _ _ _ polled
  exact ⟨input, created, dispatches, after, tasks, parsed, inserted, polled, receives,
    sameIds.trans ids, submitted⟩

end DistributedComputing
