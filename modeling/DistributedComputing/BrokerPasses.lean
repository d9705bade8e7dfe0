import DistributedComputing.Deployment

/-!
# Passes of the broker operations

What the lambda of an operation returns and leaves when nothing in it fails.  The two
brokers state the same rules independently.  Here each operation is written once, over the
few points at which the brokers differ, and shown to be what either of them does.
-/

namespace DistributedComputing

open MongoCall

namespace Deployment

variable (deployment : Deployment)

/-! ## Where the brokers differ -/

def taskRecord : Deployment → TaskRow → TaskRecord
  | pgsql _ => PgBroker.taskRecord
  | mongo => MongoBroker.taskRecord
  | mongoStandalone => MongoBroker.taskRecord

def taskDispatch : Deployment → TaskRow → TaskDispatch
  | pgsql _ => PgBroker.taskDispatch
  | mongo => MongoBroker.taskDispatch
  | mongoStandalone => MongoBroker.taskDispatch

theorem taskId_taskDispatch (row : TaskRow) :
    (deployment.taskDispatch row).taskId = row.taskId := by
  cases deployment <;> rfl

def agentRecord : Deployment → AgentRow → AgentRecord
  | pgsql _ => PgBroker.agentRecord
  | mongo => MongoBroker.agentRecord
  | mongoStandalone => MongoBroker.agentRecord

/-- What the database gets of a text. -/
def textParam : Deployment → String → String
  | pgsql _, text => PgBroker.textParam text
  | mongo, text => text
  | mongoStandalone, text => text

/-- The error with which PostgreSQL refuses a task. -/
def taskRefusal : Deployment → TaskInput → Option DbError
  | pgsql _, task => PgBroker.jsonbError task
  | mongo, _ => none
  | mongoStandalone, _ => none

def newTask : Deployment → Time → Int → TaskInput → TaskRow
  | pgsql _ => PgBroker.newTask
  | mongo => MongoBroker.newTask
  | mongoStandalone => MongoBroker.newTask

/-- How far the sequence of task ids has moved on without an insert. -/
def drawnAhead : Deployment → Attempt → Nat
  | pgsql _, attempt => attempt.sequenceGap
  | mongo, _ => 0
  | mongoStandalone, _ => 0

def sequenceError : Deployment → DbError
  | pgsql _ => ⟨"nextval: reached maximum value of sequence"⟩
  | mongo => ⟨"$inc would overflow"⟩
  | mongoStandalone => ⟨"$inc would overflow"⟩

/-- The tasks that the query of a poll selects, before they are sorted. -/
def fitting : Deployment → AgentRow → List TaskRow → Except DbError (List TaskRow)
  | pgsql _, agent, rows => PgBroker.selectWhere (PgBroker.fits agent) rows
  | mongo, agent, rows => .ok (rows.filter (MongoBroker.candidateFilter agent).matches)
  | mongoStandalone, agent, rows =>
      .ok (rows.filter (MongoBroker.candidateFilter agent).matches)

/-- The times that a report carries.  PostgreSQL refuses a text that does not convert, and
the Mongo broker drops it. -/
def reportedTimes : Deployment → Attempt → TaskStatusUpdate →
    Except DbError (Option Time × Option Time)
  | pgsql timestamptz, attempt, update => do
      let started ← PgBroker.timestamptzParam timestamptz attempt.now update.startedAt
      let finished ← PgBroker.timestamptzParam timestamptz attempt.now update.finishedAt
      return (started, finished)
  | mongo, attempt, update =>
      .ok (update.startedAt.bind (IsoTime.parseIsoUtc attempt.getTime),
        update.finishedAt.bind (IsoTime.parseIsoUtc attempt.getTime))
  | mongoStandalone, attempt, update =>
      .ok (update.startedAt.bind (IsoTime.parseIsoUtc attempt.getTime),
        update.finishedAt.bind (IsoTime.parseIsoUtc attempt.getTime))

/-- The value of a time that a report sets by default.  PostgreSQL overwrites the stored
value, and the Mongo broker keeps it. -/
def defaultTime : Deployment → Time → Option Time → Option Time
  | pgsql _, now, _ => some now
  | mongo, now, held => held.or (some now)
  | mongoStandalone, now, held => held.or (some now)

def reportedMessage : Deployment → Option String → Option String
  | pgsql _, message => message.map PgBroker.textParam
  | mongo, message => message.filter fun text => !text.isEmpty
  | mongoStandalone, message => message.filter fun text => !text.isEmpty

/-- The clock reading that the sweep writes. -/
def sweepTime : Deployment → Attempt → Time
  | pgsql _, attempt => attempt.now
  | mongo, attempt => attempt.later
  | mongoStandalone, attempt => attempt.later

/-- The error message of a task that the sweep returns to the queue.  PostgreSQL keeps the
stored one, and the Mongo broker overwrites it. -/
def requeuedMessage : Deployment → Option String → Option String
  | pgsql _, held => held.or (some "agent_offline_requeued")
  | mongo, _ => some "agent_offline_requeued"
  | mongoStandalone, _ => some "agent_offline_requeued"

/-! ## The passes -/

theorem agentId_registeredRow (agent : AgentInput) (attempt : Attempt) (row : AgentRow) :
    ({ row with
      os := deployment.textParam agent.os
      version := deployment.textParam agent.version
      resourcesCpuCores := agent.cpuCores
      resourcesRamMb := agent.ramMb
      resourcesSlots := agent.slots
      status := .idle
      lastHeartbeat := attempt.now } : AgentRow).agentId = row.agentId :=
  rfl

def upsertAgentPass (agent : AgentInput) (attempt : Attempt) : DbAction Bool := fun store =>
  (.ok true, store.upsertAgent
    { agentId := agent.agentId
      os := deployment.textParam agent.os
      version := deployment.textParam agent.version
      resourcesCpuCores := agent.cpuCores
      resourcesRamMb := agent.ramMb
      resourcesSlots := agent.slots
      status := .idle
      lastHeartbeat := attempt.now }
    (fun row =>
      { row with
        os := deployment.textParam agent.os
        version := deployment.textParam agent.version
        resourcesCpuCores := agent.cpuCores
        resourcesRamMb := agent.ramMb
        resourcesSlots := agent.slots
        status := .idle
        lastHeartbeat := attempt.now })
    (deployment.agentId_registeredRow agent attempt))

theorem agentId_reportedRow (heartbeat : AgentHeartbeat) (attempt : Attempt) (row : AgentRow) :
    ({ row with status := heartbeat.status, lastHeartbeat := attempt.now } : AgentRow).agentId =
      row.agentId :=
  rfl

def updateHeartbeatPass (heartbeat : AgentHeartbeat) (attempt : Attempt) : DbAction Bool :=
  fun store =>
    match store.agent heartbeat.agentId with
    | none => (.ok false, store)
    | some _ =>
        (.ok true, store.updateAgent heartbeat.agentId
          (fun row => { row with status := heartbeat.status, lastHeartbeat := attempt.now })
          (agentId_reportedRow heartbeat attempt))

def getAgentPass (agentId : String) (_attempt : Attempt) : DbAction (Option AgentRecord) :=
  fun store => (.ok ((store.agent agentId).map deployment.agentRecord), store)

def getTaskPass (taskId : Int) (_attempt : Attempt) : DbAction (Option TaskRecord) :=
  fun store => (.ok ((store.task taskId).map deployment.taskRecord), store)

theorem taskId_newTask (now : Time) (taskId : Int) (task : TaskInput) :
    (deployment.newTask now taskId task).taskId = taskId := by
  cases deployment <;> rfl

theorem advance_bounds (store : Store) {ahead : Nat}
    (inRange : store.taskSeq + ahead + 1 ≤ maxTaskId) :
    store.taskSeq ≤ store.taskSeq + ahead + 1 ∧ store.taskSeq + ahead + 1 ≤ maxTaskId := by
  omega

/-- The id that was drawn is new. -/
theorem fresh_newTask (now : Time) (task : TaskInput) {store : Store} {ahead : Nat}
    (bounds : store.taskSeq ≤ store.taskSeq + ahead + 1 ∧
      store.taskSeq + ahead + 1 ≤ maxTaskId) :
    (store.advanceTaskSeq (store.taskSeq + ahead + 1) bounds).task
      (deployment.newTask now (store.taskSeq + ahead + 1) task).taskId = none := by
  rw [taskId_newTask, Store.task_advanceTaskSeq]
  exact Store.task_eq_none_of_lt (by omega)

theorem newTask_bounds (now : Time) (task : TaskInput) (store : Store) (ahead : Nat) :
    0 < (deployment.newTask now (store.taskSeq + ahead + 1) task).taskId ∧
      (deployment.newTask now (store.taskSeq + ahead + 1) task).taskId ≤
        store.taskSeq + ahead + 1 := by
  rw [taskId_newTask]
  exact PgBroker.nextTaskId_bounds store ahead

def createTaskPass (task : TaskInput) (attempt : Attempt) : DbAction Int := fun store =>
  match deployment.taskRefusal task with
  | some error => (.error error, store)
  | none =>
      let taskId := store.taskSeq + deployment.drawnAhead attempt + 1
      if inRange : taskId ≤ maxTaskId then
        (.ok taskId,
          (store.advanceTaskSeq taskId (advance_bounds store inRange)).insertTask
            (deployment.newTask attempt.now taskId task)
            (deployment.fresh_newTask attempt.now task (advance_bounds store inRange))
            (deployment.newTask_bounds attempt.now task store (deployment.drawnAhead attempt)))
      else (.error deployment.sequenceError, store)

/-- A create stores the task under the id that it returns, or fails without effect. -/
theorem createTaskPass_cases (task : TaskInput) (attempt : Attempt) (store : Store) :
    (∃ error, deployment.createTaskPass task attempt store = (.error error, store)) ∨
      ∃ taskId bounds fresh inRange, 0 < taskId ∧
        deployment.createTaskPass task attempt store =
          (.ok taskId, (store.advanceTaskSeq taskId bounds).insertTask
            (deployment.newTask attempt.now taskId task) fresh inRange) := by
  have positive := store.taskSeqBounds
  cases refused : deployment.taskRefusal task with
  | some error => exact .inl ⟨error, by simp only [createTaskPass, refused]⟩
  | none =>
  by_cases room : store.taskSeq + deployment.drawnAhead attempt + 1 ≤ maxTaskId
  · refine .inr ⟨store.taskSeq + deployment.drawnAhead attempt + 1, advance_bounds store room,
      deployment.fresh_newTask attempt.now task _, deployment.newTask_bounds _ _ _ _,
      by omega, ?_⟩
    simp only [createTaskPass, refused, room, dite_true]
  · refine .inl ⟨deployment.sequenceError, ?_⟩
    simp only [createTaskPass, refused, room, dite_false]

/-- The row of a task that a poll has claimed. -/
def assignedRow (now : Time) (agentId : String) (row : TaskRow) : TaskRow :=
  { row with
    state := .running
    assignedAgent := some agentId
    startedAt := some now }

theorem taskId_assignedRow (now : Time) (agentId : String) (row : TaskRow) :
    ({ row with
      state := .running
      assignedAgent := some agentId
      startedAt := some now } : TaskRow).taskId = row.taskId :=
  rfl

/-- The writes of a poll for one task. -/
def assign (now : Time) (agentId : String) (store : Store) (taskId : Int) : Store :=
  (store.updateTask taskId
    (fun row =>
      { row with
        state := .running
        assignedAgent := some agentId
        startedAt := some now })
    (taskId_assignedRow now agentId)).insertAssignment
    { taskId := taskId, agentId := agentId, assignedAt := now }

theorem agentId_polledRow (attempt : Attempt) (row : AgentRow) :
    ({ row with lastHeartbeat := attempt.now } : AgentRow).agentId = row.agentId :=
  rfl

theorem agentId_occupiedRow (chosen : List TaskRow) (row : AgentRow) :
    ({ row with status := if chosen.isEmpty then .idle else .busy } : AgentRow).agentId =
      row.agentId :=
  rfl

def pollTasksForAgentPass (agentId : String) (freeSlots : Int) (attempt : Attempt) :
    DbAction (Option (List TaskDispatch)) := fun store =>
  match store.agent agentId with
  | none => (.ok none, store)
  | some agent =>
      let polled := store.updateAgent agentId
        (fun row => { row with lastHeartbeat := attempt.now }) (agentId_polledRow attempt)
      if freeSlots ≤ 0 then (.ok (some []), polled)
      else
        match deployment.fitting agent polled.tasks.rows with
        | .error error => (.error error, store)
        | .ok rows =>
            let chosen := oldest attempt.rank freeSlots rows
            let claimed := (chosen.map TaskRow.taskId).foldl (assign attempt.now agentId) polled
            (.ok (some (chosen.map deployment.taskDispatch)),
              claimed.updateAgent agentId
                (fun row => { row with status := if chosen.isEmpty then .idle else .busy })
                (agentId_occupiedRow chosen))

def reportedRow (now : Time) (update : TaskStatusUpdate) (times : Option Time × Option Time)
    (row : TaskRow) : TaskRow :=
  { row with
    state := update.state
    exitCode := update.exitCode.or row.exitCode
    startedAt := times.1.or
      (if update.startedAt.isNone && decide (update.state = .running) then
        deployment.defaultTime now row.startedAt else row.startedAt)
    finishedAt := times.2.or
      (if update.finishedAt.isNone && update.state.terminal then
        deployment.defaultTime now row.finishedAt else row.finishedAt)
    errorMessage := (deployment.reportedMessage update.errorMessage).or row.errorMessage }

theorem taskId_reportedRow (now : Time) (update : TaskStatusUpdate)
    (times : Option Time × Option Time) (row : TaskRow) :
    (deployment.reportedRow now update times row).taskId = row.taskId :=
  rfl

/-- Close the open assignments of a task. -/
def closeTask (taskId : Int) (time : Time) (reason : String) (store : Store) : Store :=
  store.updateAssignments (fun row => decide (row.taskId = taskId) && row.unassignedAt.isNone)
    fun row => { row with unassignedAt := some time, reason := some reason }

def updateTaskStatusPass (taskId : Int) (update : TaskStatusUpdate) (attempt : Attempt) :
    DbAction Bool := fun store =>
  match deployment.reportedTimes attempt update with
  | .error error => (.error error, store)
  | .ok times =>
      match store.task taskId with
      | none => (.ok false, store)
      | some _ =>
          let written := store.updateTask taskId (deployment.reportedRow attempt.now update times)
            (deployment.taskId_reportedRow attempt.now update times)
          (.ok true,
            if update.state.terminal then
              closeTask taskId (times.2.getD attempt.now)
                (if update.state = .canceled then "canceled" else "completed") written
            else written)

theorem updateTaskStatusPass_error {taskId : Int} {update : TaskStatusUpdate}
    {attempt : Attempt} {store after : Store} {error : DbError}
    (failed : deployment.updateTaskStatusPass taskId update attempt store =
      (.error error, after)) : after = store := by
  unfold updateTaskStatusPass at failed
  cases reported : deployment.reportedTimes attempt update with
  | error other =>
      rw [reported] at failed
      exact (Prod.mk.inj failed).2.symm
  | ok times =>
      rw [reported] at failed
      cases found : store.task taskId with
      | none => simp [found] at failed
      | some row => simp [found] at failed

def canceledRow (now : Time) (row : TaskRow) : TaskRow :=
  { row with
    state := .canceled
    finishedAt := some now
    errorMessage := row.errorMessage.or (some "canceled_by_user") }

theorem taskId_canceledRow (now : Time) (row : TaskRow) :
    (canceledRow now row).taskId = row.taskId :=
  rfl

def cancelTaskPass (taskId : Int) (attempt : Attempt) : DbAction CancelTaskResult := fun store =>
  match store.task taskId with
  | none => (.ok .notFound, store)
  | some row =>
      if row.state.terminal then (.ok .invalidState, store)
      else
        (.ok .ok, closeTask taskId attempt.now "canceled_by_user"
          (store.updateTask taskId (canceledRow attempt.now) (taskId_canceledRow attempt.now)))

def requeuedRow (row : TaskRow) : TaskRow :=
  { row with
    state := .queued
    assignedAgent := none
    startedAt := none
    errorMessage := deployment.requeuedMessage row.errorMessage }

theorem taskId_requeuedRow (row : TaskRow) :
    (deployment.requeuedRow row).taskId = row.taskId :=
  rfl

theorem agentId_offlineRow (row : AgentRow) :
    ({ row with status := .offline } : AgentRow).agentId = row.agentId :=
  rfl

/-- The writes of the sweep for one agent. -/
def takeOffline (now : Time) (store : Store) (agentId : String) : Store :=
  ((store.updateAgent agentId (fun row => { row with status := .offline })
    agentId_offlineRow).updateAssignments
      (fun row => decide (row.agentId = agentId) && row.unassignedAt.isNone)
      fun row =>
        { row with
          unassignedAt := some now
          reason := some "agent_offline" }).updateTasks
    (fun row => decide (row.assignedAgent = some agentId) &&
      (decide (row.state = .running) || decide (row.state = .queued)))
    deployment.requeuedRow deployment.taskId_requeuedRow

def markOfflineAgentsAndRequeuePass (offlineAfterSec : Int) (attempt : Attempt) :
    DbAction Int := fun store =>
  let agentIds := store.staleAgents attempt.now offlineAfterSec
  (.ok agentIds.length,
    agentIds.foldl (deployment.takeOffline (deployment.sweepTime attempt)) store)

/-! ## Either broker makes these passes -/

section PgPasses

variable (timestamptz : Time → String → Option Time) (attempt : Attempt) (store : Store)

theorem settle_createTaskBody (task : TaskInput) :
    TxEnd.settle store (PgBroker.createTaskBody attempt task store) =
      (pgsql timestamptz).createTaskPass task attempt store := by
  unfold PgBroker.createTaskBody createTaskPass taskRefusal drawnAhead
  dsimp only
  cases PgBroker.jsonbError task with
  | some error => rfl
  | none =>
      dsimp only
      split <;> rfl

theorem settle_pollTasksForAgentBody (agentId : String) (freeSlots : Int) :
    TxEnd.settle store (PgBroker.pollTasksForAgentBody attempt agentId freeSlots store) =
      (pgsql timestamptz).pollTasksForAgentPass agentId freeSlots attempt store := by
  unfold PgBroker.pollTasksForAgentBody pollTasksForAgentPass
  cases store.agent agentId with
  | none => rfl
  | some agent =>
      dsimp only
      generalize (store.updateAgent agentId fun row =>
        { row with lastHeartbeat := attempt.now }) = polled
      split
      · rfl
      · simp only [fitting, bind, Except.bind]
        cases PgBroker.selectWhere (PgBroker.fits agent) polled.tasks.rows with
        | error error => rfl
        | ok rows =>
            have sameClaims : ((oldest attempt.rank freeSlots rows).map
                PgBroker.taskDispatch).foldl (PgBroker.assign attempt.now agentId) polled =
                  ((oldest attempt.rank freeSlots rows).map TaskRow.taskId).foldl
                    (assign attempt.now agentId) polled := by
              rw [List.foldl_map, List.foldl_map]
              rfl
            simp only [sameClaims, List.isEmpty_map]
            rfl

theorem settle_updateTaskStatusBody (taskId : Int) (update : TaskStatusUpdate) :
    TxEnd.settle store (PgBroker.updateTaskStatusBody timestamptz attempt taskId update store) =
      (pgsql timestamptz).updateTaskStatusPass taskId update attempt store := by
  unfold PgBroker.updateTaskStatusBody updateTaskStatusPass
  cases started : PgBroker.timestamptzParam timestamptz attempt.now update.startedAt with
  | error error => simp [reportedTimes, started, bind, Except.bind, TxEnd.settle]
  | ok startedParam =>
      cases finished : PgBroker.timestamptzParam timestamptz attempt.now update.finishedAt with
      | error error => simp [reportedTimes, started, finished, bind, Except.bind, TxEnd.settle]
      | ok finishedParam =>
          have times : (pgsql timestamptz).reportedTimes attempt update =
              .ok (startedParam, finishedParam) := by
            simp [reportedTimes, started, finished, bind, Except.bind, pure, Except.pure]
          rw [times]
          cases store.task taskId with
          | none => rfl
          | some row =>
              simp only [bind, Except.bind, pure, Except.pure]
              by_cases isOver : update.state.terminal = true
              · have sameSome := PgBroker.isSome_of_timestamptzParam finished
                have closing : ∀ held : Option Time, finishedParam.or
                    (if update.finishedAt.isNone && update.state.terminal then some attempt.now
                      else held) = some (finishedParam.getD attempt.now) := by
                  intro held
                  cases finishedParam with
                  | none => simp_all
                  | some time => rfl
                simp only [if_pos isOver]
                apply Prod.ext
                · rfl
                · refine congrArg (Store.updateAssignments _ _) (funext fun row => ?_)
                  rw [closing]
              · simp only [if_neg isOver]
                rfl

theorem settle_cancelTaskBody (taskId : Int) :
    TxEnd.settle store (PgBroker.cancelTaskBody attempt taskId store) =
      cancelTaskPass taskId attempt store := by
  unfold PgBroker.cancelTaskBody cancelTaskPass
  cases store.task taskId with
  | none => rfl
  | some row =>
      dsimp only
      split <;> rfl

theorem settle_markOfflineAgentsAndRequeueBody (offlineAfterSec : Int) :
    TxEnd.settle store (PgBroker.markOfflineAgentsAndRequeueBody attempt offlineAfterSec store) =
      (pgsql timestamptz).markOfflineAgentsAndRequeuePass offlineAfterSec attempt store := by
  have staleEq : (store.agents.rows.filter fun row =>
      decide (row.status ≠ .offline) &&
        decide (row.lastHeartbeat < attempt.now - offlineAfterSec * 1000)).map
          AgentRow.agentId = store.staleAgents attempt.now offlineAfterSec := rfl
  unfold PgBroker.markOfflineAgentsAndRequeueBody markOfflineAgentsAndRequeuePass
  dsimp only
  rw [← staleEq]
  generalize store.agents.rows.filter _ = stale
  cases stale with
  | nil => rfl
  | cons row rows =>
      simp only [List.isEmpty_cons, List.length_map]
      rfl

end PgPasses

/-- The deployments of the Mongo broker. -/
def OnMongo : Deployment → Prop
  | pgsql _ => False
  | mongo => True
  | mongoStandalone => True

theorem OnMongo.eq_or {deployment : Deployment} (onMongo : deployment.OnMongo) :
    deployment = mongo ∨ deployment = mongoStandalone := by
  cases deployment with
  | pgsql timestamptz => exact onMongo.elim
  | mongo => exact .inl rfl
  | mongoStandalone => exact .inr rfl

theorem OnMongo.reportedTimes_eq {deployment : Deployment} (onMongo : deployment.OnMongo)
    (attempt : Attempt) (update : TaskStatusUpdate) :
    deployment.reportedTimes attempt update =
      .ok (update.startedAt.bind (IsoTime.parseIsoUtc attempt.getTime),
        update.finishedAt.bind (IsoTime.parseIsoUtc attempt.getTime)) := by
  rcases onMongo.eq_or with rfl | rfl <;> rfl

section MongoPasses

variable {deployment} (onMongo : deployment.OnMongo) (attempt : Attempt) (store : Store)

include onMongo

theorem run_createTask (task : TaskInput) :
    (MongoBroker.createTaskNoTransaction attempt task).run (exec attempt.rank) store =
      deployment.createTaskPass task attempt store := by
  have ahead : deployment.drawnAhead attempt = 0 := by
    rcases onMongo.eq_or with rfl | rfl <;> rfl
  have accepted : deployment.taskRefusal task = none := by
    rcases onMongo.eq_or with rfl | rfl <;> rfl
  unfold createTaskPass
  rw [accepted]
  dsimp only
  by_cases room : store.taskSeq + 1 ≤ maxTaskId
  · have bounds : store.taskSeq ≤ store.taskSeq + 1 ∧ store.taskSeq + 1 ≤ maxTaskId := by omega
    have drawn := MongoBroker.exec_counters attempt.rank room bounds
    refine (CallProgram.run_perform_of_ok _ drawn _).trans ?_
    have inserted := MongoBroker.exec_insertDrawn attempt.rank bounds attempt.now task
    refine (CallProgram.run_perform_of_ok _ inserted _).trans ?_
    simp only [ahead, Int.natCast_zero, add_zero, room, dite_true]
    rcases onMongo.eq_or with rfl | rfl <;> rfl
  · rw [MongoBroker.createTaskNoTransaction, CallProgram.perform_bind, CallProgram.run_call,
      MongoBroker.exec_counters_full attempt.rank room]
    simp only [ahead, Int.natCast_zero, add_zero, room, dite_false]
    rcases onMongo.eq_or with rfl | rfl <;> rfl

theorem run_pollTasksForAgent (agentId : String) (freeSlots : Int) :
    (MongoBroker.pollTasksForAgentNoTransaction attempt agentId freeSlots).run
        (exec attempt.rank) store =
      deployment.pollTasksForAgentPass agentId freeSlots attempt store := by
  rw [MongoBroker.run_pollTasksForAgentNoTransaction]
  unfold pollTasksForAgentPass
  cases store.agent agentId with
  | none => rfl
  | some agent =>
      dsimp only
      have samePolled : MongoBroker.withHeartbeat attempt.now agentId store =
          store.updateAgent agentId fun row => { row with lastHeartbeat := attempt.now } := rfl
      rw [samePolled]
      generalize (store.updateAgent agentId fun row =>
        { row with lastHeartbeat := attempt.now }) = polled
      split
      · rfl
      · have fits : deployment.fitting agent polled.tasks.rows =
            .ok (polled.tasks.rows.filter (MongoBroker.candidateFilter agent).matches) := by
          rcases onMongo.eq_or with rfl | rfl <;> rfl
        simp only [fits]
        have sameClaims : (MongoBroker.candidatesOf attempt.rank agent freeSlots polled).foldl
            (MongoBroker.assignOne attempt.now agentId) polled =
              ((MongoBroker.candidatesOf attempt.rank agent freeSlots polled).map
                TaskRow.taskId).foldl (assign attempt.now agentId) polled := by
          rw [List.foldl_map]
          rfl
        simp only [MongoBroker.afterClaims, sameClaims, List.isEmpty_map]
        rcases onMongo.eq_or with rfl | rfl <;> rfl

/-- The `$set` document of a report as a change of the row that was read. -/
theorem apply_statusSet (update : TaskStatusUpdate) (row : TaskRow) :
    (MongoBroker.statusSet attempt row update).apply row =
      deployment.reportedRow attempt.now update
        (update.startedAt.bind (IsoTime.parseIsoUtc attempt.getTime),
          update.finishedAt.bind (IsoTime.parseIsoUtc attempt.getTime))
        row := by
  have byDefault : ∀ held : Option Time,
      deployment.defaultTime attempt.now held = held.or (some attempt.now) := by
    intro held
    rcases onMongo.eq_or with rfl | rfl <;> rfl
  have message : deployment.reportedMessage update.errorMessage =
      update.errorMessage.filter fun text => !text.isEmpty := by
    rcases onMongo.eq_or with rfl | rfl <;> rfl
  have startedEq : (MongoBroker.statusSet attempt row update).startedAt.getD row.startedAt =
      (update.startedAt.bind (IsoTime.parseIsoUtc attempt.getTime)).or
        (if update.startedAt.isNone && decide (update.state = .running) then
          row.startedAt.or (some attempt.now) else row.startedAt) := by
    unfold MongoBroker.statusSet
    cases update.startedAt with
    | none =>
        cases row.startedAt with
        | none => by_cases running : update.state = .running <;> simp [running]
        | some time => simp
    | some text =>
        dsimp only [Option.bind_some, Option.isNone_some]
        cases IsoTime.parseIsoUtc attempt.getTime text <;> simp
  have finishedEq : (MongoBroker.statusSet attempt row update).finishedAt.or row.finishedAt =
      (update.finishedAt.bind (IsoTime.parseIsoUtc attempt.getTime)).or
        (if update.finishedAt.isNone && update.state.terminal then
          row.finishedAt.or (some attempt.now) else row.finishedAt) := by
    unfold MongoBroker.statusSet
    cases update.finishedAt with
    | none =>
        cases row.finishedAt with
        | none => by_cases isOver : update.state.terminal = true <;> simp [isOver]
        | some time => simp
    | some text =>
        dsimp only [Option.bind_some, Option.isNone_some]
        cases IsoTime.parseIsoUtc attempt.getTime text <;> simp
  unfold TaskSet.apply reportedRow
  simp only [startedEq, finishedEq, byDefault, message]
  rfl

theorem run_updateTaskStatus (taskId : Int) (update : TaskStatusUpdate) :
    (MongoBroker.updateTaskStatusNoTransaction attempt taskId update).run
        (exec attempt.rank) store =
      deployment.updateTaskStatusPass taskId update attempt store := by
  rw [MongoBroker.run_updateTaskStatusNoTransaction]
  unfold updateTaskStatusPass
  rw [onMongo.reportedTimes_eq]
  cases found : store.task taskId with
  | none => rfl
  | some current =>
      have sameWrite : store.updateTask taskId
          (MongoBroker.statusSet attempt current update).apply (TaskSet.taskId_apply _) =
            store.updateTask taskId (deployment.reportedRow attempt.now update
              (update.startedAt.bind (IsoTime.parseIsoUtc attempt.getTime),
                update.finishedAt.bind (IsoTime.parseIsoUtc attempt.getTime)))
              (deployment.taskId_reportedRow attempt.now update _) := by
        refine Store.updateTask_congr found ?_
        exact apply_statusSet onMongo attempt update current
      dsimp only
      rw [sameWrite]
      split
      · have sameTest : AssignmentFilter.matches { taskId := some taskId } =
            fun row => decide (row.taskId = taskId) && row.unassignedAt.isNone := by
          funext row
          simp [AssignmentFilter.matches]
        rw [sameTest]
        rfl
      · rfl

omit onMongo in
theorem run_cancelTask (taskId : Int) :
    (MongoBroker.cancelTaskNoTransaction attempt taskId).run (exec attempt.rank) store =
      cancelTaskPass taskId attempt store := by
  rw [MongoBroker.run_cancelTaskNoTransaction]
  unfold cancelTaskPass
  cases found : store.task taskId with
  | none => rfl
  | some current =>
      have sameWrite : store.updateTask taskId
          (MongoBroker.cancelSet attempt.now current).apply (TaskSet.taskId_apply _) =
            store.updateTask taskId (canceledRow attempt.now)
              (taskId_canceledRow attempt.now) := by
        refine Store.updateTask_congr found ?_
        unfold MongoBroker.cancelSet TaskSet.apply canceledRow
        cases current.errorMessage <;> rfl
      have sameTest : AssignmentFilter.matches { taskId := some taskId } =
          fun row => decide (row.taskId = taskId) && row.unassignedAt.isNone := by
        funext row
        simp [AssignmentFilter.matches]
      dsimp only
      rw [sameWrite, sameTest]
      rfl

theorem run_markOfflineAgentsAndRequeue (offlineAfterSec : Int) :
    (MongoBroker.markOfflineAgentsAndRequeueNoTransaction attempt offlineAfterSec).run
        (exec attempt.rank) store =
      deployment.markOfflineAgentsAndRequeuePass offlineAfterSec attempt store := by
  rw [MongoBroker.run_markOfflineAgentsAndRequeueNoTransaction, MongoBroker.staleFilter_matches]
  have sameSweep : MongoBroker.takeOffline attempt.later =
      deployment.takeOffline (deployment.sweepTime attempt) := by
    have now : deployment.sweepTime attempt = attempt.later := by
      rcases onMongo.eq_or with rfl | rfl <;> rfl
    funext store agentId
    have sameTest : AssignmentFilter.matches { agentId := some agentId } =
        fun row => decide (row.agentId = agentId) && row.unassignedAt.isNone := by
      funext row
      simp [AssignmentFilter.matches]
    have sameTasks : (MongoBroker.activeTasksOf agentId).matches =
        fun row => decide (row.assignedAgent = some agentId) &&
          (decide (row.state = .running) || decide (row.state = .queued)) := by
      funext row
      simp [MongoBroker.activeTasksOf, TaskFilter.matches, Bool.and_comm]
    have sameRow : MongoBroker.requeueSet.apply = deployment.requeuedRow := by
      funext row
      rcases onMongo.eq_or with rfl | rfl <;> rfl
    unfold MongoBroker.takeOffline takeOffline
    simp only [now, sameTest, sameTasks, sameRow]
    rfl
  rw [sameSweep]
  rfl

end MongoPasses

/-! ## What a poll chooses -/

/-- A task that the query selects is in the table, queued and without an agent. -/
theorem mem_of_fitting {agent : AgentRow} {rows chosen : List TaskRow}
    (selected : deployment.fitting agent rows = .ok chosen) {row : TaskRow}
    (member : row ∈ chosen) : row ∈ rows ∧ row.state = .queued ∧ row.assignedAgent = none := by
  have onMongo : row ∈ rows.filter (MongoBroker.candidateFilter agent).matches →
      row ∈ rows ∧ row.state = .queued ∧ row.assignedAgent = none := by
    intro member
    obtain ⟨inRows, passes⟩ := List.mem_filter.mp member
    simp only [MongoBroker.candidateFilter, TaskFilter.matches, Option.all_some,
      List.mem_singleton, Bool.and_eq_true, decide_eq_true_eq] at passes
    exact ⟨inRows, passes.1.1.1.1.2, passes.1.1.1.2⟩
  cases deployment with
  | pgsql timestamptz =>
      obtain ⟨sublist, fitting⟩ := PgBroker.selectWhere_subset selected
      exact ⟨sublist.subset member, PgBroker.claimable_of_fits (fitting row member)⟩
  | mongo =>
      cases selected
      exact onMongo member
  | mongoStandalone =>
      cases selected
      exact onMongo member

theorem task_foldl_assign (now : Time) (agentId : String) (taskIds : List Int) (taskId : Int)
    (store : Store) :
    (taskIds.foldl (assign now agentId) store).task taskId =
      if taskId ∈ taskIds then (store.task taskId).map (assignedRow now agentId)
      else store.task taskId := by
  induction taskIds generalizing store with
  | nil => simp
  | cons other taskIds ih =>
      rw [List.foldl_cons, ih]
      by_cases same : taskId = other
      · subst same
        cases found : store.task taskId <;> simp [assign, assignedRow, found]
      · simp [assign, same]

theorem task_foldl_assign_of_not_mem {now : Time} {agentId : String} {taskIds : List Int}
    {taskId : Int} (absent : taskId ∉ taskIds) (store : Store) :
    (taskIds.foldl (assign now agentId) store).task taskId = store.task taskId := by
  rw [task_foldl_assign, if_neg absent]

end Deployment

end DistributedComputing
