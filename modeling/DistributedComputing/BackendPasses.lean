import DistributedComputing.BackendMirror
import DistributedComputing.IsoTimeTexts

/-!
# Passes of either backend on mirrored databases

Where neither broker takes a branch in which they differ, a pass on PostgreSQL and the pass
on MongoDB return the same, and the databases still say the same.
-/

namespace DistributedComputing

open Store

/-- Both databases return the same and say the same afterwards. -/
def SameOutcome {Result : Type} (onPg onMongo : DbAction Result) (pg mongo : Store) : Prop :=
  ∃ result pgAfter mongoAfter, onPg pg = (.ok result, pgAfter) ∧
    onMongo mongo = (.ok result, mongoAfter) ∧ Mirrors pgAfter mongoAfter

/-- The Mongo broker drops texts that are empty. -/
theorem filter_of_nonempty {text : Option String} (nonempty : text ≠ some "") :
    (text.filter fun text => !text.isEmpty) = text := by
  cases text with
  | none => rfl
  | some text =>
      have notEmpty : text ≠ "" := fun empty => nonempty (congrArg some empty)
      simp [notEmpty]

namespace Deployment

variable {timestamptz : Time → String → Option Time} {first second : Attempt}
  (sameNow : second.now = first.now) (sinceEpoch : 0 ≤ first.now) {pg mongoStore : Store}
  (mirrors : Mirrors pg mongoStore)

include mirrors

/-! ## Agents -/

section Agents

include sameNow sinceEpoch

theorem upsertAgentPass_sameOutcome {agent : AgentInput}
    (wholeOs : textHoldsNul agent.os = false) (wholeVersion : textHoldsNul agent.version = false) :
    SameOutcome ((pgsql timestamptz).upsertAgentPass agent first)
      (mongo.upsertAgentPass agent second) pg mongoStore := by
  unfold upsertAgentPass
  simp only [textParam, PgBroker.textParam_of_not_holdsNul wholeOs,
    PgBroker.textParam_of_not_holdsNul wholeVersion, sameNow]
  exact ⟨true, _, _, rfl, rfl, mirrors.upsertAgent _ _ _ sinceEpoch fun _ _ => sinceEpoch⟩

theorem updateHeartbeatPass_sameOutcome (heartbeat : AgentHeartbeat) :
    SameOutcome (updateHeartbeatPass heartbeat first) (updateHeartbeatPass heartbeat second)
      pg mongoStore := by
  unfold SameOutcome updateHeartbeatPass
  rw [mirrors.agent, sameNow]
  cases pg.agent heartbeat.agentId with
  | none => exact ⟨false, _, _, rfl, rfl, mirrors⟩
  | some row => exact ⟨true, _, _, rfl, rfl, mirrors.updateAgent _ _ _ fun _ _ => sinceEpoch⟩

end Agents

omit mirrors in
theorem agentRecord_of_sinceEpoch {row : AgentRow} (beat : 0 ≤ row.lastHeartbeat) :
    mongo.agentRecord row = (pgsql timestamptz).agentRecord row := by
  simp only [agentRecord, MongoBroker.agentRecord, PgBroker.agentRecord,
    IsoTime.dateToIsoUtc_of_nonneg beat]

theorem getAgentPass_sameOutcome (agentId : String) :
    SameOutcome ((pgsql timestamptz).getAgentPass agentId first)
      (mongo.getAgentPass agentId second) pg mongoStore := by
  have sameRecord : (pg.agent agentId).map mongo.agentRecord =
      (pg.agent agentId).map (pgsql timestamptz).agentRecord := by
    cases found : pg.agent agentId with
    | none => rw [Option.map_none, Option.map_none]
    | some row =>
        have beat := mirrors.agentTimes row (KeyedTable.mem_of_lookup found)
        exact congrArg some (agentRecord_of_sinceEpoch beat)
  unfold SameOutcome getAgentPass
  rw [mirrors.agent, sameRecord]
  exact ⟨_, _, _, rfl, rfl, mirrors⟩

/-! ## New tasks -/

omit mirrors in
theorem createTaskPass_of_room (deployment : Deployment) {task : TaskInput}
    (accepted : deployment.taskRefusal task = none) (attempt : Attempt)
    {store : Store} {taskId : Int}
    (isNext : taskId = store.taskSeq + deployment.drawnAhead attempt + 1)
    (room : taskId ≤ maxTaskId) :
    ∃ bounds fresh inRange, deployment.createTaskPass task attempt store =
      (.ok taskId, (store.advanceTaskSeq taskId bounds).insertTask
        (deployment.newTask attempt.now taskId task) fresh inRange) := by
  subst isNext
  refine ⟨advance_bounds store room, deployment.fresh_newTask attempt.now task _,
    deployment.newTask_bounds _ _ _ _, ?_⟩
  simp only [createTaskPass, accepted, room, dite_true]

omit mirrors in
/-- Both brokers insert the same task. -/
theorem document_newTask {task : TaskInput} (wholeCommand : textHoldsNul task.command = false)
    (castable : Castable (normalizeConstraints task.constraints)) (now : Time) (taskId : Int) :
    MongoBroker.newTask now taskId task = (PgBroker.newTask now taskId task).document := by
  have unchanged : ∀ name, (∀ value, (normalizeConstraints task.constraints).integerMember name =
      some value → FitsInt value) →
        ((normalizeConstraints task.constraints).integerMember name).map toInt32 =
          (normalizeConstraints task.constraints).integerMember name := by
    intro name fits
    cases held : (normalizeConstraints task.constraints).integerMember name with
    | none => rfl
    | some value =>
        have inRange := fits value held
        rw [Option.map_some, toInt32_of_bounds inRange.1 inRange.2]
  unfold MongoBroker.newTask TaskRow.document PgBroker.newTask
  dsimp only
  rw [unchanged "cpu_cores" castable.cpuCores, unchanged "ram_mb" castable.ramMb,
    PgBroker.textParam_of_not_holdsNul wholeCommand]

include sameNow sinceEpoch

theorem createTaskPass_sameOutcome {task : TaskInput}
    (wholeCommand : textHoldsNul task.command = false)
    (accepted : PgBroker.jsonbError task = none)
    (castable : Castable (normalizeConstraints task.constraints)) (noGap : first.sequenceGap = 0)
    (room : pg.taskSeq < maxTaskId) (ownTime : ∀ row ∈ pg.tasks.rows, row.createdAt ≠ first.now) :
    SameOutcome ((pgsql timestamptz).createTaskPass task first) (mongo.createTaskPass task second)
      pg mongoStore := by
  have isNext : pg.taskSeq + 1 = pg.taskSeq + (pgsql timestamptz).drawnAhead first + 1 := by
    simp [drawnAhead, noGap]
  have isNextToo : pg.taskSeq + 1 = mongoStore.taskSeq + mongo.drawnAhead second + 1 := by
    simp [drawnAhead, mirrors.taskSeq]
  obtain ⟨bounds, fresh, inRange, created⟩ :=
    createTaskPass_of_room (pgsql timestamptz) accepted first isNext (by omega)
  obtain ⟨boundsToo, freshToo, inRangeToo, createdToo⟩ :=
    createTaskPass_of_room mongo rfl second isNextToo (by omega)
  refine ⟨pg.taskSeq + 1, _, _, created, createdToo, ?_⟩
  have isDocument : mongo.newTask second.now (pg.taskSeq + 1) task =
      ((pgsql timestamptz).newTask first.now (pg.taskSeq + 1) task).document := by
    rw [sameNow]
    exact document_newTask wholeCommand castable first.now (pg.taskSeq + 1)
  have times : ((pgsql timestamptz).newTask first.now (pg.taskSeq + 1) task).SinceEpoch := by
    refine ⟨sinceEpoch, ?_, ?_⟩
    · intro time held
      cases held
    · intro time held
      cases held
  exact (mirrors.advanceTaskSeq bounds boundsToo).insertTask isDocument castable times fresh
    inRange freshToo inRangeToo ownTime

omit mirrors sameNow sinceEpoch

/-! ## Polls -/

theorem taskDispatch_document {row : TaskRow} (castable : Castable row.constraints) :
    mongo.taskDispatch row.document = (pgsql timestamptz).taskDispatch row :=
  congrArg (fun constraints => { MongoBroker.taskDispatch row with constraints := constraints })
    castable.normalized.symm

theorem map_dateToIsoUtc {time : Option Time}
    (sinceEpoch : ∀ held, time = some held → (0 : Int) ≤ held) :
    time.map IsoTime.dateToIsoUtc = time.map IsoTime.isoUtc := by
  cases time with
  | none => rw [Option.map_none, Option.map_none]
  | some held =>
      rw [Option.map_some, Option.map_some, IsoTime.dateToIsoUtc_of_nonneg (sinceEpoch held rfl)]

theorem taskRecord_document {row : TaskRow} (castable : Castable row.constraints)
    (times : row.SinceEpoch) :
    mongo.taskRecord row.document = (pgsql timestamptz).taskRecord row := by
  have created := IsoTime.dateToIsoUtc_of_nonneg times.createdAt
  have started := map_dateToIsoUtc times.startedAt
  have finished := map_dateToIsoUtc times.finishedAt
  simp only [taskRecord, MongoBroker.taskRecord, PgBroker.taskRecord, TaskRow.document, created,
    started, finished, castable.normalized]

section Assign

variable {now : Time} (fromEpoch : 0 ≤ now) (agentId : String)

include fromEpoch

theorem mirrors_assign {pg mongoStore : Store} (mirrors : Mirrors pg mongoStore) (taskId : Int) :
    Mirrors (assign now agentId pg taskId) (assign now agentId mongoStore taskId) := by
  have updated : Mirrors (pg.updateTask taskId (assignedRow now agentId))
      (mongoStore.updateTask taskId (assignedRow now agentId)) :=
    mirrors.updateTask (fun _ _ => rfl) (fun _ => rfl) (fun _ => rfl)
      fun row times => ⟨times.createdAt, fun _ held => Option.some.inj held ▸ fromEpoch,
        times.finishedAt⟩
  exact updated.of_sameTables rfl rfl rfl rfl rfl rfl

theorem mirrors_foldl_assign {pg mongoStore : Store} (mirrors : Mirrors pg mongoStore)
    (taskIds : List Int) :
    Mirrors (taskIds.foldl (assign now agentId) pg)
      (taskIds.foldl (assign now agentId) mongoStore) := by
  induction taskIds generalizing pg mongoStore with
  | nil => exact mirrors
  | cons taskId taskIds ih => exact ih (mirrors_assign fromEpoch agentId mirrors taskId)

end Assign

include sameNow sinceEpoch mirrors

theorem pollTasksForAgentPass_sameOutcome (agentId : String) (freeSlots : Int) :
    SameOutcome ((pgsql timestamptz).pollTasksForAgentPass agentId freeSlots first)
      (mongo.pollTasksForAgentPass agentId freeSlots second) pg mongoStore := by
  unfold SameOutcome pollTasksForAgentPass
  rw [mirrors.agent, sameNow]
  cases pg.agent agentId with
  | none => exact ⟨none, _, _, rfl, rfl, mirrors⟩
  | some agent =>
      have polled : Mirrors
          (pg.updateAgent agentId fun row => { row with lastHeartbeat := first.now })
          (mongoStore.updateAgent agentId fun row => { row with lastHeartbeat := first.now }) :=
        mirrors.updateAgent _ _ _ fun _ _ => sinceEpoch
      dsimp only
      generalize (pg.updateAgent agentId fun row => { row with lastHeartbeat := first.now }) =
        pgPolled at polled ⊢
      generalize (mongoStore.updateAgent agentId fun row =>
        { row with lastHeartbeat := first.now }) = mongoPolled at polled ⊢
      by_cases noSlots : freeSlots ≤ 0
      · rw [if_pos noSlots, if_pos noSlots]
        exact ⟨some [], _, _, rfl, rfl, polled⟩
      · rw [if_neg noSlots, if_neg noSlots]
        let rows := pgPolled.tasks.rows.filter fun row =>
          (MongoBroker.candidateFilter agent).matches row.document
        have onPg : (pgsql timestamptz).fitting agent pgPolled.tasks.rows = .ok rows :=
          selectWhere_eq_filter agent polled.castable
        have onMongo : mongo.fitting agent mongoPolled.tasks.rows =
            .ok (rows.map TaskRow.document) := by
          rw [polled.tasks, fitting, List.filter_map]
          rfl
        have distinct : (rows.map TaskRow.createdAt).Nodup :=
          nodup_createdAt_filter polled.distinct _
        have chosen := oldest_document distinct first.rank second.rank freeSlots
        have dispatches : ((oldest first.rank freeSlots rows).map TaskRow.document).map
            mongo.taskDispatch =
              (oldest first.rank freeSlots rows).map (pgsql timestamptz).taskDispatch := by
          rw [List.map_map]
          apply List.map_congr_left
          intro row member
          exact taskDispatch_document
            (polled.castable row (List.mem_of_mem_filter (mem_of_mem_oldest member)))
        have sameIds : ((oldest first.rank freeSlots rows).map TaskRow.document).map
            TaskRow.taskId = (oldest first.rank freeSlots rows).map TaskRow.taskId :=
          List.map_map
        rw [onPg, onMongo]
        dsimp only
        rw [chosen, dispatches, sameIds, List.isEmpty_map]
        refine ⟨_, _, _, rfl, rfl, ?_⟩
        apply Mirrors.updateAgent
        · exact mirrors_foldl_assign sinceEpoch agentId polled _
        · exact fun _ beat => beat

/-! ## Reports -/

omit sameNow sinceEpoch mirrors

/-- The document of a report is the one that PostgreSQL's row calls for, unless a time is set by
default over another one. -/
theorem reportedRow_document {now : Time} {update : TaskStatusUpdate}
    {times : Option Time × Option Time} {row : TaskRow}
    (message : update.errorMessage ≠ some "")
    (wholeMessage : ∀ text, update.errorMessage = some text → textHoldsNul text = false)
    (started : update.startedAt = none → update.state = .running →
      row.startedAt = none ∨ row.startedAt = some now)
    (finished : update.finishedAt = none → update.state.terminal = true →
      row.finishedAt = none ∨ row.finishedAt = some now) :
    mongo.reportedRow now update times row.document =
      ((pgsql timestamptz).reportedRow now update times row).document := by
  have sameStart : (if update.startedAt.isNone && decide (update.state = .running) then
      row.startedAt.or (some now) else row.startedAt) =
        if update.startedAt.isNone && decide (update.state = .running) then some now
          else row.startedAt := by
    split
    · rename_i byDefault
      simp only [Bool.and_eq_true, Option.isNone_iff_eq_none, decide_eq_true_eq] at byDefault
      rcases started byDefault.1 byDefault.2 with held | held <;> rw [held] <;> rfl
    · rfl
  have sameFinish : (if update.finishedAt.isNone && update.state.terminal then
      row.finishedAt.or (some now) else row.finishedAt) =
        if update.finishedAt.isNone && update.state.terminal then some now
          else row.finishedAt := by
    split
    · rename_i byDefault
      simp only [Bool.and_eq_true, Option.isNone_iff_eq_none] at byDefault
      rcases finished byDefault.1 byDefault.2 with held | held <;> rw [held] <;> rfl
    · rfl
  have sameMessage : mongo.reportedMessage update.errorMessage = update.errorMessage :=
    filter_of_nonempty message
  have wholeText : (pgsql timestamptz).reportedMessage update.errorMessage =
      update.errorMessage := by
    unfold reportedMessage
    cases carried : update.errorMessage with
    | none => rfl
    | some text =>
        exact congrArg some (PgBroker.textParam_of_not_holdsNul (wholeMessage text carried))
  unfold reportedRow TaskRow.document
  simp only [defaultTime, sameStart, sameFinish, sameMessage, wholeText]

/-- A report with times since 1970 leaves a row with such times. -/
theorem sinceEpoch_reportedRow {now : Time} (sinceEpoch : 0 ≤ now) {update : TaskStatusUpdate}
    {times : Option Time × Option Time}
    (started : ∀ time, times.1 = some time → (0 : Int) ≤ time)
    (finished : ∀ time, times.2 = some time → (0 : Int) ≤ time) {row : TaskRow}
    (held : row.SinceEpoch) : ((pgsql timestamptz).reportedRow now update times row).SinceEpoch := by
  have chosen : ∀ {reported stored : Option Time} {byDefault : Bool},
      (∀ time, reported = some time → (0 : Int) ≤ time) →
        (∀ time, stored = some time → (0 : Int) ≤ time) → ∀ time,
          reported.or (if byDefault then some now else stored) = some time → (0 : Int) ≤ time := by
    intro reported stored byDefault reportedTime storedTime time isTime
    rcases Option.or_eq_some_iff.mp isTime with isReported | ⟨_, isDefault⟩
    · exact reportedTime time isReported
    · split at isDefault
      · exact Option.some.inj isDefault ▸ sinceEpoch
      · exact storedTime time isDefault
  exact ⟨held.createdAt, chosen started held.startedAt, chosen finished held.finishedAt⟩

include sameNow sinceEpoch mirrors

theorem updateTaskStatusPass_sameOutcome {taskId : Int} {update : TaskStatusUpdate}
    {times : Option Time × Option Time}
    (onPg : (pgsql timestamptz).reportedTimes first update = .ok times)
    (onMongo : mongo.reportedTimes second update = .ok times)
    (startTime : ∀ time, times.1 = some time → (0 : Int) ≤ time)
    (finishTime : ∀ time, times.2 = some time → (0 : Int) ≤ time)
    (message : update.errorMessage ≠ some "")
    (wholeMessage : ∀ text, update.errorMessage = some text → textHoldsNul text = false)
    (started : ∀ row, pg.task taskId = some row → update.startedAt = none →
      update.state = .running → row.startedAt = none ∨ row.startedAt = some first.now)
    (finished : ∀ row, pg.task taskId = some row → update.finishedAt = none →
      update.state.terminal = true →
        row.finishedAt = none ∨ row.finishedAt = some first.now) :
    SameOutcome ((pgsql timestamptz).updateTaskStatusPass taskId update first)
      (mongo.updateTaskStatusPass taskId update second) pg mongoStore := by
  unfold SameOutcome updateTaskStatusPass
  rw [onPg, onMongo, mirrors.task, sameNow]
  dsimp only
  cases found : pg.task taskId with
  | none => exact ⟨false, _, _, rfl, rfl, mirrors⟩
  | some row =>
      have written : Mirrors
          (pg.updateTask taskId ((pgsql timestamptz).reportedRow first.now update times))
          (mongoStore.updateTask taskId (mongo.reportedRow first.now update times)) := by
        refine mirrors.updateTask ?_ (fun _ => rfl) (fun _ => rfl) fun _ =>
          sinceEpoch_reportedRow sinceEpoch startTime finishTime
        intro other otherFound
        exact reportedRow_document message wholeMessage (started other otherFound)
          (finished other otherFound)
      by_cases isOver : update.state.terminal = true
      · simp only [isOver, if_true, Option.map_some]
        exact ⟨true, _, _, rfl, rfl, written.of_sameTables rfl rfl rfl rfl rfl rfl⟩
      · simp only [isOver, Option.map_some]
        exact ⟨true, _, _, rfl, rfl, written⟩

/-! ## Cancels -/

theorem cancelTaskPass_sameOutcome (taskId : Int) :
    SameOutcome (cancelTaskPass taskId first) (cancelTaskPass taskId second) pg mongoStore := by
  unfold SameOutcome cancelTaskPass
  rw [sameNow, mirrors.task]
  cases pg.task taskId with
  | none => exact ⟨.notFound, _, _, rfl, rfl, mirrors⟩
  | some row =>
      have sameState : row.document.state = row.state := rfl
      simp only [Option.map_some, sameState]
      by_cases isOver : row.state.terminal = true
      · simp only [isOver, if_true]
        exact ⟨.invalidState, _, _, rfl, rfl, mirrors⟩
      · have written : Mirrors (pg.updateTask taskId (canceledRow first.now))
            (mongoStore.updateTask taskId (canceledRow first.now)) :=
          mirrors.updateTask (fun _ _ => rfl) (fun _ => rfl) (fun _ => rfl)
            fun row times => ⟨times.createdAt, times.startedAt,
              fun _ held => Option.some.inj held ▸ sinceEpoch⟩
        simp only [isOver]
        exact ⟨.ok, _, _, rfl, rfl, written.of_sameTables rfl rfl rfl rfl rfl rfl⟩

/-! ## Sweeps -/

omit mirrors sameNow sinceEpoch

/-- Taking the agent offline costs none of its tasks another error message. -/
def KeepsMessages (store : Store) (agentId : String) : Prop :=
  ∀ row ∈ store.tasks.rows, row.assignedAgent = some agentId →
    row.state = .running ∨ row.state = .queued →
      row.errorMessage = none ∨ row.errorMessage = some "agent_offline_requeued"

theorem keepsMessages_of_terminal {store : Store} {agentId : String}
    (allOver : ∀ row ∈ store.tasks.rows, row.state.terminal = true) :
    KeepsMessages store agentId := by
  rintro row member _ (running | queued)
  · have isOver := allOver row member
    rw [running] at isOver
    cases isOver
  · have isOver := allOver row member
    rw [queued] at isOver
    cases isOver

theorem requeuedRow_document {row : TaskRow}
    (message : row.errorMessage = none ∨ row.errorMessage = some "agent_offline_requeued") :
    mongo.requeuedRow row.document = ((pgsql timestamptz).requeuedRow row).document := by
  have sameMessage : (some "agent_offline_requeued") =
      row.errorMessage.or (some "agent_offline_requeued") := by
    rcases message with held | held <;> rw [held] <;> rfl
  unfold requeuedRow TaskRow.document requeuedMessage
  simp only [← sameMessage]

theorem mirrors_takeOffline (time later : Time) {pg mongoStore : Store}
    (mirrors : Mirrors pg mongoStore) {agentId : String} (messages : KeepsMessages pg agentId) :
    Mirrors ((pgsql timestamptz).takeOffline time pg agentId)
      (mongo.takeOffline later mongoStore agentId) := by
  have offline : Mirrors (pg.updateAgent agentId fun row => { row with status := .offline })
      (mongoStore.updateAgent agentId fun row => { row with status := .offline }) :=
    mirrors.updateAgent _ _ _ fun _ beat => beat
  have closed : ∀ {first second : Store} {test : AssignmentRow → Bool}
      {change otherChange : AssignmentRow → AssignmentRow}, Mirrors first second →
        Mirrors (first.updateAssignments test change)
          (second.updateAssignments test otherChange) :=
    fun held => held.of_sameTables rfl rfl rfl rfl rfl rfl
  apply (closed offline).updateTasks
  · exact fun _ => rfl
  · intro row member passes
    simp only [Bool.and_eq_true, Bool.or_eq_true, decide_eq_true_eq] at passes
    exact requeuedRow_document (messages row member passes.1 passes.2)
  · exact fun _ => rfl
  · exact fun _ => rfl
  · intro row times
    refine ⟨times.createdAt, ?_, times.finishedAt⟩
    intro time held
    cases held

/-- A task that goes back to the queue is no agent's. -/
theorem keepsMessages_takeOffline (time : Time) {store : Store} {agentId other : String}
    (messages : KeepsMessages store other) :
    KeepsMessages ((pgsql timestamptz).takeOffline time store agentId) other := by
  intro row member assigned active
  obtain ⟨old, oldMember, rfl⟩ := List.mem_map.mp member
  split at assigned
  · cases assigned
  · rename_i untouched
    rw [if_neg untouched] at active ⊢
    exact messages old oldMember assigned active

theorem mirrors_foldl_takeOffline (time later : Time) {pg mongoStore : Store}
    (mirrors : Mirrors pg mongoStore) {agentIds : List String}
    (messages : ∀ agentId ∈ agentIds, KeepsMessages pg agentId) :
    Mirrors (agentIds.foldl ((pgsql timestamptz).takeOffline time) pg)
      (agentIds.foldl (mongo.takeOffline later) mongoStore) := by
  induction agentIds generalizing pg mongoStore with
  | nil => exact mirrors
  | cons agentId agentIds ih =>
      apply ih (mirrors_takeOffline time later mirrors (messages agentId (List.mem_cons_self ..)))
      intro other member
      exact keepsMessages_takeOffline time (messages other (List.mem_cons_of_mem agentId member))

include sameNow mirrors

theorem markOfflineAgentsAndRequeuePass_sameOutcome (offlineAfterSec : Int)
    (messages : ∀ agentId ∈ pg.staleAgents first.now offlineAfterSec, KeepsMessages pg agentId) :
    SameOutcome ((pgsql timestamptz).markOfflineAgentsAndRequeuePass offlineAfterSec first)
      (mongo.markOfflineAgentsAndRequeuePass offlineAfterSec second) pg mongoStore := by
  have sameAgents : mongoStore.staleAgents second.now offlineAfterSec =
      pg.staleAgents first.now offlineAfterSec := by
    unfold Store.staleAgents
    rw [mirrors.agents, sameNow]
  unfold SameOutcome markOfflineAgentsAndRequeuePass
  rw [sameAgents]
  exact ⟨_, _, _, rfl, rfl, mirrors_foldl_takeOffline _ _ mirrors messages⟩

omit sameNow

/-! ## Reads -/

theorem getTaskPass_sameOutcome (taskId : Int) :
    SameOutcome ((pgsql timestamptz).getTaskPass taskId first) (mongo.getTaskPass taskId second)
      pg mongoStore := by
  have sameRecord : (mongoStore.task taskId).map mongo.taskRecord =
      (pg.task taskId).map (pgsql timestamptz).taskRecord := by
    rw [mirrors.task, Option.map_map]
    cases found : pg.task taskId with
    | none => rw [Option.map_none, Option.map_none]
    | some row =>
        exact congrArg some (taskRecord_document (mirrors.castable_of_task found)
          (mirrors.sinceEpoch_of_task found))
  unfold SameOutcome getTaskPass
  rw [sameRecord]
  exact ⟨_, _, _, rfl, rfl, mirrors⟩

section Pages

variable {Row : Type} {limit offset : Int} (limited : 1 ≤ limit) (started : 0 ≤ offset)
  (rows : List Row)

omit mirrors

include limited started

theorem page_pgsql :
    (pgsql timestamptz).page limit offset rows =
      .ok ((rows.drop offset.toNat).take limit.toNat) := by
  have noError : ¬ limit < 0 ∧ ¬ offset < 0 := by omega
  exact (if_neg noError.1).trans (if_neg noError.2)

theorem page_mongo :
    mongo.page limit offset rows = .ok ((rows.drop offset.toNat).take limit.toNat) := by
  have noError : ¬ offset < 0 ∧ ¬ limit = 0 := by omega
  have sameLimit : limit.natAbs = limit.toNat := by omega
  refine (if_neg noError.1).trans ?_
  simp only [noError.2, if_false, sameLimit]

end Pages

omit mirrors in
theorem lists_document (state : Option TaskState) {agentId : Option String}
    (nonempty : agentId ≠ some "") (row : TaskRow) :
    mongo.lists state agentId row.document = (pgsql timestamptz).lists state agentId row := by
  have onMongo : (MongoBroker.listFilter state agentId).matches row.document =
      (state.all (fun state => decide (row.state = state)) &&
        agentId.all fun agentId => decide (row.assignedAgent = some agentId)) := by
    unfold MongoBroker.listFilter TaskFilter.matches TaskRow.document
    rw [filter_of_nonempty nonempty]
    cases state <;> cases agentId <;> simp
  exact onMongo

theorem listTasksPass_sameOutcome (state : Option TaskState) {agentId : Option String}
    {limit offset : Int} (nonempty : agentId ≠ some "") (limited : 1 ≤ limit)
    (started : 0 ≤ offset) :
    SameOutcome ((pgsql timestamptz).listTasksPass state agentId limit offset first)
      (mongo.listTasksPass state agentId limit offset second) pg mongoStore := by
  let rows := pg.tasks.rows.filter ((pgsql timestamptz).lists state agentId)
  have chosen : mongoStore.tasks.rows.filter (mongo.lists state agentId) =
      rows.map TaskRow.document := by
    have sameTest : mongo.lists state agentId ∘ TaskRow.document =
        (pgsql timestamptz).lists state agentId :=
      funext (lists_document state nonempty)
    rw [mirrors.tasks, List.filter_map, sameTest]
  have distinct : (rows.map TaskRow.createdAt).Nodup :=
    nodup_createdAt_filter mirrors.distinct _
  have sorted := newestFirst_document distinct first.rank second.rank
  have summaries : ∀ {shown : List TaskRow}, (shown.map TaskRow.document).map
      PgBroker.taskSummary = shown.map PgBroker.taskSummary := List.map_map
  unfold SameOutcome listTasksPass
  dsimp only
  rw [chosen, sorted, page_pgsql limited started, page_mongo limited started]
  dsimp only
  rw [← List.map_drop, ← List.map_take, summaries]
  exact ⟨_, _, _, rfl, rfl, mirrors⟩

/-- The order of the PostgreSQL database is the one by code points, as far as the listed
agents show. -/
def SortsByCodePoints (collation : String → String → Bool) (store : Store)
    (status : Option AgentStatus) : Prop :=
  ∀ row ∈ store.agents.rows, ∀ other ∈ store.agents.rows,
    status.all (fun status => decide (row.status = status)) = true →
      status.all (fun status => decide (other.status = status)) = true →
        collation row.agentId other.agentId = decide (row.agentId ≤ other.agentId)

theorem listAgentsPass_sameOutcome {status : Option AgentStatus} {limit offset : Int}
    (limited : 1 ≤ limit) (started : 0 ≤ offset)
    (sorts : SortsByCodePoints first.collation pg status) :
    SameOutcome ((pgsql timestamptz).listAgentsPass status limit offset first)
      (mongo.listAgentsPass status limit offset second) pg mongoStore := by
  let rows := pg.agents.rows.filter fun row =>
    status.all fun status => decide (row.status = status)
  have sorted :
      rows.insertionSort (fun row other => mongo.idOrder second row.agentId other.agentId) =
        rows.insertionSort fun row other =>
          (pgsql timestamptz).idOrder first row.agentId other.agentId := by
    have sameOrder : ∀ row ∈ rows, ∀ other ∈ rows,
        mongo.idOrder second row.agentId other.agentId =
          (pgsql timestamptz).idOrder first row.agentId other.agentId := by
      intro row member other otherMember
      obtain ⟨inTable, listed⟩ := List.mem_filter.mp member
      obtain ⟨otherInTable, otherListed⟩ := List.mem_filter.mp otherMember
      exact (sorts row inTable other otherInTable listed otherListed).symm
    have mapped := List.map_insertionSort
      (fun row other : AgentRow => mongo.idOrder second row.agentId other.agentId)
      (fun row other => (pgsql timestamptz).idOrder first row.agentId other.agentId) id rows
      fun row member other otherMember => by rw [sameOrder row member other otherMember]; rfl
    rwa [List.map_id, List.map_id] at mapped
  have sameRecords : ((rows.insertionSort fun row other =>
      (pgsql timestamptz).idOrder first row.agentId other.agentId).drop offset.toNat |>.take
        limit.toNat).map mongo.agentRecord =
          ((rows.insertionSort fun row other =>
            (pgsql timestamptz).idOrder first row.agentId other.agentId).drop offset.toNat |>.take
              limit.toNat).map (pgsql timestamptz).agentRecord := by
    apply List.map_congr_left
    intro row member
    have inRows := (List.mem_insertionSort _).mp (List.mem_of_mem_drop (List.mem_of_mem_take member))
    exact agentRecord_of_sinceEpoch (mirrors.agentTimes row (List.mem_of_mem_filter inRows))
  unfold SameOutcome listAgentsPass
  dsimp only
  rw [mirrors.agents, sorted, page_pgsql limited started, page_mongo limited started]
  dsimp only
  rw [sameRecords]
  exact ⟨_, _, _, rfl, rfl, mirrors⟩

end Deployment

end DistributedComputing
