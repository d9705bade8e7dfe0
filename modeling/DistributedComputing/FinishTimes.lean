import DistributedComputing.StepCalls

/-!
# Finish times

A task that is over has a finish time, and every assignment it had has an end.  PostgreSQL
guarantees both.  The Mongo broker drops a finish time that does not parse without putting
the clock in its place, so the first part is lost by exactly those reports that end a task
with such a text.
-/

namespace DistributedComputing

open TransitionRuns Deployment

/-- Every task that is over has a finish time, and its assignments have ended. -/
def Store.FinishTimes (store : Store) : Prop :=
  ∀ taskId row, store.task taskId = some row → row.state.terminal = true →
    row.finishedAt ≠ none ∧ ∀ assignment ∈ store.taskAssignments,
      assignment.taskId = taskId → assignment.unassignedAt ≠ none

namespace Store.FinishTimes

variable {store : Store}

theorem of_same {after : Store} (held : store.FinishTimes) (tasks : after.tasks = store.tasks)
    (assignments : after.taskAssignments = store.taskAssignments) : after.FinishTimes := by
  intro taskId row found isOver
  rw [assignments]
  refine held taskId row ?_ isOver
  rwa [Store.task, ← tasks]

theorem insertTask (held : store.FinishTimes) {row : TaskRow} (queued : row.state = .queued)
    (fresh : store.task row.taskId = none)
    (bounds : 0 < row.taskId ∧ row.taskId ≤ store.taskSeq) :
    (store.insertTask row fresh bounds).FinishTimes := by
  intro taskId other found isOver
  rw [Store.task_insertTask] at found
  split at found
  · cases found
    rw [queued] at isOver
    cases isOver
  · exact held taskId other found isOver

/-- A write after which the task is not over. -/
theorem updateTask (held : store.FinishTimes) (taskId : Int) {change : TaskRow → TaskRow}
    {keeps : ∀ row, (change row).taskId = row.taskId}
    (unfinished : ∀ row, (change row).state.terminal = false) :
    (store.updateTask taskId change keeps).FinishTimes := by
  intro other row found isOver
  rw [Store.task_updateTask] at found
  split at found
  · obtain ⟨before, _, rfl⟩ := Option.map_eq_some_iff.mp found
    rw [unfinished] at isOver
    cases isOver
  · exact held other row found isOver

theorem assign (held : store.FinishTimes) (now : Time) (agentId : String) (taskId : Int) :
    (assign now agentId store taskId).FinishTimes := by
  have claimed : (store.updateTask taskId fun row =>
      { row with
        state := .running
        assignedAgent := some agentId
        startedAt := some now }).FinishTimes := held.updateTask taskId fun _ => rfl
  intro other row found isOver
  have written := claimed other row found isOver
  refine ⟨written.1, fun assignment member isTask => ?_⟩
  rcases List.mem_append.mp member with old | new
  · exact written.2 assignment old isTask
  · rw [List.mem_singleton.mp new] at isTask
    rw [Deployment.assign, Store.task_insertAssignment, Store.task_updateTask,
      if_pos isTask.symm] at found
    obtain ⟨before, _, rfl⟩ := Option.map_eq_some_iff.mp found
    cases isOver

theorem foldl_assign (held : store.FinishTimes) (now : Time) (agentId : String)
    (taskIds : List Int) :
    (taskIds.foldl (Deployment.assign now agentId) store).FinishTimes := by
  induction taskIds generalizing store with
  | nil => exact held
  | cons taskId taskIds ih => exact ih (held.assign now agentId taskId)

/-- A write that gives the task a finish time, together with the end of its assignments. -/
theorem finish (held : store.FinishTimes) {taskId : Int} {change : TaskRow → TaskRow}
    {keeps : ∀ row, (change row).taskId = row.taskId}
    (timed : ∀ row, store.task taskId = some row → (change row).finishedAt ≠ none) (time : Time)
    (reason : String) :
    (closeTask taskId time reason (store.updateTask taskId change keeps)).FinishTimes := by
  intro other row found isOver
  have foundThere : (store.updateTask taskId change keeps).task other = some row := found
  rw [Store.task_updateTask] at foundThere
  split at foundThere
  · rename_i isTask
    obtain ⟨before, beforeFound, rfl⟩ := Option.map_eq_some_iff.mp foundThere
    refine ⟨timed before beforeFound, fun assignment member sameTask => ?_⟩
    obtain ⟨old, oldMember, rfl⟩ := List.mem_map.mp member
    split
    · simp
    · rename_i closed
      intro isOpen
      rw [if_neg closed, isTask] at sameTask
      exact closed (by simp [sameTask, isOpen])
  · rename_i different
    obtain ⟨timedBefore, closedBefore⟩ := held other row foundThere isOver
    refine ⟨timedBefore, fun assignment member sameTask => ?_⟩
    obtain ⟨old, oldMember, rfl⟩ := List.mem_map.mp member
    split
    · simp
    · rename_i untouched
      rw [if_neg untouched] at sameTask
      exact closedBefore old oldMember sameTask

theorem takeOffline (held : store.FinishTimes) (deployment : Deployment) (now : Time)
    (agentId : String) : (deployment.takeOffline now store agentId).FinishTimes := by
  intro taskId row found isOver
  rw [Deployment.takeOffline, Store.task_updateTasks] at found
  obtain ⟨before, beforeFound, rfl⟩ := Option.map_eq_some_iff.mp found
  have kept : before.state.terminal = true := by
    split at isOver
    · cases isOver
    · exact isOver
  have untouched : (decide (before.assignedAgent = some agentId) &&
      (decide (before.state = .running) || decide (before.state = .queued))) = false := by
    cases state : before.state <;> simp_all [TaskState.terminal]
  simp only [untouched]
  obtain ⟨timed, closed⟩ := held taskId before beforeFound kept
  refine ⟨timed, fun assignment member sameTask => ?_⟩
  obtain ⟨old, oldMember, rfl⟩ := List.mem_map.mp member
  split
  · simp
  · rename_i other
    rw [if_neg other] at sameTask
    exact closed old oldMember sameTask

theorem foldl_takeOffline (held : store.FinishTimes) (deployment : Deployment) (now : Time)
    (agentIds : List String) :
    (agentIds.foldl (deployment.takeOffline now) store).FinishTimes := by
  induction agentIds generalizing store with
  | nil => exact held
  | cons agentId agentIds ih => exact ih (held.takeOffline deployment now agentId)

end Store.FinishTimes

/-! ## Reports that lose the finish time -/

namespace Deployment

/-- The report ends a task without a finish time, and the text that it carries as one is not
read as a time. -/
def LosesFinishTime (deployment : Deployment) (getTime : String → Option IsoTime.Tm)
    (update : TaskStatusUpdate) (row : TaskRow) : Prop :=
  deployment.OnMongo ∧ update.state.terminal = true ∧ row.finishedAt = none ∧
    ∃ text, update.finishedAt = some text ∧ IsoTime.parseIsoUtc getTime text = none

variable {deployment : Deployment} {attempt : Attempt} {update : TaskStatusUpdate} {row : TaskRow}

/-- Those reports are the only ones that end a task without giving it a finish time. -/
theorem finishedAt_reportedRow {times : Option Time × Option Time}
    (reported : deployment.reportedTimes attempt update = .ok times)
    (isOver : update.state.terminal = true) :
    (deployment.reportedRow attempt.now update times row).finishedAt = none ↔
      deployment.LosesFinishTime attempt.getTime update row := by
  have written : (deployment.reportedRow attempt.now update times row).finishedAt =
      times.2.or (if update.finishedAt.isNone then
        deployment.defaultTime attempt.now row.finishedAt else row.finishedAt) := by
    simp [reportedRow, isOver]
  have onMongo : deployment.OnMongo →
      ((deployment.reportedRow attempt.now update times row).finishedAt = none ↔
        deployment.LosesFinishTime attempt.getTime update row) := by
    intro onMongo
    have byDefault : deployment.defaultTime attempt.now row.finishedAt =
        row.finishedAt.or (some attempt.now) := by
      rcases onMongo.eq_or with rfl | rfl <;> rfl
    have parsed : times.2 = update.finishedAt.bind (IsoTime.parseIsoUtc attempt.getTime) := by
      rcases onMongo.eq_or with rfl | rfl <;>
      · cases reported
        rfl
    rw [written, byDefault, parsed]
    cases text : update.finishedAt with
    | none => simp [LosesFinishTime, text]
    | some value => simp [LosesFinishTime, onMongo, isOver, text, and_comm]
  cases deployment with
  | mongo => exact onMongo trivial
  | mongoStandalone => exact onMongo trivial
  | pgsql timestamptz =>
      rw [written]
      have sameSome : times.2.isSome = update.finishedAt.isSome := by
        unfold reportedTimes at reported
        obtain ⟨started, _, reported⟩ := exists_of_bind_eq_ok reported
        obtain ⟨finished, converted, reported⟩ := exists_of_bind_eq_ok reported
        cases reported
        exact PgBroker.isSome_of_timestamptzParam converted
      have kept : ¬ (pgsql timestamptz).LosesFinishTime attempt.getTime update row :=
        fun loses => loses.1
      refine ⟨fun lost => ?_, fun loses => (kept loses).elim⟩
      cases text : update.finishedAt with
      | none =>
          rw [text] at lost
          simp [defaultTime] at lost
      | some value =>
          rw [text] at sameSome
          rw [Option.or_eq_none_iff] at lost
          simp [lost.1] at sameSome

/-- The finish time that one attempt has written is there for the next. -/
theorem losesFinishTime_reportedRow {times : Option Time × Option Time}
    (reported : deployment.reportedTimes attempt update = .ok times)
    (kept : ¬ deployment.LosesFinishTime attempt.getTime update row)
    (getTime : String → Option IsoTime.Tm) :
    ¬ deployment.LosesFinishTime getTime update
      (deployment.reportedRow attempt.now update times row) := by
  rintro ⟨_, isOver, lost, _⟩
  exact kept ((finishedAt_reportedRow reported isOver).mp lost)

end Deployment

/-! ## Passes -/

section Passes

variable {store : Store} (held : store.FinishTimes) (deployment : Deployment) (attempt : Attempt)

include held

theorem finishTimes_createTaskPass (task : TaskInput) :
    (deployment.createTaskPass task attempt store).2.FinishTimes := by
  rcases deployment.createTaskPass_cases task attempt store with
    ⟨_, failed⟩ | ⟨taskId, bounds, fresh, inRange, _, created⟩
  · rwa [failed]
  · rw [created]
    have advanced : (store.advanceTaskSeq taskId bounds).FinishTimes := held.of_same rfl rfl
    exact advanced.insertTask (by cases deployment <;> rfl) fresh inRange

theorem finishTimes_pollTasksForAgentPass (agentId : String) (freeSlots : Int) :
    (deployment.pollTasksForAgentPass agentId freeSlots attempt store).2.FinishTimes := by
  unfold pollTasksForAgentPass
  cases store.agent agentId with
  | none => exact held
  | some agent =>
      dsimp only
      have polled : (store.updateAgent agentId fun row =>
          { row with lastHeartbeat := attempt.now }).FinishTimes := held.of_same rfl rfl
      split
      · exact polled
      · split
        · exact held
        · rename_i rows _
          exact (polled.foldl_assign attempt.now agentId _).of_same rfl rfl

/-- No attempt of the report loses the finish time of the task. -/
theorem finishTimes_updateTaskStatusPass {attempts : List Attempt} (member : attempt ∈ attempts)
    (taskId : Int) (update : TaskStatusUpdate)
    (kept : ∀ row, store.task taskId = some row → ∀ other ∈ attempts,
      ¬ deployment.LosesFinishTime other.getTime update row) :
    (deployment.updateTaskStatusPass taskId update attempt store).2.FinishTimes ∧
      ∀ row, (deployment.updateTaskStatusPass taskId update attempt store).2.task taskId =
        some row → ∀ other ∈ attempts,
          ¬ deployment.LosesFinishTime other.getTime update row := by
  unfold updateTaskStatusPass
  cases reported : deployment.reportedTimes attempt update with
  | error error => exact ⟨held, kept⟩
  | ok times =>
      cases found : store.task taskId with
      | none => exact ⟨held, kept⟩
      | some current =>
          dsimp only
          constructor
          · split
            · rename_i isOver
              refine held.finish (fun row rowFound lost => ?_) _ _
              exact kept row rowFound attempt member
                ((finishedAt_reportedRow reported isOver).mp lost)
            · rename_i unfinished
              exact held.updateTask taskId fun _ => by simpa [reportedRow] using unfinished
          · have written : ∀ row, (store.updateTask taskId
                (deployment.reportedRow attempt.now update times)
                (deployment.taskId_reportedRow attempt.now update times)).task taskId = some row →
                  ∀ other ∈ attempts, ¬ deployment.LosesFinishTime other.getTime update row := by
              intro row rowFound other _
              rw [Store.task_updateTask, if_pos rfl] at rowFound
              obtain ⟨before, beforeFound, rfl⟩ := Option.map_eq_some_iff.mp rowFound
              exact losesFinishTime_reportedRow reported (kept before beforeFound attempt member)
                other.getTime
            split <;> exact written

theorem finishTimes_cancelTaskPass (taskId : Int) :
    (cancelTaskPass taskId attempt store).2.FinishTimes := by
  unfold cancelTaskPass
  cases store.task taskId with
  | none => exact held
  | some row =>
      dsimp only
      split
      · exact held
      · exact held.finish (fun _ _ => by simp [canceledRow]) _ _

theorem finishTimes_markOfflineAgentsAndRequeuePass (offlineAfterSec : Int) :
    (deployment.markOfflineAgentsAndRequeuePass offlineAfterSec attempt store).2.FinishTimes :=
  held.foldl_takeOffline deployment _ _

end Passes

/-! ## Runs -/

/-- A request is complete: whatever fails in it, every attempt has had its whole effect or
none. -/
def MasterStep.Complete (deployment : Deployment) : MasterStep → Prop
  | .request schedule _ =>
      (∀ attempt ∈ schedule.first, deployment.AtomicAttempt attempt) ∧
        ∀ attempt ∈ schedule.second, deployment.AtomicAttempt attempt
  | .sweep attempts => ∀ attempt ∈ attempts, deployment.AtomicAttempt attempt

/-- The step is a report that passes the check, and an attempt of its write loses the finish
time of the task. -/
def MasterStep.LosesFinishTime (deployment : Deployment) (store : Store) : MasterStep → Prop
  | .request schedule (.updateTaskStatus taskIdRaw body) => ∃ taskId update row,
      Api.parseTaskId taskIdRaw = some taskId ∧
        ControlService.parseBody Api.parseTaskStatusUpdate body = .ok update ∧
        store.task taskId = some row ∧
        Api.isValidTaskStateTransition row.state update.state = true ∧
        ∃ attempt ∈ schedule.second, deployment.LosesFinishTime attempt.getTime update row
  | _ => False

/-- One `get_time` serves all attempts of the step. -/
def MasterStep.ReadsAlike : MasterStep → Prop
  | .request schedule _ => ∀ attempt ∈ schedule.second, ∀ other ∈ schedule.second,
      attempt.getTime = other.getTime
  | .sweep _ => True

section Runs

variable {deployment : Deployment} (config : MasterConfig)

theorem finishTimes_masterStep {store : Store} {step : MasterStep}
    (complete : step.Complete deployment) (kept : ¬ step.LosesFinishTime deployment store)
    (held : store.FinishTimes) : (masterStep deployment config store step).FinishTimes := by
  have call := masterStep_call deployment config store step
  generalize masterStep deployment config store step = after at call
  cases call with
  | quiet => exact held
  | upsertAgent schedule agentId body agent parsed =>
      refine (deployment.upsertAgentLoop agent).invariant complete.1 (fun _ _ before held => ?_) held
      exact held.of_same (Store.tasks_upsertAgent ..) (Store.taskAssignments_upsertAgent ..)
  | agentHeartbeat schedule agentId body heartbeat parsed =>
      refine (deployment.updateHeartbeatLoop heartbeat).invariant complete.1
        (fun _ _ before held => ?_) held
      unfold updateHeartbeatPass
      cases before.agent heartbeat.agentId with
      | none => exact held
      | some row => exact held.of_same rfl rfl
  | pollTasks schedule agentId body freeSlots parsed =>
      exact (deployment.pollTasksForAgentLoop agentId freeSlots).invariant complete.1
        (fun attempt _ _ held =>
          finishTimes_pollTasksForAgentPass held deployment attempt agentId freeSlots) held
  | createTask schedule body task parsed =>
      exact (deployment.createTaskLoop task).invariant complete.1
        (fun attempt _ _ held => finishTimes_createTaskPass held deployment attempt task) held
  | updateTaskStatus schedule taskIdRaw body taskId update row parsedId parsed found valid =>
      have unharmed : ∀ other, store.task taskId = some other → ∀ attempt ∈ schedule.second,
          ¬ deployment.LosesFinishTime attempt.getTime update other := by
        intro other otherFound attempt member loses
        rw [found] at otherFound
        cases otherFound
        exact kept ⟨taskId, update, row, parsedId, parsed, found, valid, attempt, member, loses⟩
      let sound : Store → Prop := fun store => store.FinishTimes ∧
        ∀ other, store.task taskId = some other → ∀ attempt ∈ schedule.second,
          ¬ deployment.LosesFinishTime attempt.getTime update other
      have after : sound (deployment.broker.updateTaskStatus schedule.second taskId update
          store).2 :=
        (deployment.updateTaskStatusLoop taskId update).invariant complete.2
          (fun attempt member _ both => finishTimes_updateTaskStatusPass both.1 deployment
            attempt member taskId update both.2) ⟨held, unharmed⟩
      exact after.1
  | cancelTask schedule taskIdRaw taskId parsedId =>
      exact (deployment.cancelTaskLoop taskId).invariant complete.1
        (fun attempt _ _ held => finishTimes_cancelTaskPass held attempt taskId) held
  | sweep attempts =>
      exact (deployment.markOfflineAgentsAndRequeueLoop config.offlineAfterSec).invariant complete
        (fun attempt _ _ held =>
          finishTimes_markOfflineAgentsAndRequeuePass held deployment attempt _) held

/-- The condition is exact: on a healthy schedule such a report does lose the finish time. -/
theorem finishTimes_masterStep_iff {store : Store} {step : MasterStep}
    (healthy : step.Healthy deployment) (complete : step.Complete deployment)
    (readsAlike : step.ReadsAlike) (held : store.FinishTimes) :
    (masterStep deployment config store step).FinishTimes ↔
      ¬ step.LosesFinishTime deployment store := by
  refine ⟨fun timed loses => ?_, fun kept => finishTimes_masterStep config complete kept held⟩
  cases step with
  | sweep attempts => exact loses
  | request schedule request =>
      cases request with
      | updateTaskStatus taskIdRaw body =>
          obtain ⟨taskId, update, row, parsedId, parsed, found, valid, other, otherMember,
            loses⟩ := loses
          obtain ⟨attempt, member, written⟩ :=
            (deployment.updateTaskStatusLoop taskId update).exists_pass healthy.2 fun _ _ _ failed =>
              deployment.updateTaskStatusPass_error failed
          rw [readsAlike other otherMember attempt member] at loses
          have reported := loses.1.reportedTimes_eq attempt update
          generalize (update.startedAt.bind (IsoTime.parseIsoUtc attempt.getTime),
            update.finishedAt.bind (IsoTime.parseIsoUtc attempt.getTime)) = times at reported
          have passed : (deployment.updateTaskStatusPass taskId update attempt store).2.task
              taskId = some (deployment.reportedRow attempt.now update times row) := by
            simp [updateTaskStatusPass, reported, found, loses.2.1, closeTask]
          have reached : (masterStep deployment config store
              (.request schedule (.updateTaskStatus taskIdRaw body))).task taskId =
                some (deployment.reportedRow attempt.now update times row) := by
            rw [masterStep_updateTaskStatus healthy.1 parsedId parsed found valid, written,
              LoopOf.caught_store, passed]
          exact (timed taskId _ reached loses.2.1).1
            ((finishedAt_reportedRow reported loses.2.1).mpr loses)
      | _ => exact loses

/-- As long as no report loses it, every finished task has a finish time, in every state that
a run reaches. -/
theorem finished_tasks_have_finish_times (deployment : Deployment) (config : MasterConfig)
    (steps : List MasterStep) (complete : ∀ step ∈ steps, step.Complete deployment)
    (kept : Along (masterStep deployment config)
      (fun store step => ¬ step.LosesFinishTime deployment store) Store.empty steps) :
    (run (masterStep deployment config) Store.empty steps).FinishTimes := by
  have start : Store.empty.FinishTimes := by
    intro taskId row found
    cases found
  exact run_invariant_along (masterStep deployment config)
    (fun _ _ both held => finishTimes_masterStep config both.1 both.2 held) start
    ((along_of_forall _ complete Store.empty).and _ kept)

end Runs

theorem MasterStep.complete_calm (deployment : Deployment) (now : Time) (request : Request) :
    (calm deployment now request).Complete deployment := by
  have healthy := (deployment.healthy_calmAttempt now).attempt
  exact ⟨fun attempt member => (healthy attempt member).atomic,
    fun attempt member => (healthy attempt member).atomic⟩

/-- The agent runs its task and reports the result with the given finish time. -/
def finalReport (deployment : Deployment) (finishedAt : Option String) : List MasterStep :=
  firstPoll deployment ++
    [.calm deployment 5000
      (AgentClient.updateTaskStatus "1" "succeeded" (some 0) none finishedAt none)]

theorem complete_finalReport (deployment : Deployment) (finishedAt : Option String) :
    ∀ step ∈ finalReport deployment finishedAt, step.Complete deployment := by
  simp [finalReport, firstPoll, MasterStep.complete_calm]

theorem finished_tasks_have_finish_times_finalReport :
    let ended := run (masterStep .mongo {}) Store.empty
      (finalReport .mongo (some "2025-01-04T08:57:00Z"))
    ended.FinishTimes ∧ (ended.task 1).map TaskRow.finishedAt = some (some 1735981020000) := by
  refine ⟨?_, by decide⟩
  apply finished_tasks_have_finish_times
  · exact complete_finalReport .mongo (some "2025-01-04T08:57:00Z")
  · refine ⟨id, id, id, ?_, trivial⟩
    rintro ⟨_, update, _, _, parsed, _, _, attempt, member, _, _, _, text, reported, unread⟩
    cases parsed
    cases reported
    cases List.mem_singleton.mp member
    revert unread
    decide

/-- The agent reports its result with a finish time that does not parse. -/
theorem unparsable_finish_time_is_lost :
    (∀ step ∈ finalReport .mongo (some "soon"), step.Complete .mongo) ∧
      ¬ (run (masterStep .mongo {}) Store.empty (finalReport .mongo (some "soon"))).FinishTimes := by
  refine ⟨complete_finalReport .mongo (some "soon"), fun timed => ?_⟩
  exact (timed 1 _ rfl rfl).1 rfl

end DistributedComputing
