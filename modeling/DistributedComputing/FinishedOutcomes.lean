import DistributedComputing.OperationFrames
import DistributedComputing.FinishTimes

/-!
# Outcomes of finished tasks

The check of a status report admits every report that names the state the task already
has, so that a finished task can be reported again.  Nothing else changes its row, and
such a report changes its exit code, error message and start only to what it carries, and
its finish also to the clock.
-/

namespace DistributedComputing

open TransitionRuns Store

namespace Deployment

/-- The time that an attempt reads in a text. -/
def Reads : Deployment → Attempt → String → Time → Prop
  | pgsql timestamptz, attempt, text, time =>
      timestamptz attempt.now (PgBroker.textParam text) = some time
  | mongo, attempt, text, time => IsoTime.parseIsoUtc attempt.getTime text = some time
  | mongoStandalone, attempt, text, time => IsoTime.parseIsoUtc attempt.getTime text = some time

end Deployment

/-- A status report and the attempts to write it. -/
structure StatusReport where
  update : TaskStatusUpdate
  attempts : List Attempt

namespace StatusReport

variable (deployment : Deployment) (report : StatusReport)

/-- The report carries a message that the database gets as this one. -/
def CarriesMessage (message : String) : Prop :=
  ∃ text, report.update.errorMessage = some text ∧ message = deployment.textParam text

/-- One of the attempts reads the time in the text. -/
def CarriesTime (carried : Option String) (time : Time) : Prop :=
  ∃ text, carried = some text ∧ ∃ attempt ∈ report.attempts, deployment.Reads attempt text time

/-- The finish time that the report carries, or the clock for one that carries none.  The
Mongo broker takes the clock only where no finish time is set. -/
def GivesFinishTime (held : Option Time) (time : Time) : Prop :=
  report.CarriesTime deployment report.update.finishedAt time ∨
    (report.update.finishedAt = none ∧ (deployment.OnMongo → held = none) ∧
      ∃ attempt ∈ report.attempts, time = attempt.now)

end StatusReport

/-- A field is as it was, or as one of the reports gives it. -/
def FieldFollows {Value : Type} (reports : List StatusReport)
    (gives : StatusReport → Value → Prop) (before after : Option Value) : Prop :=
  after = before ∨ ∃ report ∈ reports, ∃ value, gives report value ∧ after = some value

/-- What reports that name the state of a finished task have made of its row. -/
structure OutcomeFollows (deployment : Deployment) (reports : List StatusReport)
    (before after : TaskRow) : Prop where
  state : after.state = before.state
  exitCode : FieldFollows reports (fun report code => report.update.exitCode = some code)
    before.exitCode after.exitCode
  errorMessage : FieldFollows reports (fun report => report.CarriesMessage deployment)
    before.errorMessage after.errorMessage
  startedAt : FieldFollows reports
    (fun report => report.CarriesTime deployment report.update.startedAt)
    before.startedAt after.startedAt
  finishedAt : FieldFollows reports
    (fun report => report.GivesFinishTime deployment before.finishedAt)
    before.finishedAt after.finishedAt

section Composition

variable {Value : Type} {gives : StatusReport → Value → Prop}
  {first second : List StatusReport}

theorem FieldFollows.trans {before middle after : Option Value}
    (start : FieldFollows first gives before middle)
    (rest : FieldFollows second gives middle after) :
    FieldFollows (first ++ second) gives before after := by
  rcases rest with rfl | ⟨report, member, value, given, rfl⟩
  · rcases start with rfl | ⟨report, member, value, given, rfl⟩
    · exact .inl rfl
    · exact .inr ⟨report, List.mem_append_left second member, value, given, rfl⟩
  · exact .inr ⟨report, List.mem_append_right first member, value, given, rfl⟩

theorem FieldFollows.mono {other : StatusReport → Value → Prop} {before after : Option Value}
    (follows : FieldFollows first gives before after) (subset : first ⊆ second)
    (weaker : ∀ report value, gives report value → other report value) :
    FieldFollows second other before after := by
  rcases follows with rfl | ⟨report, member, value, given, rfl⟩
  · exact .inl rfl
  · exact .inr ⟨report, subset member, value, weaker report value given, rfl⟩

/-- A field that a report fills in when it carries a value. -/
theorem FieldFollows.of_or {report : StatusReport} {carried before : Option Value}
    (fromReport : ∀ value, carried = some value → gives report value) :
    FieldFollows [report] gives before (carried.or before) := by
  cases carried with
  | none => exact .inl rfl
  | some value => exact .inr ⟨report, by simp, value, fromReport value rfl, rfl⟩

variable {deployment : Deployment} {before middle after : TaskRow}

/-- What a later report gives, it gives to the first row: a finish time that was set in between
is there, so that the Mongo broker does not take the clock. -/
theorem StatusReport.GivesFinishTime.of_follows {report : StatusReport} {time : Time}
    {held later : Option Time}
    (follows : later = held ∨ ∃ other, later = some other)
    (gives : report.GivesFinishTime deployment later time) :
    report.GivesFinishTime deployment held time := by
  rcases gives with carried | ⟨without, unset, clock⟩
  · exact .inl carried
  · refine .inr ⟨without, fun onMongo => ?_, clock⟩
    rcases follows with rfl | ⟨other, rfl⟩
    · exact unset onMongo
    · cases unset onMongo

theorem OutcomeFollows.refl (deployment : Deployment) (reports : List StatusReport)
    (row : TaskRow) : OutcomeFollows deployment reports row row :=
  ⟨rfl, .inl rfl, .inl rfl, .inl rfl, .inl rfl⟩

theorem OutcomeFollows.trans (start : OutcomeFollows deployment first before middle)
    (rest : OutcomeFollows deployment second middle after) :
    OutcomeFollows deployment (first ++ second) before after where
  state := rest.state.trans start.state
  exitCode := start.exitCode.trans rest.exitCode
  errorMessage := start.errorMessage.trans rest.errorMessage
  startedAt := start.startedAt.trans rest.startedAt
  finishedAt := by
    refine start.finishedAt.trans (rest.finishedAt.mono (List.Subset.refl second) ?_)
    intro report time gives
    apply gives.of_follows
    rcases start.finishedAt with same | ⟨_, _, value, _, isValue⟩
    · exact .inl same
    · exact .inr ⟨value, isValue⟩

theorem OutcomeFollows.mono (follows : OutcomeFollows deployment first before after)
    (subset : first ⊆ second) : OutcomeFollows deployment second before after where
  state := follows.state
  exitCode := follows.exitCode.mono subset fun _ _ given => given
  errorMessage := follows.errorMessage.mono subset fun _ _ given => given
  startedAt := follows.startedAt.mono subset fun _ _ given => given
  finishedAt := follows.finishedAt.mono subset fun _ _ given => given

end Composition

/-! ## Reports of finished tasks -/

section Reports

variable {deployment : Deployment} {attempt : Attempt} {update : TaskStatusUpdate}

/-- The times that a broker takes from a report are read from its texts. -/
theorem reads_of_reportedTimes {times : Option Time × Option Time}
    (reported : deployment.reportedTimes attempt update = .ok times) :
    (∀ time, times.1 = some time →
      ∃ text, update.startedAt = some text ∧ deployment.Reads attempt text time) ∧
    (∀ time, times.2 = some time →
      ∃ text, update.finishedAt = some text ∧ deployment.Reads attempt text time) := by
  cases deployment with
  | pgsql timestamptz =>
      have readsParam : ∀ {carried : Option String} {param : Option Time},
          PgBroker.timestamptzParam timestamptz attempt.now carried = .ok param →
            ∀ time, param = some time → ∃ text, carried = some text ∧
              (Deployment.pgsql timestamptz).Reads attempt text time := by
        intro carried param converted time isSome
        subst isSome
        cases carried with
        | none => cases converted
        | some text =>
            simp only [PgBroker.timestamptzParam] at converted
            split at converted
            · rename_i held found
              cases converted
              exact ⟨text, rfl, found⟩
            · cases converted
      obtain ⟨started, startedEq, rest⟩ := exists_of_bind_eq_ok reported
      obtain ⟨finished, finishedEq, ended⟩ := exists_of_bind_eq_ok rest
      cases ended
      exact ⟨readsParam startedEq, readsParam finishedEq⟩
  | mongo =>
      cases reported
      exact ⟨fun _ carried => Option.bind_eq_some_iff.mp carried,
        fun _ carried => Option.bind_eq_some_iff.mp carried⟩
  | mongoStandalone =>
      cases reported
      exact ⟨fun _ carried => Option.bind_eq_some_iff.mp carried,
        fun _ carried => Option.bind_eq_some_iff.mp carried⟩

variable (isOver : update.state.terminal = true)

include isOver

theorem notRunning_of_terminal : update.state ≠ .running := by
  intro running
  rw [running] at isOver
  cases isOver

/-- The row that an attempt writes over a finished task in the same state. -/
theorem outcomeFollows_reportedRow {attempts : List Attempt} (member : attempt ∈ attempts)
    {times : Option Time × Option Time}
    (reported : deployment.reportedTimes attempt update = .ok times) {row : TaskRow}
    (same : row.state = update.state) :
    OutcomeFollows deployment [⟨update, attempts⟩] row
      (deployment.reportedRow attempt.now update times row) where
  state := same.symm
  exitCode := .of_or fun _ carried => carried
  errorMessage := by
    apply FieldFollows.of_or
    intro text carried
    cases deployment with
    | pgsql timestamptz =>
        obtain ⟨whole, isMessage, rfl⟩ := Option.map_eq_some_iff.mp carried
        exact ⟨whole, isMessage, rfl⟩
    | mongo => exact ⟨text, (Option.filter_eq_some_iff.mp carried).1, rfl⟩
    | mongoStandalone => exact ⟨text, (Option.filter_eq_some_iff.mp carried).1, rfl⟩
  startedAt := by
    simp only [Deployment.reportedRow, notRunning_of_terminal isOver, decide_false,
      Bool.and_false]
    apply FieldFollows.of_or
    intro time isTime
    obtain ⟨text, carried, reads⟩ := (reads_of_reportedTimes reported).1 time isTime
    exact ⟨text, carried, attempt, member, reads⟩
  finishedAt := by
    have finishRead := (reads_of_reportedTimes reported).2
    cases carried : update.finishedAt with
    | none =>
        have noTime : times.2 = none := by
          cases isTime : times.2 with
          | none => rfl
          | some time =>
              obtain ⟨text, isText, _⟩ := finishRead time isTime
              rw [carried] at isText
              cases isText
        have byClock : (deployment.OnMongo → row.finishedAt = none) →
            (StatusReport.mk update attempts).GivesFinishTime deployment row.finishedAt
              attempt.now := fun unset => .inr ⟨carried, unset, attempt, member, rfl⟩
        have written : (deployment.reportedRow attempt.now update times row).finishedAt =
            deployment.defaultTime attempt.now row.finishedAt := by
          simp [Deployment.reportedRow, noTime, carried, isOver]
        rw [written]
        cases deployment with
        | pgsql timestamptz =>
            exact .inr ⟨_, by simp, attempt.now, byClock fun onMongo => onMongo.elim, rfl⟩
        | mongo =>
            cases held : row.finishedAt with
            | none => exact .inr ⟨_, by simp, attempt.now, held ▸ byClock fun _ => held, rfl⟩
            | some time => exact .inl rfl
        | mongoStandalone =>
            cases held : row.finishedAt with
            | none => exact .inr ⟨_, by simp, attempt.now, held ▸ byClock fun _ => held, rfl⟩
            | some time => exact .inl rfl
    | some text =>
        simp only [Deployment.reportedRow, carried, Option.isNone_some, Bool.false_and]
        apply FieldFollows.of_or
        intro time isTime
        obtain ⟨whole, isText, reads⟩ := finishRead time isTime
        exact .inl ⟨whole, isText, attempt, member, reads⟩

end Reports

namespace Store

/-- Only the reported task changes, and when it is finished, in the reported state, only as
the report says. -/
structure RepeatsOutcome (deployment : Deployment) (taskId : Int) (report : StatusReport)
    (before after : Store) : Prop where
  others : ∀ other row, other ≠ taskId → before.task other = some row →
    after.task other = some row
  follows : ∀ row, before.task taskId = some row → row.state = report.update.state →
    report.update.state.terminal = true →
      ∃ later, after.task taskId = some later ∧ OutcomeFollows deployment [report] row later

section Repeats

variable {deployment : Deployment} {taskId : Int} {report : StatusReport}

theorem RepeatsOutcome.refl (store : Store) :
    RepeatsOutcome deployment taskId report store store :=
  ⟨fun _ _ _ found => found, fun row found _ _ => ⟨row, found, .refl deployment [report] row⟩⟩

theorem RepeatsOutcome.trans (first second third : Store)
    (start : RepeatsOutcome deployment taskId report first second)
    (rest : RepeatsOutcome deployment taskId report second third) :
    RepeatsOutcome deployment taskId report first third where
  others other row different found :=
    rest.others other row different (start.others other row different found)
  follows row found same isOver := by
    obtain ⟨middle, middleFound, toMiddle⟩ := start.follows row found same isOver
    obtain ⟨later, laterFound, toLater⟩ :=
      rest.follows middle middleFound (toMiddle.state.trans same) isOver
    exact ⟨later, laterFound, (toMiddle.trans toLater).mono (by simp)⟩

/-- The tasks are as they were, but for the reported one, which may have been written. -/
theorem RepeatsOutcome.of_written {attempt : Attempt} (member : attempt ∈ report.attempts)
    {times : Option Time × Option Time}
    (reported : deployment.reportedTimes attempt report.update = .ok times) {before after : Store}
    (written : ∀ other row, before.task other = some row → after.task other = some row ∨
      (other = taskId ∧ after.task other =
        some (deployment.reportedRow attempt.now report.update times row))) :
    RepeatsOutcome deployment taskId report before after where
  others other row different found := by
    rcases written other row found with kept | ⟨isTask, _⟩
    · exact kept
    · exact absurd isTask different
  follows row found same isOver := by
    rcases written taskId row found with kept | ⟨_, changed⟩
    · exact ⟨row, kept, .refl deployment [report] row⟩
    · exact ⟨_, changed, outcomeFollows_reportedRow isOver member reported same⟩

end Repeats

end Store

/-! ## Attempts at a report -/

namespace MongoBroker

open CallProgram MongoCall

/-- Each task is as it was, or the one in question with the document set. -/
def SetsTask (taskId : Int) (set : TaskSet) (before after : Store) : Prop :=
  ∀ other row, before.task other = some row → after.task other = some row ∨
    (other = taskId ∧ after.task other = some (set.apply row))

theorem SetsTask.trans {taskId : Int} {set : TaskSet} (first second third : Store)
    (start : SetsTask taskId set first second) (rest : SetsTask taskId set second third) :
    SetsTask taskId set first third := by
  intro other row found
  rcases start other row found with kept | ⟨isTask, written⟩
  · exact rest other row kept
  · rcases rest other (set.apply row) written with kept | ⟨_, again⟩
    · exact .inr ⟨isTask, kept⟩
    · rw [TaskSet.apply_apply] at again
      exact .inr ⟨isTask, again⟩

theorem interrupted_tasksFindOne (rank : Int → Nat) (taskId : Int) (store : Store)
    (progress : Progress) : interrupted rank (.tasksFindOne taskId) progress store = store := by
  unfold interrupted
  dsimp only
  split
  · rw [exec_tasksFindOne]
  · rfl

variable (attempt : Attempt) (taskId : Int) (update : TaskStatusUpdate) {store : Store}

/-- The calls of a report that is cut short write the document for the row that the report has
read, or nothing. -/
theorem runCalls_updateTaskStatus {current : TaskRow} (found : store.task taskId = some current) :
    SetsTask taskId (statusSet attempt current update) store
      (runCalls attempt (updateTaskStatusNoTransaction attempt taskId update) store).2 := by
  have unchanged : SetsTask taskId (statusSet attempt current update) store store :=
    fun _ _ found => .inl found
  have read : exec attempt.rank (.tasksFindOne taskId) store = (.ok (some current), store) := by
    rw [exec_tasksFindOne, found]
  rcases runUntil_read (exec attempt.rank) (interrupted attempt.rank) attempt.error
    attempt.raisingCall read (interrupted_tasksFindOne attempt.rank taskId store) _ with
    stopped | ⟨later, goesOn⟩
  · unfold runCalls updateTaskStatusNoTransaction
    rw [stopped]
    exact unchanged
  · unfold runCalls updateTaskStatusNoTransaction
    rw [goesOn]
    let writes : MongoCall → Prop := fun call => ∀ filter set,
      call.taskUpdate = some (filter, set) →
        filter.taskId = some taskId ∧ set = statusSet attempt current update
    have effect : ∀ call, writes call → ∀ before after : Store,
        (∀ other row, before.task other = some row → call.LeavesOrUpdates other row after) →
          SetsTask taskId (statusSet attempt current update) before after := by
      intro call writesOnly before after each other row rowFound
      rcases each other row rowFound with kept | ⟨filter, set, isUpdate, hit, written⟩
      · exact .inl kept
      · obtain ⟨isTask, rfl⟩ := writesOnly filter set isUpdate
        simp only [TaskFilter.matches, isTask, Bool.and_eq_true, Option.all_some,
          decide_eq_true_eq] at hit
        exact .inr ⟨(KeyedTable.key_of_lookup rowFound).symm.trans hit.1.1.1.1.1, written⟩
    have quiet : ∀ {call : MongoCall}, call.taskUpdate = none → writes call := by
      intro call leaves filter set isUpdate
      rw [leaves] at isUpdate
      cases isUpdate
    refine runUntil_rel (fun _ _ _ found => .inl found) SetsTask.trans
      (fun call allowed before =>
        effect call allowed before _ fun _ _ found => task_exec attempt.rank call found)
      (fun call allowed progress before => effect call allowed before _ fun _ _ found =>
        task_interrupted attempt.rank call progress found) attempt.error later ?_ store
    refine .perform ?_ fun _ => ?_
    · rintro filter set ⟨⟩
      exact ⟨rfl, rfl⟩
    · split
      · exact .perform (quiet rfl) fun _ => trivial
      · trivial

end MongoBroker

namespace Deployment

section Operations

variable (deployment : Deployment) (taskId : Int) (update : TaskStatusUpdate)
  {attempts : List Attempt} {attempt : Attempt} (member : attempt ∈ attempts) (store : Store)

include member

theorem updateTaskStatusPass_repeatsOutcome :
    RepeatsOutcome deployment taskId ⟨update, attempts⟩ store
      (deployment.updateTaskStatusPass taskId update attempt store).2 := by
  unfold updateTaskStatusPass
  cases reported : deployment.reportedTimes attempt update with
  | error error => exact RepeatsOutcome.refl store
  | ok times =>
      cases held : store.task taskId with
      | none => exact RepeatsOutcome.refl store
      | some current =>
          refine RepeatsOutcome.of_written member reported fun other row found => ?_
          by_cases isTask : other = taskId
          · refine .inr ⟨isTask, ?_⟩
            dsimp only
            split <;> simp [closeTask, isTask, isTask ▸ found]
          · refine .inl ?_
            dsimp only
            split <;> simp [closeTask, isTask, found]

theorem runCalls_repeatsOutcome (onMongo : deployment.OnMongo) :
    RepeatsOutcome deployment taskId ⟨update, attempts⟩ store
      (runCalls attempt (MongoBroker.updateTaskStatusNoTransaction attempt taskId update)
        store).2 := by
  cases found : store.task taskId with
  | none =>
      have kept : (runCalls attempt
          (MongoBroker.updateTaskStatusNoTransaction attempt taskId update) store).2 = store := by
        have read : MongoCall.exec attempt.rank (.tasksFindOne taskId) store =
            (.ok none, store) := by rw [MongoCall.exec_tasksFindOne, found]
        rcases CallProgram.runUntil_read (MongoCall.exec attempt.rank)
          (MongoCall.interrupted attempt.rank) attempt.error attempt.raisingCall read
          (MongoBroker.interrupted_tasksFindOne attempt.rank taskId store) _ with
          stopped | ⟨later, goesOn⟩
        · exact stopped
        · refine (congrArg Prod.snd goesOn).trans ?_
          exact congrArg Prod.snd (CallProgram.runUntil_done _ _ attempt.error later false store)
      rw [kept]
      exact RepeatsOutcome.refl store
  | some current =>
      have sets := MongoBroker.runCalls_updateTaskStatus attempt taskId update found
      refine RepeatsOutcome.of_written member (onMongo.reportedTimes_eq attempt update) ?_
      intro other row rowFound
      rcases sets other row rowFound with kept | ⟨rfl, written⟩
      · exact .inl kept
      · cases found.symm.trans rowFound
        rw [apply_statusSet onMongo attempt update current] at written
        exact .inr ⟨rfl, written⟩

/-- An attempt that fails half-way has written the row that the whole attempt writes, or
nothing. -/
theorem act_repeatsOutcome :
    RepeatsOutcome deployment taskId ⟨update, attempts⟩ store
      ((deployment.updateTaskStatusLoop taskId update).act attempt store).2 := by
  by_cases atomic : deployment.AtomicAttempt attempt
  · rcases (deployment.updateTaskStatusLoop taskId update).allOrNothing attempt atomic store with
      same | ⟨error, nothing | all⟩
    · rw [same]
      exact deployment.updateTaskStatusPass_repeatsOutcome taskId update member store
    · rw [nothing]
      exact RepeatsOutcome.refl store
    · rw [all]
      exact deployment.updateTaskStatusPass_repeatsOutcome taskId update member store
  · have cutShort : deployment.OnMongo → attempt.transaction = none →
        RepeatsOutcome deployment taskId ⟨update, attempts⟩ store
          (withTransaction attempt
            (MongoBroker.updateTaskStatusTransaction attempt taskId update)
            (MongoBroker.updateTaskStatusNoTransaction attempt taskId update) store).2 := by
      intro onMongo plain
      unfold withTransaction
      rw [plain]
      exact deployment.runCalls_repeatsOutcome taskId update member store onMongo
    cases deployment with
    | pgsql timestamptz => exact (atomic trivial).elim
    | mongo => exact cutShort trivial (not_not.mp (not_or.mp atomic).1)
    | mongoStandalone => exact cutShort trivial (not_not.mp (not_or.mp atomic).1)

omit member in
/-- A report, whatever fails in it, leaves the other tasks, and of a finished task in the
reported state what the report says. -/
theorem updateTaskStatus_repeatsOutcome (attempts : List Attempt) :
    RepeatsOutcome deployment taskId ⟨update, attempts⟩ store
      (deployment.broker.updateTaskStatus attempts taskId update store).2 := by
  rw [(deployment.updateTaskStatusLoop taskId update).method_eq attempts, LoopOf.caught_store]
  refine RetryLoop.retry_rel RepeatsOutcome.refl RepeatsOutcome.trans _ ?_ store
  intro action member before
  obtain ⟨attempt, among, rfl⟩ := List.mem_map.mp member
  exact deployment.act_repeatsOutcome taskId update among before

end Operations

end Deployment

/-! ## Runs -/

/-- The status report for the task, in the given state, that the request of a step carries. -/
def MasterStep.reportOf (taskId : Int) (state : TaskState) : MasterStep → Option StatusReport
  | .request schedule (.updateTaskStatus taskIdRaw body) =>
      if Api.parseTaskId taskIdRaw = some taskId then
        match ControlService.parseBody Api.parseTaskStatusUpdate body with
        | .ok update => if update.state = state then some ⟨update, schedule.second⟩ else none
        | .error _ => none
      else none
  | _ => none

theorem eq_of_isValidTaskStateTransition {before after : TaskState}
    (isOver : before.terminal = true)
    (valid : Api.isValidTaskStateTransition before after = true) : after = before := by
  cases before <;> cases after <;> simp_all [Api.isValidTaskStateTransition, TaskState.terminal]

section Runs

variable (deployment : Deployment) (config : MasterConfig) {taskId : Int} {row : TaskRow}
  (isOver : row.state.terminal = true)

include isOver

theorem masterStep_outcomeFollows {store : Store} (found : store.task taskId = some row)
    (step : MasterStep) :
    ∃ after, (masterStep deployment config store step).task taskId = some after ∧
      OutcomeFollows deployment (step.reportOf taskId row.state).toList row after := by
  have unchanged : ∀ {after : Store}, KeepsFinished store after →
      ∃ later, after.task taskId = some later ∧
        OutcomeFollows deployment (step.reportOf taskId row.state).toList row later :=
    fun kept => ⟨row, kept taskId row found isOver, .refl deployment _ row⟩
  have call := masterStep_call deployment config store step
  generalize masterStep deployment config store step = after at call
  cases call with
  | quiet => exact unchanged (KeepsFinished.refl store)
  | upsertAgent schedule agentId body agent parsed =>
      exact unchanged (deployment.upsertAgent_keepsFinished schedule.first store agent)
  | agentHeartbeat schedule agentId body heartbeat parsed =>
      exact unchanged (deployment.updateHeartbeat_keepsFinished schedule.first store heartbeat)
  | pollTasks schedule agentId body freeSlots parsed =>
      exact unchanged
        (deployment.pollTasksForAgent_keepsFinished schedule.first store agentId freeSlots)
  | createTask schedule body task parsed =>
      exact unchanged (deployment.createTask_keepsFinished schedule.first store task)
  | cancelTask schedule taskIdRaw other parsedId =>
      exact unchanged (deployment.cancelTask_keepsFinished schedule.first store other)
  | sweep attempts =>
      exact unchanged
        (deployment.markOfflineAgentsAndRequeue_keepsFinished attempts store config.offlineAfterSec)
  | updateTaskStatus schedule taskIdRaw body other update held parsedId parsed heldFound valid =>
      have written := deployment.updateTaskStatus_repeatsOutcome other update store schedule.second
      by_cases isTask : taskId = other
      · subst isTask
        cases found.symm.trans heldFound
        have same := eq_of_isValidTaskStateTransition isOver valid
        obtain ⟨later, laterFound, follows⟩ :=
          written.follows row found same.symm (by rw [same]; exact isOver)
        refine ⟨later, laterFound, follows.mono ?_⟩
        simp [MasterStep.reportOf, parsedId, parsed, same]
      · exact ⟨row, written.others taskId row isTask found, .refl deployment _ row⟩

/-- What is recorded of a finished task changes only to what later reports of the same state
give. -/
theorem finished_outcomes_follow_reports {start : Store} (found : start.task taskId = some row)
    (steps : List MasterStep) :
    ∃ after, (run (masterStep deployment config) start steps).task taskId = some after ∧
      OutcomeFollows deployment (steps.filterMap (MasterStep.reportOf taskId row.state))
        row after := by
  induction steps generalizing start row with
  | nil => exact ⟨row, found, .refl deployment [] row⟩
  | cons step steps ih =>
      obtain ⟨middle, middleFound, first⟩ :=
        masterStep_outcomeFollows deployment config isOver found step
      obtain ⟨after, afterFound, rest⟩ := ih (by rw [first.state]; exact isOver) middleFound
      rw [first.state] at rest
      refine ⟨after, afterFound, (first.trans rest).mono ?_⟩
      intro report member
      rw [List.filterMap_cons]
      cases reported : step.reportOf taskId row.state with
      | none => simpa [reported] using member
      | some own => simpa [reported] using member

end Runs

/-- The result of the task is reported again, with another exit code. -/
def secondReport (deployment : Deployment) : MasterStep :=
  .calm deployment 6000 (AgentClient.updateTaskStatus "1" "succeeded" (some 1) none none none)

theorem finished_outcomes_follow_reports_secondReport :
    ∃ before after,
      (run (masterStep .mongo {}) Store.empty (finalReport .mongo none)).task 1 = some before ∧
      (run (masterStep .mongo {}) (run (masterStep .mongo {}) Store.empty
        (finalReport .mongo none)) [secondReport .mongo]).task 1 = some after ∧
      OutcomeFollows .mongo ([secondReport .mongo].filterMap (MasterStep.reportOf 1 before.state))
        before after := by
  obtain ⟨before, found, isOver⟩ : ∃ before,
      (run (masterStep .mongo {}) Store.empty (finalReport .mongo none)).task 1 = some before ∧
        before.state.terminal = true := ⟨_, rfl, rfl⟩
  obtain ⟨after, laterFound, follows⟩ :=
    finished_outcomes_follow_reports .mongo {} isOver found [secondReport .mongo]
  exact ⟨before, after, found, laterFound, follows⟩

/-- A report of the state that the task already has overwrites its exit code. -/
theorem outcome_rewritten_by_report :
    ∃ before after,
      (run (masterStep .mongo {}) Store.empty (finalReport .mongo none)).task 1 = some before ∧
      (run (masterStep .mongo {}) Store.empty
        (finalReport .mongo none ++ [secondReport .mongo])).task 1 = some after ∧
      before.state = .succeeded ∧ before.exitCode = some 0 ∧ after.exitCode = some 1 :=
  ⟨_, _, rfl, rfl, rfl, rfl, rfl⟩

end DistributedComputing
