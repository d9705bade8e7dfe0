import DistributedComputing.OfflineSweepFaults

/-!
# A cancel without transactions that fails midway

The cancel makes two writes: the task is canceled, its open assignment rows are closed.
After the first of them the task is finished, so an attempt that raises after it is
followed by attempts that take the task for one that was finished before.
-/

namespace DistributedComputing

namespace MongoBroker

open MongoCall Store

/-! ## One attempt -/

/-- One pass through the lambda of the cancel. -/
def cancelOnce (taskId : Int) (attempt : Attempt) : DbAction CancelTaskResult :=
  withTransaction attempt (cancelTaskTransaction attempt taskId)
    (cancelTaskNoTransaction attempt taskId)

theorem cancelTask_eq (attempts : List Attempt) (taskId : Int) :
    cancelTask attempts taskId = orElse .error (executeWithRetry attempts (cancelOnce taskId)) :=
  rfl

/-- The calls of an attempt are the query, the update of the task and the update of its
assignments.  The attempt raises at one of the first of them, or before them. -/
def raisesWithin (calls : Nat) (attempt : Attempt) : Bool :=
  attempt.transaction.isSome || attempt.raisingCall.any fun raising => decide (raising.1 < calls)

/-- The update of the task takes effect if the task is not finished. -/
def cancels (attempt : Attempt) : Bool :=
  attempt.transaction.isNone && reaches attempt.raisingCall 1 0

/-- The two writes, with the rows that the second one reached. -/
def cancelUpTo (taskId : Int) (current : TaskRow) (attempt : Attempt) (store : Store) : Store :=
  updateReachedAssignments { taskId := some taskId } (cancelUnassign attempt.now)
    (reaches attempt.raisingCall 2)
    (store.updateTask taskId (cancelSet attempt.now current).apply (TaskSet.taskId_apply _))

/-- What an attempt answers about a task that is absent or finished. -/
def refusal (store : Store) (taskId : Int) : CancelTaskResult :=
  if (store.task taskId).isSome then .invalidState else .notFound

/-- The task exists and is queued or running. -/
def Unfinished (store : Store) (taskId : Int) : Prop :=
  ∃ task, store.task taskId = some task ∧ (task.state = .queued ∨ task.state = .running)

theorem unfinished_iff {store : Store} {taskId : Int} :
    Unfinished store taskId ↔
      ∃ task, store.task taskId = some task ∧ task.state.terminal = false := by
  apply exists_congr
  intro task
  apply and_congr_right
  intro _
  cases task.state <;> simp [TaskState.terminal]

theorem terminal_of_finished {store : Store} {taskId : Int}
    (finished : ¬ Unfinished store taskId) {task : TaskRow}
    (found : store.task taskId = some task) : task.state.terminal = true := by
  by_contra running
  exact finished (unfinished_iff.mpr ⟨task, found, by simpa using running⟩)

theorem cancelOnce_beforeCommit {attempt : Attempt}
    (disconnected : attempt.transaction = some .beforeCommit) (taskId : Int) (store : Store) :
    cancelOnce taskId attempt store = (.error attempt.error, store) := by
  rw [cancelOnce, withTransaction, disconnected]
  exact TxEnd.attempt_beforeCommit attempt.error _ store

theorem cancelOnce_rejected {attempt : Attempt} (rejected : attempt.transaction = none)
    (taskId : Int) (store : Store) :
    cancelOnce taskId attempt store =
      (cancelTaskNoTransaction attempt taskId).runUntil (exec attempt.rank)
        (interrupted attempt.rank) attempt.error attempt.raisingCall store := by
  rw [cancelOnce, withTransaction, rejected]
  rfl

theorem cancelOnce_raisesAtQuery {attempt : Attempt} (rejected : attempt.transaction = none)
    {progress : Progress} (raising : attempt.raisingCall = some (0, progress)) (taskId : Int)
    (store : Store) : cancelOnce taskId attempt store = (.error attempt.error, store) := by
  rw [cancelOnce_rejected rejected, raising, cancelTaskNoTransaction, CallProgram.perform_bind,
    CallProgram.runUntil_zero]
  exact congrArg (Prod.mk _) (ite_self store)

theorem cancelOnce_of_finished {attempt : Attempt} (standalone : Standalone attempt)
    {store : Store} {taskId : Int} (finished : ¬ Unfinished store taskId) :
    cancelOnce taskId attempt store =
      if raisesWithin 1 attempt then (.error attempt.error, store)
      else (.ok (refusal store taskId), store) := by
  rcases standalone with rejected | disconnected
  · rcases raising : attempt.raisingCall with _ | ⟨_ | index, progress⟩
    · rw [cancelOnce_rejected rejected, raising, CallProgram.runUntil_none,
        run_cancelTaskNoTransaction]
      simp only [raisesWithin, rejected, raising, refusal]
      cases found : store.task taskId with
      | none => rfl
      | some current =>
          have isOver := terminal_of_finished finished found
          simp [isOver]
    · rw [cancelOnce_raisesAtQuery rejected raising]
      simp [raisesWithin, raising]
    · rw [cancelOnce_rejected rejected, raising]
      refine (CallProgram.runUntil_perform_of_ok _ _ _ index progress
        (exec_tasksFindOne _ taskId store) _).trans ?_
      simp only [raisesWithin, rejected, raising, refusal]
      cases found : store.task taskId with
      | none => rfl
      | some current =>
          have isOver := terminal_of_finished finished found
          simp [isOver]
  · rw [cancelOnce_beforeCommit disconnected, raisesWithin, disconnected]
    rfl

/-- What follows the query of a task that is not finished. -/
def cancelWrites (attempt : Attempt) (taskId : Int) (current : TaskRow) :
    MongoProgram CancelTaskResult := do
  let _ ← issue (.tasksUpdateOne { taskId := some taskId } (cancelSet attempt.now current))
  issue (.taskAssignmentsUpdateMany { taskId := some taskId } (cancelUnassign attempt.now))
  return .ok

theorem cancelOnce_raisesLater {attempt : Attempt} (rejected : attempt.transaction = none)
    {store : Store} {taskId : Int} {current : TaskRow}
    (found : store.task taskId = some current) (running : current.state.terminal = false)
    {index : Nat} {progress : Progress}
    (raising : attempt.raisingCall = some (index + 1, progress)) :
    cancelOnce taskId attempt store =
      (cancelWrites attempt taskId current).runUntil (exec attempt.rank)
        (interrupted attempt.rank) attempt.error (some (index, progress)) store := by
  rw [cancelOnce_rejected rejected, raising]
  refine (CallProgram.runUntil_perform_of_ok _ _ _ index progress
    (exec_tasksFindOne _ taskId store) _).trans ?_
  rw [found]
  dsimp only
  rw [running, if_neg Bool.false_ne_true]
  rfl

/-- An attempt whose first write does not take effect raises and changes nothing. -/
theorem cancelOnce_idle {attempt : Attempt} (standalone : Standalone attempt) {store : Store}
    {taskId : Int} {current : TaskRow} (found : store.task taskId = some current)
    (running : current.state.terminal = false) (idle : cancels attempt = false) :
    cancelOnce taskId attempt store = (.error attempt.error, store) := by
  rcases standalone with rejected | disconnected
  · simp only [cancels, rejected, Option.isNone_none, Bool.true_and] at idle
    rcases raising : attempt.raisingCall with _ | ⟨_ | _ | index, progress⟩
    · simp [raising, reaches] at idle
    · exact cancelOnce_raisesAtQuery rejected raising taskId store
    · have missed : progress 0 = false := by simpa [raising, reaches] using idle
      rw [cancelOnce_raisesLater rejected found running raising, cancelWrites,
        CallProgram.perform_bind, CallProgram.runUntil_zero]
      simp [interrupted, missed]
    · simp [raising, reaches] at idle
  · exact cancelOnce_beforeCommit disconnected taskId store

/-- An attempt whose first write takes effect returns unless it raises later. -/
theorem cancelOnce_cancels {attempt : Attempt} {store : Store} {taskId : Int}
    {current : TaskRow} (found : store.task taskId = some current)
    (running : current.state.terminal = false) (writes : cancels attempt = true) :
    cancelOnce taskId attempt store =
      (if raisesWithin 3 attempt then .error attempt.error else .ok .ok,
        cancelUpTo taskId current attempt store) := by
  simp only [cancels, Bool.and_eq_true, Option.isNone_iff_eq_none] at writes
  obtain ⟨rejected, written⟩ := writes
  have updated := exec_tasksUpdateOne_byId found attempt.rank (cancelSet attempt.now current)
  rcases raising : attempt.raisingCall with _ | ⟨_ | _ | _ | index, progress⟩
  · have whole : reaches attempt.raisingCall 2 = fun _ => true := by
      rw [raising]
      rfl
    rw [cancelUpTo, whole, updateReachedAssignments_all, cancelOnce_rejected rejected, raising,
      CallProgram.runUntil_none, run_cancelTaskNoTransaction, found]
    simp [running, raisesWithin, rejected, raising]
  · simp [raising, reaches] at written
  · have nothing : reaches attempt.raisingCall 2 = fun _ => false := by
      rw [raising]
      exact funext fun element => reaches_eq_false (by omega) progress element
    have applied : progress 0 = true := by simpa [raising, reaches] using written
    rw [cancelUpTo, nothing, updateReachedAssignments_nothing,
      cancelOnce_raisesLater rejected found running raising, cancelWrites,
      CallProgram.perform_bind, CallProgram.runUntil_zero]
    simp [raisesWithin, raising, interrupted, applied, updated]
  · have partly : reaches attempt.raisingCall 2 = progress := by
      rw [raising]
      exact funext fun element => by simp [reaches]
    rw [cancelUpTo, partly, cancelOnce_raisesLater rejected found running raising]
    refine (CallProgram.runUntil_perform_of_ok _ _ _ 0 progress updated _).trans ?_
    simp [raisesWithin, raising, interrupted]
  · have whole : reaches attempt.raisingCall 2 = fun _ => true := by
      rw [raising]
      exact funext fun element => by simp [reaches]
    rw [cancelUpTo, whole, updateReachedAssignments_all,
      cancelOnce_raisesLater rejected found running raising]
    refine (CallProgram.runUntil_perform_of_ok _ _ _ (index + 1) progress updated _).trans ?_
    refine (CallProgram.runUntil_perform_of_ok _ _ _ index progress rfl _).trans ?_
    simp [raisesWithin, rejected, raising]

/-! ## The attempts in order -/

/-- The first attempt whose update of the task takes effect raises later, and these attempts
follow it. -/
def CutShort (attempts : List Attempt) (lost : Attempt) (later : List Attempt) : Prop :=
  attempts.dropWhile (fun attempt => !cancels attempt) = lost :: later ∧
    raisesWithin 3 lost = true

/-- The second write of the attempt misses an open assignment of the task. -/
def LeavesOpen (store : Store) (taskId : Int) (lost : Attempt) : Prop :=
  ∃ position row, store.taskAssignments[position]? = some row ∧ row.taskId = taskId ∧
    row.unassignedAt = none ∧ reaches lost.raisingCall 2 position = false

/-- An open assignment row of the task. -/
def HasOpenRow (store : Store) (taskId : Int) : Prop :=
  ∃ row ∈ store.taskAssignments, row.taskId = taskId ∧ row.unassignedAt = none

theorem cancelTask_cons_of_ok {taskId : Int} {attempt : Attempt} {store after : Store}
    {result : CancelTaskResult} (returned : cancelOnce taskId attempt store = (.ok result, after))
    (attempts : List Attempt) :
    cancelTask (attempt :: attempts) taskId store = (.ok result, after) := by
  have ended : executeWithRetry (attempt :: attempts) (cancelOnce taskId) store =
      (.ok result, after) :=
    RetryLoop.retry_cons_of_ok _ _ returned
  exact orElse_of_ok .error ended

theorem cancelTask_cons_of_error {taskId : Int} {attempt : Attempt} {store after : Store}
    {error : DbError} (raised : cancelOnce taskId attempt store = (.error error, after))
    (attempts : List Attempt) :
    cancelTask (attempt :: attempts) taskId store = cancelTask attempts taskId after := by
  have again : ∀ others, others ≠ [] →
      executeWithRetry (attempt :: others) (cancelOnce taskId) store =
        executeWithRetry others (cancelOnce taskId) after := by
    intro others nonempty
    apply RetryLoop.retry_cons_of_error _ _ raised
    simpa using nonempty
  cases attempts with
  | nil =>
      have failed : executeWithRetry [attempt] (cancelOnce taskId) store = (.error error, after) :=
        raised
      exact orElse_of_error .error failed
  | cons next attempts =>
      have same := again (next :: attempts) (List.cons_ne_nil next attempts)
      rw [cancelTask_eq, cancelTask_eq, orElse, orElse, same]

theorem cancelTask_of_finished {attempts : List Attempt}
    (standalone : ∀ attempt ∈ attempts, Standalone attempt) {store : Store} {taskId : Int}
    (finished : ¬ Unfinished store taskId) :
    cancelTask attempts taskId store =
      (.ok (if attempts.all (raisesWithin 1) then .error else refusal store taskId), store) := by
  induction attempts with
  | nil => rfl
  | cons attempt attempts ih =>
      have once := cancelOnce_of_finished (standalone attempt (by simp)) finished
      cases raises : raisesWithin 1 attempt with
      | false =>
          rw [raises, if_neg Bool.false_ne_true] at once
          rw [cancelTask_cons_of_ok once]
          simp [raises]
      | true =>
          rw [raises, if_pos rfl] at once
          rw [cancelTask_cons_of_error once,
            ih fun other member => standalone other (List.mem_cons_of_mem attempt member)]
          simp [raises]

theorem task_cancelUpTo {store : Store} {taskId : Int} {current : TaskRow}
    (found : store.task taskId = some current) (attempt : Attempt) :
    (cancelUpTo taskId current attempt store).task taskId =
      some ((cancelSet attempt.now current).apply current) := by
  refine (store.task_updateTask taskId _ (TaskSet.taskId_apply _) taskId).trans ?_
  rw [if_pos rfl, found]
  rfl

theorem hasOpenRow_cancelUpTo {store : Store} {taskId : Int} (current : TaskRow)
    (attempt : Attempt) :
    HasOpenRow (cancelUpTo taskId current attempt store) taskId ↔
      LeavesOpen store taskId attempt := by
  have rowEq : ∀ position, (cancelUpTo taskId current attempt store).taskAssignments[position]? =
      store.taskAssignments[position]?.map fun row =>
        if decide (row.taskId = taskId) && row.unassignedAt.isNone &&
            reaches attempt.raisingCall 2 position then
          (cancelUnassign attempt.now).apply row
        else row := by
    intro position
    simp [cancelUpTo, updateReachedAssignments, AssignmentFilter.matches]
  simp only [HasOpenRow, LeavesOpen, List.mem_iff_getElem?, rowEq]
  constructor
  · rintro ⟨row, ⟨position, atPosition⟩, ofTask, isOpen⟩
    obtain ⟨before, atBefore, rfl⟩ := Option.map_eq_some_iff.mp atPosition
    refine ⟨position, before, atBefore, ?_⟩
    split at isOpen
    · cases isOpen
    · rename_i missed
      rw [if_neg missed] at ofTask
      refine ⟨ofTask, isOpen, ?_⟩
      simpa [ofTask, isOpen] using missed
  · rintro ⟨position, row, atPosition, ofTask, isOpen, missed⟩
    refine ⟨row, ⟨position, ?_⟩, ofTask, isOpen⟩
    rw [atPosition, Option.map_some, missed, Bool.and_false, if_neg Bool.false_ne_true]

theorem cancelTask_of_unfinished {attempts : List Attempt}
    (standalone : ∀ attempt ∈ attempts, Standalone attempt) {store : Store} {taskId : Int}
    {current : TaskRow} (found : store.task taskId = some current)
    (running : current.state.terminal = false) :
    (attempts.dropWhile (fun attempt => !cancels attempt) = [] →
      cancelTask attempts taskId store = (.ok .error, store)) ∧
    ∀ writer later, attempts.dropWhile (fun attempt => !cancels attempt) = writer :: later →
      cancelTask attempts taskId store =
        (.ok (if raisesWithin 3 writer then
            if later.all (raisesWithin 1) then .error else .invalidState
          else .ok), cancelUpTo taskId current writer store) := by
  induction attempts with
  | nil => exact ⟨fun _ => rfl, by simp⟩
  | cons attempt attempts ih =>
      have rest := fun other member => standalone other (List.mem_cons_of_mem attempt member)
      cases writes : cancels attempt with
      | false =>
          have once := cancelOnce_idle (standalone attempt (by simp)) found running writes
          rw [cancelTask_cons_of_error once, List.dropWhile_cons_of_pos (by simp [writes])]
          exact ih rest
      | true =>
          have once := cancelOnce_cancels found running writes
          rw [List.dropWhile_cons_of_neg (by simp [writes])]
          refine ⟨by simp, ?_⟩
          rintro _ _ ⟨⟩
          cases raises : raisesWithin 3 attempt with
          | false =>
              rw [raises, if_neg Bool.false_ne_true] at once
              exact cancelTask_cons_of_ok once attempts
          | true =>
              rw [raises, if_pos rfl] at once
              have canceled := task_cancelUpTo found attempt
              have finished : ¬ Unfinished (cancelUpTo taskId current attempt store) taskId := by
                rintro ⟨task, isTask, active⟩
                rw [canceled] at isTask
                cases isTask
                rcases active with ⟨⟨⟩⟩ | ⟨⟨⟩⟩
              rw [cancelTask_cons_of_error once, cancelTask_of_finished rest finished, refusal,
                canceled]
              rfl

/-! ## The cancel -/

/-- The task was not finished before the call and is canceled after it. -/
def CanceledBy (taskId : Int) (before after : Store) : Prop :=
  Unfinished before taskId ∧
    ∃ task, after.task taskId = some task ∧ task.state = .canceled

structure CancelIsSound (taskId : Int) (before : Store) (result : CancelTaskResult)
    (after : Store) : Prop where
  answer : result ≠ .error → (result = .ok ↔ Unfinished before taskId)
  closed : CanceledBy taskId before after → ¬ HasOpenRow after taskId

theorem cancelIsSound_of_finished {store : Store} {taskId : Int}
    (finished : ¬ Unfinished store taskId) (errors : Bool) :
    CancelIsSound taskId store (if errors then .error else refusal store taskId) store where
  answer _ := by
    have refused : (if errors then .error else refusal store taskId) ≠ CancelTaskResult.ok := by
      rw [refusal]
      split
      · simp
      · split <;> simp
    exact iff_of_false refused finished
  closed canceled := absurd canceled.1 finished

theorem cancelIsSound_cancelUpTo {store : Store} {taskId : Int} {current : TaskRow}
    (found : store.task taskId = some current) (running : current.state.terminal = false)
    (writer : Attempt) (result : CancelTaskResult) :
    CancelIsSound taskId store result (cancelUpTo taskId current writer store) ↔
      (result = .error ∨ result = .ok) ∧ ¬ LeavesOpen store taskId writer := by
  have unfinished := unfinished_iff.mpr ⟨current, found, running⟩
  have canceled : CanceledBy taskId store (cancelUpTo taskId current writer store) :=
    ⟨unfinished, _, task_cancelUpTo found writer, rfl⟩
  rw [← hasOpenRow_cancelUpTo current writer]
  constructor
  · rintro ⟨answer, closed⟩
    refine ⟨?_, closed canceled⟩
    by_cases failed : result = .error
    · exact .inl failed
    · exact .inr ((answer failed).mpr unfinished)
  · rintro ⟨answer, closed⟩
    refine ⟨fun returned => iff_of_true ?_ unfinished, fun _ => closed⟩
    exact answer.resolve_left returned

/-- An attempt that returns has closed every open row of the task. -/
theorem not_leavesOpen {writer : Attempt} (returns : raisesWithin 3 writer = false)
    (store : Store) (taskId : Int) : ¬ LeavesOpen store taskId writer := by
  rintro ⟨position, row, _, _, _, missed⟩
  simp only [raisesWithin, Bool.or_eq_false_iff] at returns
  rcases raising : writer.raisingCall with _ | ⟨index, progress⟩
  · simp [raising, reaches] at missed
  · have late : 2 < index := by
      have notEarly := returns.2
      simp only [raising, Option.any_some, decide_eq_false_iff_not] at notEarly
      omega
    simp [raising, reaches, late] at missed

/-- For every store and every schedule of exceptions.  The second part is for a reading in
which a call that answers `error` need not close the rows. -/
theorem cancel_is_sound_iff {attempts : List Attempt}
    (standalone : ∀ attempt ∈ attempts, Standalone attempt) (store : Store) (taskId : Int) :
    ∃ result after, cancelTask attempts taskId store = (.ok result, after) ∧
      (CancelIsSound taskId store result after ↔
        ¬ (Unfinished store taskId ∧ ∃ lost later, CutShort attempts lost later ∧
          ((∃ attempt ∈ later, raisesWithin 1 attempt = false) ∨
            LeavesOpen store taskId lost))) ∧
      ((result ≠ .error → CancelIsSound taskId store result after) ↔
        ¬ (Unfinished store taskId ∧ ∃ lost later, CutShort attempts lost later ∧
          ∃ attempt ∈ later, raisesWithin 1 attempt = false)) := by
  by_cases unfinished : Unfinished store taskId
  · obtain ⟨current, found, running⟩ := unfinished_iff.mp unfinished
    obtain ⟨idle, writes⟩ := cancelTask_of_unfinished standalone found running
    rcases first : attempts.dropWhile (fun attempt => !cancels attempt) with _ | ⟨writer, later⟩
    · have sound : CancelIsSound taskId store .error store := by
        refine ⟨fun failed => absurd rfl failed, ?_⟩
        rintro ⟨_, task, isTask, canceled⟩
        rw [found] at isTask
        cases isTask
        rw [canceled] at running
        cases running
      have uncut : ∀ lost later, ¬ CutShort attempts lost later := by
        rintro lost later ⟨dropped, _⟩
        rw [first] at dropped
        cases dropped
      refine ⟨.error, store, idle first, ?_, ?_⟩
      · simp [sound, uncut]
      · simp [uncut]
    · have cut : ∀ lost others, CutShort attempts lost others ↔
          (lost = writer ∧ others = later) ∧ raisesWithin 3 writer = true := by
        intro lost others
        rw [CutShort, first, List.cons.injEq]
        constructor
        · rintro ⟨⟨rfl, rfl⟩, raises⟩
          exact ⟨⟨rfl, rfl⟩, raises⟩
        · rintro ⟨⟨rfl, rfl⟩, raises⟩
          exact ⟨⟨rfl, rfl⟩, raises⟩
      refine ⟨_, _, writes writer later first, ?_⟩
      rw [cancelIsSound_cancelUpTo found running]
      cases raises : raisesWithin 3 writer with
      | false => simp [cut, raises, not_leavesOpen raises]
      | true =>
          cases refused : later.all (raisesWithin 1) with
          | false =>
              have answered : ∃ attempt ∈ later, raisesWithin 1 attempt = false := by
                simpa using refused
              constructor
              · refine iff_of_false (by simp) (not_not_intro ⟨unfinished, writer, later, ?_⟩)
                exact ⟨(cut _ _).mpr ⟨⟨rfl, rfl⟩, raises⟩, .inl answered⟩
              · refine iff_of_false (by simp) (not_not_intro ⟨unfinished, writer, later, ?_⟩)
                exact ⟨(cut _ _).mpr ⟨⟨rfl, rfl⟩, raises⟩, answered⟩
          | true =>
              have silent : ∀ attempt ∈ later, raisesWithin 1 attempt = true := by
                simpa using refused
              have unanswered : ¬ ∃ attempt ∈ later, raisesWithin 1 attempt = false := by
                rintro ⟨attempt, member, answers⟩
                rw [silent attempt member] at answers
                cases answers
              simp [cut, raises, unfinished, unanswered]
  · refine ⟨_, store, cancelTask_of_finished standalone unfinished, ?_, ?_⟩
    · exact iff_of_true (cancelIsSound_of_finished unfinished _) fun cut => unfinished cut.1
    · exact iff_of_true (fun _ => cancelIsSound_of_finished unfinished _)
        fun cut => unfinished cut.1

/-- The connection is lost at the given call of a cancel, with or without effect, and is back
for the next attempt. -/
def cancelLostAt (call : Nat) (effect : Bool) : List Attempt :=
  [{ now := 500000, transaction := none, raisingCall := some (call, fun _ => effect) },
    { now := 502000, transaction := none }]

theorem standalone_cancelLostAt (call : Nat) (effect : Bool) :
    ∀ attempt ∈ cancelLostAt call effect, Standalone attempt := by
  intro attempt member
  rcases List.mem_pair.mp member with rfl | rfl
  · exact .inl rfl
  · exact .inl rfl

theorem cancel_is_sound_lostAtUpdate :
    ∃ result after, cancelTask (cancelLostAt 1 false) 1 silentAgent = (.ok result, after) ∧
      CancelIsSound 1 silentAgent result after := by
  obtain ⟨result, after, answered, sound, _⟩ :=
    cancel_is_sound_iff (standalone_cancelLostAt 1 false) silentAgent 1
  refine ⟨result, after, answered, sound.mpr ?_⟩
  rintro ⟨_, lost, later, ⟨dropped, raises⟩, _⟩
  cases dropped
  cases raises

/-- The task is canceled, its row is still open, and the caller is told that the task had been
finished before. -/
theorem cancel_cut_short :
    (∀ attempt ∈ cancelLostAt 2 false, Standalone attempt) ∧
      ∃ after, cancelTask (cancelLostAt 2 false) 1 silentAgent = (.ok .invalidState, after) ∧
        HasOpenRow after 1 ∧ ¬ CancelIsSound 1 silentAgent .invalidState after := by
  refine ⟨standalone_cancelLostAt 2 false, _, rfl, ?_, ?_⟩
  · exact ⟨_, List.mem_singleton.mpr rfl, rfl, rfl⟩
  · rintro ⟨answer, _⟩
    have unfinished : Unfinished silentAgent 1 := ⟨_, rfl, .inr rfl⟩
    cases (answer (by simp)).mpr unfinished

end MongoBroker

end DistributedComputing
