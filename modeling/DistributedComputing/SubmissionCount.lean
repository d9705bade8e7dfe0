import DistributedComputing.SubmitCommand

/-!
# How many tasks a submission creates

Two retry loops wrap an insert that is not idempotent: that of the CLI around the request
and that of the broker around the insert.  Each repeats the insert when it does not hear
that the last one succeeded.
-/

namespace DistributedComputing

open TransitionRuns

namespace Store

def taskCount (store : Store) : Nat :=
  store.tasks.rows.length

@[simp]
theorem taskCount_advanceTaskSeq (store : Store) (taskSeq : Int)
    (bounds : store.taskSeq ≤ taskSeq ∧ taskSeq ≤ maxTaskId) :
    (store.advanceTaskSeq taskSeq bounds).taskCount = store.taskCount :=
  rfl

theorem taskCount_insertTask (store : Store) (row : TaskRow)
    (fresh : store.task row.taskId = none)
    (bounds : 0 < row.taskId ∧ row.taskId ≤ store.taskSeq) :
    (store.insertTask row fresh bounds).taskCount = store.taskCount + 1 := by
  simp [taskCount, insertTask, KeyedTable.insert]

end Store

/-! ## One attempt of the insert -/

namespace Deployment

/-- One pass through the lambda of `CreateTask`. -/
def createOnce (deployment : Deployment) (task : TaskInput) (attempt : Attempt) : DbAction Int :=
  match deployment with
  | pgsql _ => PgBroker.transaction attempt (PgBroker.createTaskBody attempt task)
  | mongo | mongoStandalone =>
      withTransaction attempt (MongoBroker.createTaskTransaction attempt task)
        (MongoBroker.createTaskNoTransaction attempt task)

/-- The attempt creates the task: the database takes it, the commit or, without a
transaction, the second call has its effect, and there is an id left. -/
def inserts (deployment : Deployment) (task : TaskInput) (attempt : Attempt) (store : Store) :
    Bool :=
  match deployment with
  | pgsql _ =>
      (PgBroker.jsonbError task).isNone &&
        ((decide (attempt.transaction = some .none) ||
          decide (attempt.transaction = some .commitLost)) &&
            decide (store.taskSeq + attempt.sequenceGap + 1 ≤ maxTaskId))
  | mongo | mongoStandalone =>
      decide (store.taskSeq + 1 ≤ maxTaskId) &&
        match attempt.transaction with
        | some fault => decide (fault ≠ .beforeCommit)
        | none => MongoBroker.reaches attempt.raisingCall 1 0

/-- The attempt raises although its insert took effect, if it did. -/
def insertUnreported (deployment : Deployment) (attempt : Attempt) : Bool :=
  match deployment with
  | pgsql _ => decide (attempt.transaction = some .commitLost)
  | mongo | mongoStandalone =>
      match attempt.transaction with
      | some fault => decide (fault = .commitLost)
      | none => attempt.raisingCall.any fun (index, _) => decide (index ≤ 1)

end Deployment

/-- What one attempt of the insert does to the number of tasks, and when it reports an id. -/
structure CreatesOnce (inserts unreported : Bool) (store : Store) (outcome : Outcome Int) :
    Prop where
  counted : outcome.2.taskCount = store.taskCount + if inserts then 1 else 0
  reported : inserts = true → unreported = false → ∃ taskId, 0 < taskId ∧ outcome.1 = .ok taskId

namespace TxEnd

/-- An insert in a transaction, when there is an id left. -/
theorem createsOnce_commit {body : Store → Except DbError (TxEnd Store Int)} {store after : Store}
    {taskId : Int} (commits : body store = .ok (.commit taskId after)) (positive : 0 < taskId)
    (counted : after.taskCount = store.taskCount + 1) (fault : TxFault) (raised : DbError) :
    CreatesOnce (decide (fault ≠ .beforeCommit)) (decide (fault = .commitLost)) store
      (attempt fault raised body store) := by
  cases fault with
  | none => exact ⟨by simp [attempt, commits, counted],
      fun _ _ => ⟨taskId, positive, by simp [attempt, commits]⟩⟩
  | beforeCommit => exact ⟨by simp, by simp⟩
  | commitLost => exact ⟨by simp [attempt, commits, counted], by simp⟩

theorem createsOnce_error {body : Store → Except DbError (TxEnd Store Int)} {store : Store}
    {error : DbError} (fails : body store = .error error) (fault : TxFault) (raised : DbError)
    (unreported : Bool) : CreatesOnce false unreported store (attempt fault raised body store) := by
  obtain ⟨thrown, failed⟩ := attempt_of_error fault raised fails
  exact ⟨by simp [failed], by simp⟩

end TxEnd

namespace MongoBroker

open MongoCall

/-- The insert without a transaction when the call with the given number raises. -/
theorem createsOnce_runUntil (attempt : Attempt) (task : TaskInput) {store : Store}
    (room : store.taskSeq + 1 ≤ maxTaskId) (index : Nat) (progress : Progress) :
    CreatesOnce (reaches (some (index, progress)) 1 0) (decide (index ≤ 1)) store
      ((createTaskNoTransaction attempt task).runUntil (exec attempt.rank)
        (interrupted attempt.rank) attempt.error (some (index, progress)) store) := by
  have bounds : store.taskSeq ≤ store.taskSeq + 1 ∧ store.taskSeq + 1 ≤ maxTaskId := by omega
  have drawn := exec_counters attempt.rank room bounds
  have inserted := exec_insertDrawn attempt.rank bounds attempt.now task
  have counted := Store.taskCount_insertTask _ (newTask attempt.now (store.taskSeq + 1) task)
    (fresh_drawn bounds).1 (fresh_drawn bounds).2
  rw [Store.taskCount_advanceTaskSeq] at counted
  rcases index with _ | _ | index
  · rw [createTaskNoTransaction, CallProgram.perform_bind, CallProgram.runUntil_zero, interrupted]
    · rw [drawn]
      exact ⟨by split <;> simp [reaches], by simp⟩
    all_goals intros; contradiction
  · rw [createTaskNoTransaction, CallProgram.runUntil_perform_of_ok _ _ _ _ _ drawn,
      CallProgram.perform_bind, CallProgram.runUntil_zero, interrupted]
    · rw [inserted]
      refine ⟨?_, by simp⟩
      by_cases effect : progress 0 = true
      · simpa [reaches, effect] using counted
      · simp [reaches, effect, Store.taskCount, Store.advanceTaskSeq]
    all_goals intros; contradiction
  · rw [createTaskNoTransaction, CallProgram.runUntil_perform_of_ok _ _ _ _ _ drawn,
      CallProgram.runUntil_perform_of_ok _ _ _ _ _ inserted]
    exact ⟨by simpa [reaches] using counted, fun _ _ => ⟨_, (fresh_drawn bounds).2.1, rfl⟩⟩

/-- Without an id left, nothing happens, wherever a call raises. -/
theorem runUntil_createTaskNoTransaction_full (attempt : Attempt) (task : TaskInput)
    {store : Store} (full : ¬ store.taskSeq + 1 ≤ maxTaskId) :
    ∃ error, runCalls attempt (createTaskNoTransaction attempt task) store =
      (.error error, store) := by
  have failed := exec_counters_full attempt.rank full
  rw [runCalls, createTaskNoTransaction, CallProgram.perform_bind]
  rcases attempt.raisingCall with _ | ⟨_ | index, progress⟩
  · exact ⟨_, by rw [CallProgram.runUntil_none, CallProgram.run_call, failed]⟩
  · refine ⟨attempt.error, ?_⟩
    rw [CallProgram.runUntil_zero, interrupted]
    · rw [failed, ite_self]
    all_goals intros; contradiction
  · exact ⟨⟨"$inc would overflow"⟩, by simp only [CallProgram.runUntil, failed]⟩

/-- An attempt of the Mongo broker, whichever kind of deployment it has. -/
theorem createOnce_spec (attempt : Attempt) (task : TaskInput) (store : Store) :
    CreatesOnce (Deployment.mongo.inserts task attempt store)
      (Deployment.mongo.insertUnreported attempt) store
      (Deployment.mongo.createOnce task attempt store) := by
  unfold Deployment.inserts Deployment.insertUnreported Deployment.createOnce withTransaction
  rcases run_createTaskNoTransaction attempt task store with
    ⟨full, error, failed⟩ | ⟨bounds, fresh, inRange, inserted⟩
  · simp only [full, decide_false, Bool.false_and]
    cases attempt.transaction with
    | some fault =>
        have fails : sessionBody attempt.rank (createTaskTransaction attempt task) store =
            .error error := by rw [createTaskTransaction_eq, sessionBody_bind, failed]
        exact TxEnd.createsOnce_error fails fault attempt.error _
    | none =>
        obtain ⟨thrown, raised⟩ := runUntil_createTaskNoTransaction_full attempt task full
        dsimp only
        rw [raised]
        exact ⟨by simp, by simp⟩
  · have counted := Store.taskCount_insertTask (store.advanceTaskSeq (store.taskSeq + 1) bounds)
      (newTask attempt.now (store.taskSeq + 1) task) fresh inRange
    rw [Store.taskCount_advanceTaskSeq] at counted
    simp only [bounds.2, decide_true, Bool.true_and]
    cases attempt.transaction with
    | some fault =>
        have commits : sessionBody attempt.rank (createTaskTransaction attempt task) store =
            .ok (.commit (store.taskSeq + 1)
              ((store.advanceTaskSeq (store.taskSeq + 1) bounds).insertTask
                (newTask attempt.now (store.taskSeq + 1) task) fresh inRange)) := by
          rw [createTaskTransaction_eq, sessionBody_bind, inserted]
        exact TxEnd.createsOnce_commit commits inRange.1
          counted fault attempt.error
    | none =>
        dsimp only [runCalls]
        rcases attempt.raisingCall with _ | ⟨index, progress⟩
        · rw [CallProgram.runUntil_none, inserted]
          exact ⟨by simpa [reaches] using counted, fun _ _ => ⟨_, inRange.1, rfl⟩⟩
        · simpa using createsOnce_runUntil attempt task bounds.2 index progress

end MongoBroker

namespace PgBroker

theorem createOnce_spec (timestamptz : Time → String → Option Time) (attempt : Attempt)
    (task : TaskInput) (store : Store) :
    CreatesOnce ((Deployment.pgsql timestamptz).inserts task attempt store)
      ((Deployment.pgsql timestamptz).insertUnreported attempt) store
      ((Deployment.pgsql timestamptz).createOnce task attempt store) := by
  unfold Deployment.inserts Deployment.insertUnreported Deployment.createOnce transaction
  cases refused : jsonbError task with
  | some error =>
      have fails : createTaskBody attempt task store = .error error := by
        simp only [createTaskBody, refused]
      exact TxEnd.createsOnce_error fails _ attempt.error _
  | none =>
  simp only [Option.isNone_none, Bool.true_and]
  by_cases inRange : store.taskSeq + attempt.sequenceGap + 1 ≤ maxTaskId
  · have seqBounds := store.taskSeqBounds
    obtain ⟨after, commits, counted⟩ : ∃ after,
        createTaskBody attempt task store =
          .ok (.commit (store.taskSeq + attempt.sequenceGap + 1) after) ∧
        after.taskCount = store.taskCount + 1 := by
      obtain ⟨bounds, fresh, idInRange, commits⟩ := createTaskBody_of_accepted refused attempt inRange
      refine ⟨_, commits, ?_⟩
      rw [Store.taskCount_insertTask, Store.taskCount_advanceTaskSeq]
    have creates := TxEnd.createsOnce_commit commits (by omega) counted
      (attempt.transaction.getD .beforeCommit) attempt.error
    simp only [inRange, decide_true, Bool.and_true]
    rcases ends : attempt.transaction with _ | _ | _ | _ <;> rw [ends] at creates <;>
      simpa using creates
  · have fails : createTaskBody attempt task store =
        .error ⟨"nextval: reached maximum value of sequence"⟩ := by
      simp only [createTaskBody, refused, inRange, dite_false]
    simp only [inRange, decide_false, Bool.and_false]
    exact TxEnd.createsOnce_error fails _ attempt.error _

end PgBroker

namespace Deployment

theorem createOnce_spec (deployment : Deployment) (task : TaskInput) (attempt : Attempt)
    (store : Store) :
    CreatesOnce (deployment.inserts task attempt store) (deployment.insertUnreported attempt) store
      (deployment.createOnce task attempt store) := by
  cases deployment with
  | pgsql timestamptz => exact PgBroker.createOnce_spec timestamptz attempt task store
  | mongo => exact MongoBroker.createOnce_spec attempt task store
  | mongoStandalone => exact MongoBroker.createOnce_spec attempt task store

/-- A broker whose last attempt raises reports no id. -/
theorem createTask_eq (deployment : Deployment) (attempts : List Attempt) (task : TaskInput)
    (store : Store) :
    (deployment.broker.createTask attempts task store).2 =
        (executeWithRetry attempts (deployment.createOnce task) store).2 ∧
      ∀ taskId after,
        executeWithRetry attempts (deployment.createOnce task) store = (.ok taskId, after) →
          deployment.broker.createTask attempts task store = (.ok taskId, after) := by
  cases deployment with
  | pgsql timestamptz => exact ⟨rfl, fun _ _ returned => returned⟩
  | mongo =>
      exact ⟨MongoBroker.orElse_store 0 _ store, fun _ _ => MongoBroker.orElse_of_ok 0⟩
  | mongoStandalone =>
      exact ⟨MongoBroker.orElse_store 0 _ store, fun _ _ => MongoBroker.orElse_of_ok 0⟩

end Deployment

/-! ## Both loops -/

namespace Cli

section Submission

variable (deployment : Deployment) (options : GlobalOptions) (args : List String)

/-- The task that the master reads from the command's body. -/
def submittedTask (args : List String) : Option TaskInput :=
  match prepareSubmit args with
  | .error _ => none
  | .ok body => (ControlService.parseBody Api.parseTaskCreate (.json body)).toOption

/-- An attempt of the insert and the pass of the outer loop it belongs to, each with the
tables that it finds. -/
abbrev InsertVisit :=
  (Store × Delivery) × (Store × Attempt)

/-- The attempts of the insert that one pass of the outer loop makes. -/
def insertsOfPass (pass : Store × Delivery) : List InsertVisit :=
  match submittedTask args, pass.2 with
  | some task, .processed attempts _ =>
      (RetryLoop.made (deployment.createOnce task) attempts pass.1).map fun visit => (pass, visit)
  | _, _ => []

/-- All attempts of the insert that an invocation makes, in order. -/
def insertsMade (network : Nat → Delivery) (store : Store) : List InsertVisit :=
  (RetryLoop.made (submitOnce deployment.broker options args)
    ((List.range options.retries).map network) store).flatMap (insertsOfPass deployment args)

/-- The attempt creates a task. -/
def createsTask (visit : InsertVisit) : Bool :=
  (submittedTask args).any fun task => deployment.inserts task visit.2.2 visit.2.1

variable {args} in
theorem createsTask_eq {task : TaskInput} (submitted : submittedTask args = some task)
    (visit : InsertVisit) :
    createsTask deployment args visit = deployment.inserts task visit.2.2 visit.2.1 := by
  rw [createsTask, submitted, Option.any_some]

/-- Whether the loop of the CLI ends after a request whose insert was reported. -/
def answerEnds (delivery : Delivery) : Bool :=
  match delivery with
  | .unprocessed _ => false
  | .processed _ none => true
  | .processed _ (some seen) =>
      match concludeSubmit options seen with
      | .exit code => decide (code = 0)
      | .uncaught => true

/-- The attempt creates a task and one of the loops goes on all the same: the database does
not report the insert, or the answer does not reach the CLI as a success. -/
def losesTask (visit : InsertVisit) : Bool :=
  createsTask deployment args visit &&
    (deployment.insertUnreported visit.2.2 || !answerEnds options visit.1.2)

theorem sum_map_indicator {Item : Type} (test : Item → Bool) (items : List Item) :
    (items.map fun item => if test item then 1 else 0).sum = items.countP test := by
  induction items with
  | nil => rfl
  | cons item items ih => rw [List.map_cons, List.sum_cons, ih, List.countP_cons, Nat.add_comm]

variable {args}

/-- The answer to a request whose insert was reported. -/
theorem concludeSubmit_created {taskId : Int} (positive : 0 < taskId) :
    concludeSubmit options (httpResult
      { status := 201, body := .object [("task_id", .integer taskId)] }) = .exit 0 := by
  have shown : (readTaskIdAsString (.object [("task_id", .integer taskId)])).isEmpty = false := by
    have digits : readTaskIdAsString (.object [("task_id", .integer taskId)]) =
        taskId.toNat.repr := by
      simp [readTaskIdAsString, Json.find, Int.repr_eq_if, positive.le]
    rw [digits]
    simp [String.isEmpty_eq_false_iff]
  unfold concludeSubmit httpResult
  simp [shown]

theorem handleTasksSubmit_count (delivery : Delivery) (store : Store) :
    (handleTasksSubmit deployment.broker options args delivery store).2.taskCount =
      store.taskCount +
        (insertsOfPass deployment args (store, delivery)).countP (createsTask deployment args) := by
  unfold handleTasksSubmit insertsOfPass submittedTask
  cases prepared : prepareSubmit args with
  | error message => simp
  | ok body =>
      cases delivery with
      | unprocessed seen =>
          simp only [post]
          split <;> simp_all
      | processed attempts seen =>
          simp only [post, ControlService.handleCreateTask]
          cases parsed : ControlService.parseBody Api.parseTaskCreate (.json body) with
          | error response => simp [Except.toOption]
          | ok task =>
              have stored : (deployment.broker.createTask attempts task store).2.taskCount =
                  store.taskCount + ((RetryLoop.made (deployment.createOnce task) attempts
                    store).map fun visit =>
                      if deployment.inserts task visit.2 visit.1 then 1 else 0).sum := by
                rw [(deployment.createTask_eq attempts task store).1]
                exact RetryLoop.retry_measure (deployment.createOnce task) _ Store.taskCount _
                  (fun attempt before => (deployment.createOnce_spec task attempt before).counted)
                  attempts store
              rw [sum_map_indicator] at stored
              have submitted : submittedTask args = some task := by
                simp [submittedTask, prepared, parsed, Except.toOption]
              have creates : createsTask deployment args ∘
                  (fun visit => ((store, Delivery.processed attempts seen), visit)) =
                    fun visit => deployment.inserts task visit.2 visit.1 :=
                funext fun visit => createsTask_eq deployment submitted _
              simp only [Except.toOption, List.countP_map, creates]
              refine Eq.trans ?_ stored
              rcases deployment.broker.createTask attempts task store with ⟨_ | taskId, after⟩
              · rfl
              · dsimp only
                split <;> rfl

theorem submitOnce_store (delivery : Delivery) (store : Store) :
    (submitOnce deployment.broker options args delivery store).2 =
      (handleTasksSubmit deployment.broker options args delivery store).2 := by
  unfold submitOnce
  split <;> rename_i ended <;> rw [ended]

/-- Every row that an invocation adds is the insert of one of its attempts. -/
theorem main_count (network : Nat → Delivery) (store : Store) :
    (main deployment.broker options args network store).2.taskCount =
      store.taskCount +
        (insertsMade deployment options args network store).countP (createsTask deployment args) := by
  have counted := RetryLoop.retry_measure (submitOnce deployment.broker options args) 1
    Store.taskCount
    (fun pass => (insertsOfPass deployment args pass).countP (createsTask deployment args))
    (fun delivery before => by
      rw [submitOnce_store]
      exact handleTasksSubmit_count deployment options delivery before)
    ((List.range options.retries).map network) store
  rw [insertsMade, List.countP_flatMap, Function.comp_def, ← counted, main]
  split <;> rename_i ended <;> rw [ended]

theorem submitOnce_of_end {delivery : Delivery} {store : Store}
    (ends : (handleTasksSubmit deployment.broker options args delivery store).1 = .exit 0 ∨
      (handleTasksSubmit deployment.broker options args delivery store).1 = .uncaught) :
    ∃ ending, (submitOnce deployment.broker options args delivery store).1 = .ok ending := by
  unfold submitOnce
  rcases handled : handleTasksSubmit deployment.broker options args delivery store with
    ⟨ending, after⟩
  rw [handled] at ends
  rcases ends with success | uncaught
  · obtain rfl : ending = .exit 0 := success
    exact ⟨.exit 0, rfl⟩
  · obtain rfl : ending = .uncaught := uncaught
    exact ⟨.uncaught, rfl⟩

theorem ends_of_answerEnds {attempts : List Attempt} {seen : HttpResult}
    (ends : answerEnds options (.processed attempts (some seen)) = true) :
    concludeSubmit options seen = .exit 0 ∨ concludeSubmit options seen = .uncaught := by
  unfold answerEnds at ends
  cases concluded : concludeSubmit options seen with
  | exit code =>
      simp only [concluded, decide_eq_true_eq] at ends
      exact .inl (by rw [ends])
  | uncaught => exact .inr rfl

/-- A pass whose insert was reported and whose answer counts as a success is the last. -/
theorem submitOnce_returns {pass : Store × Delivery} {visit : InsertVisit}
    (member : visit ∈ insertsOfPass deployment args pass)
    (creates : createsTask deployment args visit = true)
    (kept : losesTask deployment options args visit = false) :
    ∃ ending, (submitOnce deployment.broker options args pass.2 pass.1).1 = .ok ending := by
  rcases pass with ⟨store, delivery⟩
  unfold insertsOfPass submittedTask at member
  cases prepared : prepareSubmit args with
  | error message => simp [prepared] at member
  | ok body =>
      rw [prepared] at member
      cases delivery with
      | unprocessed seen => simp at member
      | processed attempts seen =>
          cases parsed : ControlService.parseBody Api.parseTaskCreate (.json body) with
          | error response => simp [parsed, Except.toOption] at member
          | ok task =>
              have submitted : submittedTask args = some task := by
                simp [submittedTask, prepared, parsed, Except.toOption]
              simp only [parsed, Except.toOption] at member
              obtain ⟨inner, made, rfl⟩ := List.mem_map.mp member
              simp only [losesTask, creates, Bool.true_and, Bool.or_eq_false_iff,
                Bool.not_eq_false'] at kept
              obtain ⟨taskId, positive, returned⟩ :=
                (deployment.createOnce_spec task inner.2 inner.1).reported
                  ((createsTask_eq deployment submitted _).symm.trans creates) kept.1
              have looped := RetryLoop.retry_of_returned (deployment.createOnce task)
                ⟨"Retry loop exhausted unexpectedly"⟩ made (Prod.ext returned rfl)
              have created := (deployment.createTask_eq attempts task store).2 taskId _ looped
              have handled : (handleTasksSubmit deployment.broker options args
                  (.processed attempts seen) store).1 =
                    concludeSubmit options (seen.getD (httpResult
                      { status := 201, body := .object [("task_id", .integer taskId)] })) := by
                simp only [handleTasksSubmit, prepared, post, ControlService.handleCreateTask,
                  parsed, created, not_le.mpr positive, if_false]
              exact submitOnce_of_end deployment options (by
                rw [handled]
                cases seen with
                | none => exact .inl (concludeSubmit_created options positive)
                | some seen => exact ends_of_answerEnds options kept.2)

/-- An insert that is followed by another attempt was lost. -/
theorem pairwise_insertsMade (network : Nat → Delivery) (store : Store) :
    (insertsMade deployment options args network store).Pairwise fun earlier _ =>
      createsTask deployment args earlier = true →
        losesTask deployment options args earlier = true := by
  rw [insertsMade, List.pairwise_flatMap]
  constructor
  · -- Two attempts within one request: the first one raised.
    rintro ⟨before, delivery⟩ _
    unfold insertsOfPass
    split
    · rename_i task attempts seen submitted _
      rw [List.pairwise_map]
      refine (RetryLoop.pairwise_made (deployment.createOnce task) attempts before).imp ?_
      rintro earlier _ ⟨error, raised⟩ creates
      have spec := deployment.createOnce_spec task earlier.2 earlier.1
      cases unreported : deployment.insertUnreported earlier.2 with
      | true => simp [losesTask, creates, unreported]
      | false =>
          rw [createsTask_eq deployment submitted] at creates
          obtain ⟨taskId, _, returned⟩ := spec.reported creates unreported
          rw [raised] at returned
          cases returned
    · exact List.Pairwise.nil
  · -- Attempts of two requests: the first request did not end the outer loop.
    refine (RetryLoop.pairwise_made (submitOnce deployment.broker options args) _ store).imp ?_
    rintro earlier _ ⟨code, raised⟩ visit member _ _ creates
    cases loses : losesTask deployment options args visit with
    | true => rfl
    | false =>
        obtain ⟨ending, returned⟩ :=
          submitOnce_returns deployment options member creates loses
        rw [raised] at returned
        cases returned

/-- At most one element passes a test when no two do. -/
theorem countP_le_one_iff {Item : Type} (test : Item → Bool) (items : List Item) :
    items.countP test ≤ 1 ↔
      items.Pairwise fun earlier later => test earlier = true → test later = false := by
  induction items with
  | nil => simp
  | cons item items ih =>
      rw [List.pairwise_cons, ← ih, List.countP_cons]
      cases passes : test item with
      | false => simp
      | true =>
          have rest : items.countP test = 0 ↔ ∀ other ∈ items, test other = false := by
            simp [List.countP_eq_zero]
          simp only [if_true, true_implies, ← rest]
          omega

end Submission

theorem one_task_per_submission_iff (deployment : Deployment) (options : GlobalOptions)
    (args : List String) (network : Nat → Delivery) (store : Store) :
    (main deployment.broker options args network store).2.taskCount ≤ store.taskCount + 1 ↔
      (insertsMade deployment options args network store).Pairwise fun earlier later =>
        losesTask deployment options args earlier = true →
          createsTask deployment args later = false := by
  rw [main_count, Nat.add_le_add_iff_left, countP_le_one_iff]
  have lost : (insertsMade deployment options args network store).Pairwise _ :=
    pairwise_insertsMade deployment options network store
  constructor
  · intro single
    refine single.imp fun spares loses => spares ?_
    unfold losesTask at loses
    exact (Bool.and_eq_true_iff.mp loses).1
  · intro spares
    exact (lost.and spares).imp fun both creates => both.2 (both.1 creates)

/-- The answer to the first request is lost; the second arrives. -/
def answerLost (deployment : Deployment) (pass : Nat) : Delivery :=
  .processed [deployment.calmAttempt pass]
    (if pass = 0 then some { error := "Request failed: Failed to read connection" } else none)

/-- The commit of the first attempt is applied but reported as failed. -/
def commitUnreported (deployment : Deployment) (_ : Nat) : Delivery :=
  .processed [{ now := 0, transaction := some .commitLost }, deployment.calmAttempt 2] none

theorem one_submission_two_tasks :
    (main Deployment.mongo.broker {} ["--cmd", "true"] (answerLost .mongo) Store.empty).2.taskCount =
        2 ∧
      (main Deployment.mongo.broker {} ["--cmd", "true"] (commitUnreported .mongo)
        Store.empty).2.taskCount = 2 :=
  ⟨rfl, rfl⟩

end Cli

end DistributedComputing
