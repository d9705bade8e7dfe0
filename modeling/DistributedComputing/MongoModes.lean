import DistributedComputing.ClaimInterleaving

/-!
# Operations with and without transactions

The Mongo broker holds every one of its five larger operations twice, as the body of a
transaction and as a function that a deployment without transactions falls back to.  When
no call fails and nothing else runs, it makes no difference which of the two is taken,
for one operation and hence for every sequence of them.
-/

namespace DistributedComputing

open MongoBroker MongoCall

/-- The same effect with another form of result. -/
def DbAction.mapResult {First Second : Type} (convert : First → Second)
    (action : DbAction First) : DbAction Second := fun store =>
  ((action store).1.map convert, (action store).2)

/-- Whether the server accepts the first call of a session. -/
inductive TransactionMode
  | transactional
  | unsupported

/-- The same clock readings and order of rows, in the given mode and without failures. -/
def TransactionMode.attempt (mode : TransactionMode) (attempt : Attempt) : Attempt :=
  { attempt with
    transaction := match mode with
      | .transactional => some .none
      | .unsupported => none
    raisingCall := none }

theorem TransactionMode.faultFree (mode : TransactionMode) (attempt : Attempt) :
    FaultFree (mode.attempt attempt) := by
  cases mode with
  | transactional => exact ⟨.inl rfl, rfl⟩
  | unsupported => exact ⟨.inr rfl, rfl⟩

/-- One pass through the lambda of an operation. -/
def Operation.perform (attempt : Attempt) : Operation → DbAction OperationResult
  | createTask task => DbAction.mapResult .created
      (withTransaction attempt (createTaskTransaction attempt task)
        (createTaskNoTransaction attempt task))
  | pollTasksForAgent agentId freeSlots => DbAction.mapResult .polled
      (withTransaction attempt (pollTasksForAgentTransaction attempt agentId freeSlots)
        (pollTasksForAgentNoTransaction attempt agentId freeSlots))
  | updateTaskStatus taskId update => DbAction.mapResult .updated
      (withTransaction attempt (updateTaskStatusTransaction attempt taskId update)
        (updateTaskStatusNoTransaction attempt taskId update))
  | cancelTask taskId => DbAction.mapResult .canceled
      (withTransaction attempt (cancelTaskTransaction attempt taskId)
        (cancelTaskNoTransaction attempt taskId))
  | markOfflineAgentsAndRequeue offlineAfterSec => DbAction.mapResult .requeued
      (withTransaction attempt (markOfflineAgentsAndRequeueTransaction attempt offlineAfterSec)
        (markOfflineAgentsAndRequeueNoTransaction attempt offlineAfterSec))

/-- Without failures every mode runs the program of the operation, which has no session. -/
theorem Operation.perform_faultFree {attempt : Attempt} (faultFree : FaultFree attempt)
    (operation : Operation) (store : Store) :
    operation.perform attempt store =
      (operation.program attempt).run (exec attempt.rank) store := by
  have sameEnd : ∀ {Result : Type} (program : MongoProgram Result)
      (convert : Result → OperationResult),
      ((program.run (exec attempt.rank) store).1.map convert,
          (program.run (exec attempt.rank) store).2) =
        (program >>= fun result => .done (convert result)).run (exec attempt.rank) store := by
    intro Result program convert
    have ended := CallProgram.runUntil_bind_done (exec attempt.rank) (interrupted attempt.rank)
      attempt.error none program convert store
    simp only [CallProgram.runUntil_none] at ended
    exact ended.symm
  cases operation with
  | createTask task =>
      rw [perform, DbAction.mapResult, withTransaction_createTask faultFree]
      exact sameEnd _ _
  | pollTasksForAgent agentId freeSlots =>
      rw [perform, DbAction.mapResult, withTransaction_pollTasksForAgent faultFree]
      exact sameEnd _ _
  | updateTaskStatus taskId update =>
      rw [perform, DbAction.mapResult, withTransaction_updateTaskStatus faultFree]
      exact sameEnd _ _
  | cancelTask taskId =>
      rw [perform, DbAction.mapResult, withTransaction_cancelTask faultFree]
      exact sameEnd _ _
  | markOfflineAgentsAndRequeue offlineAfterSec =>
      rw [perform, DbAction.mapResult, withTransaction_markOfflineAgentsAndRequeue faultFree]
      exact sameEnd _ _

/-- Neither the program nor the order of rows depends on the mode. -/
theorem Operation.perform_mode (mode : TransactionMode) (attempt : Attempt)
    (operation : Operation) (store : Store) :
    operation.perform (mode.attempt attempt) store =
      (operation.program attempt).run (exec attempt.rank) store := by
  rw [perform_faultFree (mode.faultFree attempt)]
  cases operation <;> rfl

/-- Operations one after another, each with its attempt: what every one of them returns,
and the collections that it leaves. -/
def outcomes (mode : Nat → TransactionMode) :
    List (Attempt × Operation) → Store → List (Except DbError OperationResult × Store)
  | [], _ => []
  | (attempt, operation) :: calls, store =>
      let ended := operation.perform ((mode 0).attempt attempt) store
      ended :: outcomes (fun position => mode (position + 1)) calls ended.2

theorem outcomes_mode (first second : Nat → TransactionMode)
    (calls : List (Attempt × Operation)) (store : Store) :
    outcomes first calls store = outcomes second calls store := by
  induction calls generalizing first second store with
  | nil => rfl
  | cons call calls ih =>
      obtain ⟨attempt, operation⟩ := call
      have sameEnd : operation.perform ((first 0).attempt attempt) store =
          operation.perform ((second 0).attempt attempt) store := by
        rw [Operation.perform_mode, Operation.perform_mode]
      simp only [outcomes, sameEnd]
      rw [ih (fun position => first (position + 1)) fun position => second (position + 1)]

/-- The transactional body and the function without transactions return the same and leave
the same collections, and they may be mixed along any sequence of operations. -/
theorem transactions_make_no_difference :
    (∀ (attempt : Attempt) (operation : Operation) (store : Store),
      operation.perform (TransactionMode.transactional.attempt attempt) store =
        operation.perform (TransactionMode.unsupported.attempt attempt) store) ∧
      ∀ (first second : Nat → TransactionMode) (calls : List (Attempt × Operation))
        (store : Store), outcomes first calls store = outcomes second calls store := by
  constructor
  · intro attempt operation store
    rw [Operation.perform_mode, Operation.perform_mode]
  · exact outcomes_mode

end DistributedComputing
