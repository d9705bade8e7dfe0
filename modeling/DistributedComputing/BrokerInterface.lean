import Mathlib.Data.List.Sort
import DistributedComputing.BrokerStore
import DistributedComputing.RetryLoop

/-!
# The broker interface and its retry loop

Every operation of a broker is a list of attempts.  An attempt carries what the world
outside the program contributes to it: clock readings, the order in which the database
returns rows with equal sort keys, and the failures of its calls.
-/

namespace DistributedComputing

/-- An exception with its `what()`. -/
structure DbError where
  what : String
  deriving DecidableEq

/-- The rows an interrupted call had reached, by their position in the table.  A call
that touches one row only is complete or without effect, and looks at position zero. -/
abbrev Progress :=
  Nat → Bool

/-- One pass through the lambda of `ExecuteWithRetry`.  `transaction` is `none` where
the deployment rejects transactions; `raisingCall` is the call outside a transaction
that raises, with its progress; `later` is the clock when it is read a second time;
`collation` is the order of texts of a PostgreSQL database; `getTime` is the `std::get_time`
of the C++ library, as the Mongo broker calls it. -/
structure Attempt where
  now : Time
  later : Time := now
  rank : Int → Nat := fun _ => 0
  collation : String → String → Bool := fun first second => decide (first ≤ second)
  getTime : String → Option IsoTime.Tm := IsoTime.readFields
  sequenceGap : Nat := 0
  transaction : Option TxFault := some .none
  raisingCall : Option (Nat × Progress) := none
  error : DbError := ⟨""⟩

theorem exists_of_bind_eq_ok {Error First Second : Type} {action : Except Error First}
    {next : First → Except Error Second} {result : Second}
    (returned : (action >>= next) = .ok result) :
    ∃ first, action = .ok first ∧ next first = .ok result := by
  cases action with
  | error error => cases returned
  | ok first => exact ⟨first, rfl, returned⟩

/-- An effect on the database that returns or raises. -/
abbrev DbAction (Result : Type) :=
  Store → Except DbError Result × Store

/-- `ExecuteWithRetry`, with one entry of the list for each of the `reconnect_attempts`. -/
def executeWithRetry {Result : Type} (attempts : List Attempt)
    (fn : Attempt → DbAction Result) : DbAction Result :=
  RetryLoop.retry ⟨"Retry loop exhausted unexpectedly"⟩ (attempts.map fn)

/-- The methods of `Broker`, each under a schedule of its attempts. -/
structure Broker where
  upsertAgent : List Attempt → AgentInput → DbAction Bool
  updateHeartbeat : List Attempt → AgentHeartbeat → DbAction Bool
  getAgent : List Attempt → String → DbAction (Option AgentRecord)
  listAgents : List Attempt → Option AgentStatus → Int → Int → DbAction (List AgentRecord)
  createTask : List Attempt → TaskInput → DbAction Int
  getTask : List Attempt → Int → DbAction (Option TaskRecord)
  listTasks : List Attempt → Option TaskState → Option String → Int → Int →
    DbAction (List TaskSummary)
  pollTasksForAgent : List Attempt → String → Int → DbAction (Option (List TaskDispatch))
  updateTaskStatus : List Attempt → Int → TaskStatusUpdate → DbAction Bool
  cancelTask : List Attempt → Int → DbAction CancelTaskResult
  markOfflineAgentsAndRequeue : List Attempt → Int → DbAction Int

/-- `ORDER BY created_at`, with ties broken as the database happens to. -/
def OldestFirst (rank : Int → Nat) (first second : TaskRow) : Prop :=
  first.createdAt < second.createdAt ∨
    first.createdAt = second.createdAt ∧ rank first.taskId ≤ rank second.taskId

instance (rank : Int → Nat) : DecidableRel (OldestFirst rank) := fun _ _ =>
  inferInstanceAs (Decidable (_ ∨ _ ∧ _))

/-- The first rows of a query sorted by creation time. -/
def oldest (rank : Int → Nat) (limit : Int) (rows : List TaskRow) : List TaskRow :=
  (rows.insertionSort (OldestFirst rank)).take limit.toNat

/-- `ORDER BY created_at DESC`, with ties broken as the database happens to. -/
def NewestFirst (rank : Int → Nat) (first second : TaskRow) : Prop :=
  second.createdAt < first.createdAt ∨
    first.createdAt = second.createdAt ∧ rank first.taskId ≤ rank second.taskId

instance (rank : Int → Nat) : DecidableRel (NewestFirst rank) := fun _ _ =>
  inferInstanceAs (Decidable (_ ∨ _ ∧ _))

theorem mem_of_mem_oldest {rank : Int → Nat} {limit : Int} {rows : List TaskRow}
    {row : TaskRow} (member : row ∈ oldest rank limit rows) : row ∈ rows :=
  (List.mem_insertionSort (OldestFirst rank)).mp (List.mem_of_mem_take member)

theorem nodup_oldest {rank : Int → Nat} {limit : Int} {rows : List TaskRow}
    (unique : (rows.map TaskRow.taskId).Nodup) :
    ((oldest rank limit rows).map TaskRow.taskId).Nodup := by
  have sorted := (List.perm_insertionSort (OldestFirst rank) rows).map TaskRow.taskId
  have chosen := List.take_sublist limit.toNat (rows.insertionSort (OldestFirst rank))
  exact (sorted.nodup_iff.mpr unique).sublist (chosen.map TaskRow.taskId)

end DistributedComputing
