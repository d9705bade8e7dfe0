import DistributedComputing.WindowsExecutor
import Mathlib.Algebra.BigOperators.Group.List.Basic

/-!
# The timeout on Windows

The wait loop counts its slices down from the timeout in milliseconds, which is a number of 32
bits.  It keeps the timeout as long as the product does not wrap around.
-/

namespace DistributedComputing

namespace WindowsExecutor

open CallProgram

/-- A process that never ends and is never canceled, and the waits for it so far. -/
def stillRunning : (call : WindowsCall) → List UInt32 → Except Empty call.Reply × List UInt32
  | .nowUtcIso8601, waits => (.ok "", waits)
  | .getenv _, waits => (.ok none, waits)
  | .putenvS _ _, waits => (.ok true, waits)
  | .createFile _, waits => (.ok true, waits)
  | .createProcess _, waits => (.ok true, waits)
  | .waitForSingleObject milliseconds, waits => (.ok .timeout, waits ++ [milliseconds])
  | .isCanceled, waits => (.ok false, waits)
  | .terminateProcess, waits => (.ok (), waits)
  | .doHeartbeat, waits => (.ok (), waits)
  | .getExitCodeProcess, waits => (.ok none, waits)

/-- Milliseconds in all. -/
def total (waits : List UInt32) : Nat :=
  (waits.map UInt32.toNat).sum

theorem waitMs_le (remainingMs : UInt32) : waitMs true remainingMs ≤ sliceMs := by
  unfold waitMs
  rw [if_pos rfl]
  split
  · rename_i less
    exact UInt32.le_of_lt less
  · exact UInt32.le_refl _

/-- What is waited is what remains, or less. -/
theorem toNat_waitMs (remainingMs : UInt32) :
    (waitMs true remainingMs).toNat = min 500 remainingMs.toNat := by
  have slice : sliceMs.toNat = 500 := rfl
  unfold waitMs
  rw [if_pos rfl]
  split
  · rename_i less
    rw [UInt32.lt_iff_toNat_lt, slice] at less
    omega
  · rename_i notLess
    rw [UInt32.lt_iff_toNat_lt, slice] at notLess
    omega

/-- Nothing is taken off that does not remain. -/
theorem toNat_remainingMs (remainingMs : UInt32) :
    (remainingMs - waitMs true remainingMs).toNat + (waitMs true remainingMs).toNat =
      remainingMs.toNat := by
  have least : waitMs true remainingMs ≤ remainingMs := by
    rw [UInt32.le_iff_toNat_le, toNat_waitMs]
    omega
  rw [UInt32.toNat_sub_of_le _ _ least]
  rw [UInt32.le_iff_toNat_le] at least
  omega

/-- For a process that goes on, the loop waits for what remains, and then the time is over. -/
theorem waitLoop_stillRunning (result : TaskExecutionResult) {rounds : Nat} {remainingMs : UInt32}
    (enough : remainingMs.toNat < 500 * rounds) (before : List UInt32) :
    ∃ waits, (waitLoop true result rounds remainingMs).run stillRunning before =
        (.ok (some { result with timedOut := true }), before ++ waits) ∧
      total waits = remainingMs.toNat ∧ ∀ wait ∈ waits, wait ≤ sliceMs := by
  induction rounds generalizing remainingMs before with
  | zero => omega
  | succ rounds ih =>
      have wait := toNat_waitMs remainingMs
      have short := waitMs_le remainingMs
      by_cases last : remainingMs ≤ waitMs true remainingMs
      · refine ⟨[waitMs true remainingMs], ?_, ?_, by simpa using short⟩
        · change CallProgram.run stillRunning
            (if remainingMs ≤ waitMs true remainingMs then _ else _) _ = _
          rw [if_pos last]
          rfl
        · rw [UInt32.le_iff_toNat_le] at last
          rw [total, List.map_singleton, List.sum_singleton]
          omega
      · have counted := toNat_remainingMs remainingMs
        have fewer : (remainingMs - waitMs true remainingMs).toNat < 500 * rounds := by
          rw [UInt32.le_iff_toNat_le] at last
          omega
        obtain ⟨waits, isRun, isTotal, slices⟩ :=
          ih fewer (before ++ [waitMs true remainingMs])
        refine ⟨waitMs true remainingMs :: waits, ?_, ?_, ?_⟩
        · change CallProgram.run stillRunning
            (if remainingMs ≤ waitMs true remainingMs then _ else _) _ = _
          rw [if_neg last]
          rw [List.append_assoc] at isRun
          exact isRun
        · rw [total, List.map_cons, List.sum_cons, ← total]
          omega
        · rw [List.forall_mem_cons]
          exact ⟨short, slices⟩

/-- Without a timeout no run of the loop times out, whatever the calls answer. -/
theorem timedOut_waitLoop {result exec : TaskExecutionResult} {rounds : Nat} {remainingMs : UInt32}
    {calls : List (Sigma WindowsCall.Reply)}
    (finished : (waitLoop false result rounds remainingMs).Finishes calls (some exec)) :
    exec.timedOut = result.timedOut := by
  induction rounds generalizing remainingMs calls with
  | zero => cases finished
  | succ rounds ih =>
      obtain ⟨waitCode, _, rfl, afterWait⟩ := finishes_perform_bind_iff.mp finished
      cases waitCode with
      | object =>
          obtain ⟨_, same⟩ := finishes_done_iff.mp afterWait
          cases same
          rfl
      | failed =>
          obtain ⟨_, same⟩ := finishes_done_iff.mp afterWait
          cases same
          rfl
      | timeout =>
          obtain ⟨canceled, _, rfl, afterCheck⟩ := finishes_perform_bind_iff.mp afterWait
          cases canceled with
          | true =>
              obtain ⟨_, _, rfl, returned⟩ := finishes_perform_bind_iff.mp afterCheck
              obtain ⟨_, same⟩ := finishes_done_iff.mp returned
              cases same
              rfl
          | false =>
              obtain ⟨_, _, rfl, looped⟩ := finishes_perform_bind_iff.mp afterCheck
              exact ih looped

/-- The number of seconds after which a task times out, if it does. -/
def timeoutOf (task : AgentClient.TaskDispatch) : Int :=
  task.timeoutSec.getD 0

/-- The loop waits for the whole timeout and no longer, in slices, and only if there is one. -/
structure KeepsTimeout (result : TaskExecutionResult) (timeoutSec : Int) : Prop where
  timesOut : ∃ bound, ∀ rounds ≥ bound, ∃ waits,
    (waitLoop true result rounds (initialRemainingMs timeoutSec)).run stillRunning [] =
        (.ok (some { result with timedOut := true }), waits) ∧
      total waits = timeoutSec * 1000 ∧ ∀ wait ∈ waits, wait ≤ sliceMs
  noUnderflow : ∀ remainingMs, (remainingMs - waitMs true remainingMs).toNat +
    (waitMs true remainingMs).toNat = remainingMs.toNat
  noTimeout : ∀ rounds remainingMs calls exec,
    (waitLoop false result rounds remainingMs).Finishes calls (some exec) →
      exec.timedOut = result.timedOut

theorem toNat_initialRemainingMs {timeoutSec : Int} (positive : 0 < timeoutSec) :
    ((initialRemainingMs timeoutSec).toNat : Int) = timeoutSec * 1000 % 2 ^ 32 := by
  have nonnegative : 0 ≤ timeoutSec * 1000 % 2 ^ 32 := Int.emod_nonneg _ (by decide)
  have small : timeoutSec * 1000 % 2 ^ 32 < 2 ^ 32 := Int.emod_lt_of_pos _ (by decide)
  rw [initialRemainingMs, if_pos positive, UInt32.ofInt, UInt32.toNat_ofNat', Int.natCast_emod,
    Int.toNat_of_nonneg nonnegative]
  exact Int.emod_eq_of_lt nonnegative small

theorem keepsTimeout_iff_total {result : TaskExecutionResult} {timeoutSec : Int} :
    KeepsTimeout result timeoutSec ↔
      ((initialRemainingMs timeoutSec).toNat : Int) = timeoutSec * 1000 := by
  have enough : ∀ {rounds}, 2 ^ 32 ≤ rounds →
      (initialRemainingMs timeoutSec).toNat < 500 * rounds := by
    intro rounds many
    have bound := (initialRemainingMs timeoutSec).toNat_lt
    omega
  constructor
  · intro keeps
    obtain ⟨bound, timesOut⟩ := keeps.timesOut
    obtain ⟨waits, isRun, isTotal, _⟩ := timesOut (max bound (2 ^ 32)) (Nat.le_max_left _ _)
    obtain ⟨others, isRunToo, isTotalToo, _⟩ :=
      waitLoop_stillRunning result (enough (Nat.le_max_right bound (2 ^ 32))) []
    rw [isRun] at isRunToo
    obtain rfl : waits = others := (Prod.mk.inj isRunToo).2
    rw [← isTotal, isTotalToo]
  · intro same
    refine ⟨⟨2 ^ 32, fun rounds many => ?_⟩, toNat_remainingMs,
      fun _ _ _ _ finished => timedOut_waitLoop finished⟩
    obtain ⟨waits, isRun, isTotal, slices⟩ :=
      waitLoop_stillRunning result (enough many) []
    exact ⟨waits, isRun, by rw [isTotal, same], slices⟩

/-- The timeout of a task is kept exactly when it is less than 2^32 milliseconds. -/
theorem timeout_kept_iff {logRoot startedAt : String} {task : AgentClient.TaskDispatch}
    (positive : 1 ≤ timeoutOf task) (isInt : timeoutOf task ≤ 2 ^ 31 - 1) :
    KeepsTimeout (PosixExecutor.initialResult logRoot task startedAt) (timeoutOf task) ↔
      timeoutOf task ≤ 4294967 := by
  rw [keepsTimeout_iff_total, toNat_initialRemainingMs (by omega)]
  omega

def sleepingTask (timeoutSec : Int) : AgentClient.TaskDispatch where
  taskId := "1"
  command := "sleep.exe"
  args := []
  env := .object []
  timeoutSec := some timeoutSec
  constraints := .object []

theorem timeout_kept_of_minute :
    KeepsTimeout (PosixExecutor.initialResult "logs" (sleepingTask 60) "start") 60 :=
  (timeout_kept_iff (show 1 ≤ timeoutOf (sleepingTask 60) by decide)
    (show timeoutOf (sleepingTask 60) ≤ 2 ^ 31 - 1 by decide)).mpr
      (show timeoutOf (sleepingTask 60) ≤ 4294967 by decide)

/-- A task with a timeout of fifty days is killed after 704 milliseconds. -/
theorem timeout_wraps_around :
    ¬ ∀ (logRoot startedAt : String) (task : AgentClient.TaskDispatch), 1 ≤ timeoutOf task →
      timeoutOf task ≤ 2 ^ 31 - 1 →
        KeepsTimeout (PosixExecutor.initialResult logRoot task startedAt) (timeoutOf task) := by
  intro keeps
  have kept := keeps "logs" "start" (sleepingTask 4294968) (by decide) (by decide)
  have wrapped : (initialRemainingMs (timeoutOf (sleepingTask 4294968))).toNat = 704 := by
    decide
  rw [keepsTimeout_iff_total, wrapped] at kept
  exact absurd kept (by decide)

end WindowsExecutor

end DistributedComputing
