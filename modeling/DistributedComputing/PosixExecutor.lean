import DistributedComputing.CallTraces
import DistributedComputing.WorkerApp

/-!
# The executor call by call

`TaskExecutor::Run` on POSIX with each of its system calls and callbacks, whatever these
answer.  The executor of the worker is this one with a child process that answers.
-/

namespace DistributedComputing

/-- An answer of `waitpid` with `WNOHANG`; `interrupted` is the error `EINTR`. -/
inductive WaitAnswer
  | ended (status : ChildStatus)
  | running
  | interrupted
  | failed

/-- System calls, clocks and the two callbacks, `isCanceled` and `doHeartbeat`. -/
inductive PosixCall
  | nowUtcIso8601
  | fork (taskId : String) (argv : List String) (env : List (String × String))
      (stdoutPath stderrPath : String)
  | steadyClock
  | waitpidNoHang
  | isCanceled
  | kill
  | waitpid
  | doHeartbeat
  | sleepFor (milliseconds : Nat)

/-- A `fork` answers whether there is a child. -/
abbrev PosixCall.Reply : PosixCall → Type
  | .nowUtcIso8601 => String
  | .fork _ _ _ _ _ => Bool
  | .steadyClock => Int
  | .waitpidNoHang => WaitAnswer
  | .isCanceled => Bool
  | .kill => Unit
  | .waitpid => ChildStatus
  | .doHeartbeat => Unit
  | .sleepFor _ => Unit

abbrev PosixProgram (Result : Type) :=
  CallProgram PosixCall PosixCall.Reply Empty Result

/-- The program that makes one call. -/
abbrev invoke (call : PosixCall) : PosixProgram call.Reply :=
  CallProgram.perform call

namespace PosixExecutor

open TaskExecutor CallProgram

/-- The exit code and the time of the end. -/
def finish (result : TaskExecutionResult) (status : ChildStatus) :
    PosixProgram (Option TaskExecutionResult) := do
  let finishedAt ← invoke .nowUtcIso8601
  return some { result with exitCode := exitCode status, finishedAt := finishedAt }

/-- The child is killed and waited for. -/
def killAndFinish (result : TaskExecutionResult) : PosixProgram (Option TaskExecutionResult) := do
  invoke .kill
  let status ← invoke .waitpid
  finish result status

/-- Whether the child has had its time; without a timeout the clock is not read. -/
def timedOut (timeoutSec start : Int) : PosixProgram Bool :=
  if timeoutSec > 0 then do
    let now ← invoke .steadyClock
    return decide (now - start ≥ timeoutSec * 10 ^ 9)
  else return false

/-- At most so many rounds of the loop; without a result it is not over then. -/
def waitLoop (timeoutSec start : Int) (result : TaskExecutionResult) :
    Nat → PosixProgram (Option TaskExecutionResult)
  | 0 => return none
  | rounds + 1 => do
      let done ← invoke .waitpidNoHang
      match (done : WaitAnswer) with
      | .ended status => finish result status
      | .interrupted => waitLoop timeoutSec start result rounds
      | .failed =>
          return some { result with failedToStart := true, errorMessage := "waitpid failed" }
      | .running => do
          let canceled ← invoke .isCanceled
          if canceled then killAndFinish { result with canceled := true }
          else do
            let late ← timedOut timeoutSec start
            if late then killAndFinish { result with timedOut := true }
            else do
              invoke .doHeartbeat
              invoke (.sleepFor 50)
              waitLoop timeoutSec start result rounds

/-- What is known of the result before the process exists. -/
def initialResult (logRoot : String) (task : AgentClient.TaskDispatch) (startedAt : String) :
    TaskExecutionResult where
  startedAt := startedAt
  stdoutPath := joinPath (joinPath logRoot task.taskId) "stdout.log"
  stderrPath := joinPath (joinPath logRoot task.taskId) "stderr.log"

def run (rounds : Nat) (logRoot : String) (task : AgentClient.TaskDispatch) :
    PosixProgram (Option TaskExecutionResult) := do
  let startedAt ← invoke .nowUtcIso8601
  let result := initialResult logRoot task startedAt
  let forked ← invoke (.fork task.taskId (buildArgv task) (childEnv task) result.stdoutPath
    result.stderrPath)
  if forked then do
    let start ← invoke .steadyClock
    waitLoop (task.timeoutSec.getD 0) start result rounds
  else return some { result with failedToStart := true, errorMessage := "fork failed" }

/-- The result when there is no process. -/
def notStarted (result : TaskExecutionResult) : TaskExecutionResult :=
  { result with failedToStart := true, errorMessage := "fork failed" }

/-- The `fork` of a task. -/
def forkCall (logRoot : String) (task : AgentClient.TaskDispatch) : PosixCall :=
  .fork task.taskId (buildArgv task) (childEnv task)
    (initialResult logRoot task "").stdoutPath (initialResult logRoot task "").stderrPath

/-- A run without a process, or with one and rounds of the loop. -/
theorem finishes_run_iff {rounds : Nat} {logRoot : String} {task : AgentClient.TaskDispatch}
    {calls : List (Sigma PosixCall.Reply)} {ended : Option TaskExecutionResult} :
    (run rounds logRoot task).Finishes calls ended ↔
      ∃ startedAt,
        (calls = [⟨.nowUtcIso8601, startedAt⟩, ⟨forkCall logRoot task, false⟩] ∧
          ended = some (notStarted (initialResult logRoot task startedAt))) ∨
        ∃ start rest,
          calls = ⟨.nowUtcIso8601, startedAt⟩ :: ⟨forkCall logRoot task, true⟩ ::
            ⟨.steadyClock, start⟩ :: rest ∧
          (waitLoop (task.timeoutSec.getD 0) start (initialResult logRoot task startedAt)
            rounds).Finishes rest ended := by
  constructor
  · intro finished
    obtain ⟨startedAt, _, rfl, started⟩ := finishes_perform_bind_iff.mp finished
    obtain ⟨forked, _, rfl, continued⟩ := finishes_perform_bind_iff.mp started
    refine ⟨startedAt, ?_⟩
    cases forked with
    | false =>
        obtain ⟨rfl, rfl⟩ := finishes_done_iff.mp continued
        exact .inl ⟨rfl, rfl⟩
    | true =>
        obtain ⟨start, rest, rfl, looped⟩ := finishes_perform_bind_iff.mp continued
        exact .inr ⟨start, rest, rfl, looped⟩
  · rintro ⟨startedAt, ⟨rfl, rfl⟩ | ⟨start, rest, rfl, looped⟩⟩
    · refine finishes_perform_bind_iff.mpr ⟨startedAt, _, rfl, ?_⟩
      exact finishes_perform_bind_iff.mpr ⟨false, _, rfl, .done _⟩
    · refine finishes_perform_bind_iff.mpr ⟨startedAt, _, rfl, ?_⟩
      refine finishes_perform_bind_iff.mpr ⟨true, _, rfl, ?_⟩
      exact finishes_perform_bind_iff.mpr ⟨start, _, rfl, looped⟩

/-! ## The executor of the worker -/

/-- The child, as long as it has not been waited for, what `waitpid` still answers about it,
and the time of the last cancel check. -/
structure Host where
  child : Option ChildProcess := none
  waits : List WaitResult := []
  lastCancelCheck : Int

def answerOf : WaitResult → WaitAnswer
  | .running => .running
  | .interrupted => .interrupted
  | .failed => .failed

/-- Without a child there is nothing to wait for. -/
def Host.waitpidNoHang (host : Host) : WaitAnswer × Host :=
  match host.waits with
  | wait :: waits => (answerOf wait, { host with waits := waits })
  | [] => (host.child.elim .failed fun child => .ended child.status, { host with child := none })

/-- A status that no call wrote is zero. -/
def Host.waitpid (host : Host) : ChildStatus × Host :=
  (host.child.elim .success ChildProcess.statusWhenKilled, { host with child := none })

/-- How the worker's surroundings answer the calls of the executor. -/
def answer (isCanceled : Int → WorkerProgram (Bool × Int)) (doHeartbeat : WorkerProgram Unit) :
    (call : PosixCall) → Host → WorkerProgram (call.Reply × Host)
  | .nowUtcIso8601, host => do
      let now ← ask .nowUtcIso8601
      return (now, host)
  | .fork taskId argv env stdoutPath stderrPath, host => do
      let forked ← ask (.fork taskId argv env stdoutPath stderrPath)
      return ((forked : Option ChildProcess).isSome,
        { host with child := forked, waits := (forked : Option ChildProcess).elim [] (·.waits) })
  | .steadyClock, host => do
      let now ← ask .steadyClock
      return (now, host)
  | .waitpidNoHang, host => return host.waitpidNoHang
  | .isCanceled, host => do
      let (canceled, lastCancelCheck) ← isCanceled host.lastCancelCheck
      return (canceled, { host with lastCancelCheck := lastCancelCheck })
  | .kill, host => return ((), host)
  | .waitpid, host => return host.waitpid
  | .doHeartbeat, host => do
      doHeartbeat
      return ((), host)
  | .sleepFor _, host => return ((), host)

section Refinement

variable (isCanceled : Int → WorkerProgram (Bool × Int)) (doHeartbeat : WorkerProgram Unit)

/-- The heartbeat and the sleep between two rounds. -/
theorem handled_heartbeat {program : PosixProgram (Option TaskExecutionResult)}
    {others : WorkerProgram TaskExecutionResult} {host : Host}
    (rest : program.handled (answer isCanceled doHeartbeat) host =
      (others >>= fun exec => .done (some exec))) :
    (invoke .doHeartbeat >>= fun _ => invoke (.sleepFor 50) >>= fun _ => program).handled
        (answer isCanceled doHeartbeat) host =
      ((doHeartbeat >>= fun _ => others) >>= fun exec => .done (some exec)) := by
  refine (bind_assoc doHeartbeat _ _).trans (Eq.trans ?_ (bind_assoc doHeartbeat _ _).symm)
  congr 1
  funext _
  exact rest

theorem handled_waitLoop (timeoutSec start : Int) (child : ChildProcess)
    (result : TaskExecutionResult) {waits : List WaitResult} {rounds : Nat}
    (enough : waits.length < rounds) (lastCancelCheck : Int) :
    (waitLoop timeoutSec start result rounds).handled (answer isCanceled doHeartbeat)
        { child := some child, waits := waits, lastCancelCheck := lastCancelCheck } =
      (TaskExecutor.waitLoop isCanceled doHeartbeat timeoutSec start child result waits
        lastCancelCheck >>= fun exec => .done (some exec)) := by
  induction waits generalizing rounds lastCancelCheck with
  | nil =>
      obtain ⟨rounds, rfl⟩ := Nat.exists_eq_succ_of_ne_zero (Nat.ne_zero_of_lt enough)
      rfl
  | cons wait waits ih =>
      obtain ⟨rounds, rfl⟩ := Nat.exists_eq_succ_of_ne_zero (Nat.ne_zero_of_lt enough)
      have rest := fun lastCancelCheck => ih (Nat.lt_of_succ_lt_succ enough) lastCancelCheck
      cases wait with
      | failed => rfl
      | interrupted => exact rest lastCancelCheck
      | running =>
          -- the answers of `isCanceled` are those of its program
          refine (bind_assoc (isCanceled lastCancelCheck) _ _).trans
            (Eq.trans ?_ (bind_assoc (isCanceled lastCancelCheck) _ _).symm)
          congr 1
          funext (canceled, checked)
          cases canceled with
          | true => rfl
          | false =>
              have beats := handled_heartbeat isCanceled doHeartbeat (rest checked)
              change CallProgram.handled _ (timedOut timeoutSec start >>= fun late => _) _ =
                (TaskExecutor.timedOut timeoutSec start >>= fun late => _) >>= _
              by_cases limited : timeoutSec > 0
              · rw [timedOut, TaskExecutor.timedOut, if_pos limited, if_pos limited]
                refine congrArg (CallProgram.call WorkerCall.steadyClock) (funext fun now => ?_)
                change CallProgram.handled _ (if decide _ then _ else _) _ =
                  (if decide _ then _ else _) >>= _
                split
                · rfl
                · exact beats
              · rw [timedOut, TaskExecutor.timedOut, if_neg limited, if_neg limited]
                exact beats

/-- Every finished run of the worker's executor is one of these. -/
theorem exists_finishes_of_run {logRoot : String} {task : AgentClient.TaskDispatch}
    {lastCancelCheck : Int} {events : List (Sigma WorkerCall.Reply)} {exec : TaskExecutionResult}
    (finished : (TaskExecutor.run logRoot task isCanceled doHeartbeat lastCancelCheck).Finishes
      events exec) :
    ∃ rounds calls, (run rounds logRoot task).Finishes calls (some exec) := by
  obtain ⟨startedAt, _, rfl, started⟩ := finishes_perform_bind_iff.mp finished
  obtain ⟨forked, _, rfl, continued⟩ := finishes_perform_bind_iff.mp started
  cases forked with
  | none =>
      obtain ⟨rfl, rfl⟩ := finishes_done_iff.mp continued
      exact ⟨0, _, finishes_run_iff.mpr ⟨startedAt, .inl ⟨rfl, rfl⟩⟩⟩
  | some child =>
      obtain ⟨start, rest, rfl, looped⟩ := finishes_perform_bind_iff.mp continued
      have handled := handled_waitLoop isCanceled doHeartbeat (task.timeoutSec.getD 0) start child
        (initialResult logRoot task startedAt) (Nat.lt_succ_self child.waits.length)
        lastCancelCheck
      have ended : ((TaskExecutor.waitLoop isCanceled doHeartbeat (task.timeoutSec.getD 0) start
          child (initialResult logRoot task startedAt) child.waits lastCancelCheck) >>=
            fun exec => .done (some exec)).Finishes rest (some exec) :=
        finishes_bind_iff.mpr ⟨exec, rest, [], (List.append_nil rest).symm, looped, .done _⟩
      rw [← handled] at ended
      obtain ⟨calls, loopFinished⟩ := exists_finishes_of_handled _ ended
      exact ⟨child.waits.length + 1, _,
        finishes_run_iff.mpr ⟨startedAt, .inr ⟨start, calls, rfl, loopFinished⟩⟩⟩

end Refinement

end PosixExecutor

end DistributedComputing
