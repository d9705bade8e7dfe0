import DistributedComputing.PosixExecutor

/-!
# How a task ends

What the executor saw of its child, the result that it makes of it, and the report that
the worker sends for this result.
-/

namespace DistributedComputing

namespace PosixExecutor

open TaskExecutor CallProgram

/-! ## What the executor saw -/

/-- The status that a call collects from the child. -/
def reaped : Sigma PosixCall.Reply → Option ChildStatus
  | ⟨.waitpidNoHang, .ended status⟩ => some status
  | ⟨.waitpid, status⟩ => some status
  | _ => none

def ForkFailed (calls : List (Sigma PosixCall.Reply)) : Prop :=
  ∃ taskId argv env stdoutPath stderrPath,
    ⟨.fork taskId argv env stdoutPath stderrPath, false⟩ ∈ calls

def WaitFailed (calls : List (Sigma PosixCall.Reply)) : Prop :=
  ⟨.waitpidNoHang, .failed⟩ ∈ calls

def Killed (calls : List (Sigma PosixCall.Reply)) : Prop :=
  ⟨.kill, ()⟩ ∈ calls

/-- A cancel check found that the task is canceled. -/
def FoundCanceled (calls : List (Sigma PosixCall.Reply)) : Prop :=
  ⟨.isCanceled, true⟩ ∈ calls

/-- The child ended by itself. -/
def Exited (calls : List (Sigma PosixCall.Reply)) (status : ChildStatus) : Prop :=
  ⟨.waitpidNoHang, .ended status⟩ ∈ calls ∧ ¬ Killed calls

/-- The statuses that were collected. -/
def collected (calls : List (Sigma PosixCall.Reply)) : List ChildStatus :=
  calls.filterMap reaped

/-- The code of the collected status, and that of no status. -/
def collectedCode (calls : List (Sigma PosixCall.Reply)) : Int :=
  (collected calls).head?.elim (-1) exitCode

/-! ## The ways in which a run ends -/

inductive RunEnding
  | notStarted (logRoot : String) (task : AgentClient.TaskDispatch)
  | waitFailed
  | exited (status : ChildStatus)
  | canceled (status : ChildStatus)
  | timedOut (status : ChildStatus)

/-- The calls that decide how a run ends; after the others it goes on. -/
def decisive : Sigma PosixCall.Reply → Bool
  | ⟨.fork _ _ _ _ _, false⟩ => true
  | ⟨.waitpidNoHang, .ended _⟩ => true
  | ⟨.waitpidNoHang, .failed⟩ => true
  | ⟨.isCanceled, true⟩ => true
  | ⟨.kill, _⟩ => true
  | ⟨.waitpid, _⟩ => true
  | _ => false

def RunEnding.calls : RunEnding → List (Sigma PosixCall.Reply)
  | .notStarted logRoot task => [⟨forkCall logRoot task, false⟩]
  | .waitFailed => [⟨.waitpidNoHang, .failed⟩]
  | .exited status => [⟨.waitpidNoHang, .ended status⟩]
  | .canceled status => [⟨.isCanceled, true⟩, ⟨.kill, ()⟩, ⟨.waitpid, status⟩]
  | .timedOut status => [⟨.kill, ()⟩, ⟨.waitpid, status⟩]

/-- The flags `canceled`, `timedOut` and `failedToStart`, and the exit code. -/
def outcome (exec : TaskExecutionResult) : Bool × Bool × Bool × Int :=
  (exec.canceled, exec.timedOut, exec.failedToStart, exec.exitCode)

def RunEnding.outcome : RunEnding → Bool × Bool × Bool × Int
  | .notStarted _ _ => (false, false, true, -1)
  | .waitFailed => (false, false, true, -1)
  | .exited status => (false, false, false, exitCode status)
  | .canceled status => (true, false, false, exitCode status)
  | .timedOut status => (false, true, false, exitCode status)

theorem finishes_finish {result exec : TaskExecutionResult} {status : ChildStatus}
    {calls : List (Sigma PosixCall.Reply)}
    (finished : (finish result status).Finishes calls (some exec)) :
    ∃ finishedAt, calls = [⟨.nowUtcIso8601, finishedAt⟩] ∧
      exec = { result with exitCode := exitCode status, finishedAt := finishedAt } := by
  obtain ⟨finishedAt, _, rfl, ended⟩ := finishes_perform_bind_iff.mp finished
  obtain ⟨rfl, equal⟩ := finishes_done_iff.mp ended
  exact ⟨finishedAt, rfl, Option.some.inj equal⟩

theorem finishes_killAndFinish {result exec : TaskExecutionResult}
    {calls : List (Sigma PosixCall.Reply)}
    (finished : (killAndFinish result).Finishes calls (some exec)) :
    ∃ status finishedAt,
      calls = [⟨.kill, ()⟩, ⟨.waitpid, status⟩, ⟨.nowUtcIso8601, finishedAt⟩] ∧
      exec = { result with exitCode := exitCode status, finishedAt := finishedAt } := by
  obtain ⟨_, _, rfl, killed⟩ := finishes_perform_bind_iff.mp finished
  obtain ⟨status, _, rfl, waited⟩ := finishes_perform_bind_iff.mp killed
  obtain ⟨finishedAt, rfl, equal⟩ := finishes_finish waited
  exact ⟨status, finishedAt, rfl, equal⟩

/-- Reading the clock decides nothing by itself. -/
theorem filter_timedOut {timeoutSec start : Int} {late : Bool}
    {calls : List (Sigma PosixCall.Reply)}
    (finished : (timedOut timeoutSec start).Finishes calls late) :
    calls.filter decisive = [] := by
  unfold timedOut at finished
  split at finished
  · obtain ⟨now, _, rfl, compared⟩ := finishes_perform_bind_iff.mp finished
    obtain ⟨rfl, _⟩ := finishes_done_iff.mp compared
    rfl
  · obtain ⟨rfl, _⟩ := finishes_done_iff.mp finished
    rfl

/-- Each round ends the run in one of the ways, or decides nothing. -/
theorem waitLoop_ending {timeoutSec start : Int} {result : TaskExecutionResult}
    (fresh : outcome result = (false, false, false, -1)) {rounds : Nat}
    {calls : List (Sigma PosixCall.Reply)} {exec : TaskExecutionResult}
    (finished : (waitLoop timeoutSec start result rounds).Finishes calls (some exec)) :
    ∃ ending : RunEnding, calls.filter decisive = ending.calls ∧ outcome exec = ending.outcome := by
  simp only [outcome, Prod.mk.injEq] at fresh
  obtain ⟨notCanceled, notLate, started, noCode⟩ := fresh
  induction rounds generalizing calls with
  | zero => cases finished
  | succ rounds ih =>
      obtain ⟨done, _, rfl, answered⟩ := finishes_perform_bind_iff.mp finished
      cases done with
      | ended status =>
          obtain ⟨finishedAt, rfl, rfl⟩ := finishes_finish answered
          refine ⟨.exited status, rfl, ?_⟩
          simp [outcome, RunEnding.outcome, notCanceled, notLate, started]
      | interrupted =>
          obtain ⟨ending, decided, described⟩ := ih answered
          exact ⟨ending, decided, described⟩
      | failed =>
          obtain ⟨rfl, equal⟩ := finishes_done_iff.mp answered
          cases equal
          refine ⟨.waitFailed, rfl, ?_⟩
          simp [outcome, RunEnding.outcome, notCanceled, notLate, noCode]
      | running =>
          obtain ⟨canceled, _, rfl, checked⟩ := finishes_perform_bind_iff.mp answered
          cases canceled with
          | true =>
              obtain ⟨status, finishedAt, rfl, rfl⟩ := finishes_killAndFinish checked
              exact ⟨.canceled status, rfl, by simp [outcome, RunEnding.outcome, notLate, started]⟩
          | false =>
              obtain ⟨late, clock, rest, rfl, compared, continued⟩ := finishes_bind_iff.mp checked
              have skips : ∀ others, (⟨.waitpidNoHang, .running⟩ :: ⟨.isCanceled, false⟩ ::
                  (clock ++ others)).filter decisive = others.filter decisive := by
                intro others
                change (clock ++ others).filter decisive = others.filter decisive
                rw [List.filter_append, filter_timedOut compared, List.nil_append]
              cases late with
              | true =>
                  obtain ⟨status, finishedAt, rfl, rfl⟩ := finishes_killAndFinish continued
                  refine ⟨.timedOut status, (skips _).trans rfl, ?_⟩
                  simp [outcome, RunEnding.outcome, notCanceled, started]
              | false =>
                  obtain ⟨_, _, rfl, beaten⟩ := finishes_perform_bind_iff.mp continued
                  obtain ⟨_, others, rfl, slept⟩ := finishes_perform_bind_iff.mp beaten
                  obtain ⟨ending, decided, described⟩ := ih slept
                  exact ⟨ending, (skips _).trans decided, described⟩

theorem run_ending {rounds : Nat} {logRoot : String} {task : AgentClient.TaskDispatch}
    {calls : List (Sigma PosixCall.Reply)} {exec : TaskExecutionResult}
    (finished : (run rounds logRoot task).Finishes calls (some exec)) :
    ∃ ending : RunEnding, calls.filter decisive = ending.calls ∧ outcome exec = ending.outcome := by
  obtain ⟨startedAt, ⟨rfl, equal⟩ | ⟨start, rest, rfl, looped⟩⟩ := finishes_run_iff.mp finished
  · cases equal
    exact ⟨.notStarted logRoot task, rfl, rfl⟩
  · obtain ⟨ending, decided, described⟩ := waitLoop_ending rfl looped
    exact ⟨ending, decided, described⟩

/-! ## What a finished run tells about its calls -/

theorem collected_filter (calls : List (Sigma PosixCall.Reply)) :
    collected (calls.filter decisive) = collected calls := by
  rw [collected, List.filterMap_filter]
  apply List.filterMap_congr
  rintro ⟨call, reply⟩ _
  cases call with
  | waitpidNoHang => cases reply <;> rfl
  | fork taskId argv env stdoutPath stderrPath => exact ite_self none
  | isCanceled => exact ite_self none
  | _ => rfl

theorem mem_of_decisive {calls : List (Sigma PosixCall.Reply)} {call : Sigma PosixCall.Reply}
    (decides : decisive call = true) : call ∈ calls.filter decisive ↔ call ∈ calls := by
  rw [List.mem_filter]
  exact and_iff_left decides

/-- What the calls of a run say about its ending. -/
structure RunEnding.Seen (ending : RunEnding) (calls : List (Sigma PosixCall.Reply)) : Prop where
  collected : collected calls = PosixExecutor.collected ending.calls
  forkFailed : ForkFailed calls ↔ ForkFailed ending.calls
  waitFailed : WaitFailed calls ↔ WaitFailed ending.calls
  foundCanceled : FoundCanceled calls ↔ FoundCanceled ending.calls
  exited : ∀ status, Exited calls status ↔ Exited ending.calls status

theorem RunEnding.seen {ending : RunEnding} {calls : List (Sigma PosixCall.Reply)}
    (decided : calls.filter decisive = ending.calls) : ending.Seen calls where
  collected := by rw [← decided, collected_filter]
  forkFailed := by
    rw [← decided]
    have same : ∀ taskId argv env stdoutPath stderrPath,
        ⟨.fork taskId argv env stdoutPath stderrPath, false⟩ ∈ calls.filter decisive ↔
          ⟨.fork taskId argv env stdoutPath stderrPath, false⟩ ∈ calls :=
      fun _ _ _ _ _ => mem_of_decisive rfl
    simp only [ForkFailed, same]
  waitFailed := by
    rw [← decided]
    exact (mem_of_decisive rfl).symm
  foundCanceled := by
    rw [← decided]
    exact (mem_of_decisive rfl).symm
  exited status := by
    rw [← decided]
    exact (and_congr (mem_of_decisive rfl) (not_congr (mem_of_decisive rfl))).symm

/-- The status that a run collects. -/
def RunEnding.status : RunEnding → Option ChildStatus
  | .notStarted _ _ => none
  | .waitFailed => none
  | .exited status => some status
  | .canceled status => some status
  | .timedOut status => some status

namespace RunEnding

variable (ending : RunEnding)

theorem collected_calls : PosixExecutor.collected ending.calls = ending.status.toList := by
  cases ending <;> rfl

theorem exists_status (forked : ¬ ForkFailed ending.calls) (waited : ¬ WaitFailed ending.calls) :
    ∃ status, ending.status = some status := by
  cases ending with
  | notStarted logRoot task =>
      exact (forked ⟨_, _, _, _, _, List.mem_singleton.mpr rfl⟩).elim
  | waitFailed => exact (waited (List.mem_singleton.mpr rfl)).elim
  | exited status => exact ⟨status, rfl⟩
  | canceled status => exact ⟨status, rfl⟩
  | timedOut status => exact ⟨status, rfl⟩

theorem foundCanceled_calls :
    FoundCanceled ending.calls ↔ ∃ status, ending = .canceled status := by
  cases ending <;> simp [FoundCanceled, calls, forkCall]

theorem exited_calls (status : ChildStatus) :
    Exited ending.calls status ↔ ending = .exited status := by
  cases ending <;> simp [Exited, Killed, calls, forkCall, eq_comm]

end RunEnding

/-- The flags and the exit code name the way in which the run ended. -/
theorem canceled_iff {ending : RunEnding} {exec : TaskExecutionResult}
    (described : outcome exec = ending.outcome) :
    exec.canceled = true ↔ ∃ status, ending = .canceled status := by
  have flag : exec.canceled = ending.outcome.1 := congrArg Prod.fst described
  rw [flag]
  cases ending <;> simp [RunEnding.outcome]

theorem code_eq {ending : RunEnding} {exec : TaskExecutionResult}
    (described : outcome exec = ending.outcome) :
    exec.exitCode = ending.status.elim (-1) exitCode := by
  have code : exec.exitCode = ending.outcome.2.2.2 := congrArg (fun parts => parts.2.2.2) described
  rw [code]
  cases ending <;> rfl

theorem exitCode_eq_zero_iff {status : ChildStatus} :
    exitCode status = 0 ↔ status = .exited 0 := by
  cases status with
  | exited code => simp [exitCode]
  | signaled signal => simp [exitCode]; omega

end PosixExecutor

/-! ## What the worker reports -/

namespace WorkerApp

open AgentClient CallProgram

/-- The loop over the tasks after `TaskExecutor::Run`. -/
def concludeTask (config : WorkerConfig) (task : AgentClient.TaskDispatch) (startedAt : String)
    (exec : TaskExecutionResult) : WorkerProgram Int := do
  let (state, errorMessage) := conclusion exec
  let errorMessage ← uploadLogs config task.taskId exec errorMessage
  if exec.canceled then return exec.exitCode
  else do
    report task.taskId state (some exec.exitCode) (optionalNonEmpty startedAt)
      (optionalNonEmpty exec.finishedAt) (optionalNonEmpty errorMessage)
    return exec.exitCode

theorem conclusion_ne_running (exec : TaskExecutionResult) : (conclusion exec).1 ≠ .running := by
  unfold conclusion
  split
  · simp
  · split
    · simp
    · split
      · simp
      · split <;> simp

/-- After the execution the worker reads and uploads logs, and reports how the task ended. -/
theorem concludeTask_issues {allowed : WorkerCall → Prop}
    (locals : ∀ call : WorkerCall, call.Local → allowed call) (config : WorkerConfig)
    (task : AgentClient.TaskDispatch) (startedAt : String) (exec : TaskExecutionResult)
    (reports : ∀ state, state ≠ .running → ∀ exitCode startedAt finishedAt errorMessage,
      allowed (.send (updateTaskStatus task.taskId (taskStateToApi state) exitCode startedAt
        finishedAt errorMessage))) :
    (concludeTask config task startedAt exec).Issues allowed := by
  have ended := reports _ (conclusion_ne_running exec)
  unfold concludeTask
  generalize conclusion exec = concluded at ended ⊢
  refine .bind (uploadLogs_issues locals config task.taskId exec _) fun errorMessage => ?_
  split
  · trivial
  · exact .bind (.perform (ended _ _ _ _) fun _ => trivial) fun _ => trivial

theorem handleTask_eq {config : WorkerConfig} {task : AgentClient.TaskDispatch}
    (handed : osMismatch config task = false) :
    handleTask config task = (do
      let startedAt ← ask .nowUtcIso8601
      report task.taskId .running none (some startedAt) none none
      let lastCancelCheck ← ask .steadyClock
      let exec ← TaskExecutor.run config.logDir task (isCanceled config task.taskId)
        (heartbeat config .busy) lastCancelCheck
      concludeTask config task startedAt exec) := by
  rw [handleTask, handed]
  rfl

/-- The state and the exit code of a status report. -/
def reported : Sigma WorkerCall.Reply → Option (String × Option Int)
  | ⟨.send (.updateTaskStatus _ (.json body)), _⟩ =>
      (body.stringMember "state").map fun state => (state, body.integerMember "exit_code")
  | _ => none

theorem reported_updateTaskStatus (taskId state : String) (exitCode : Option Int)
    (startedAt finishedAt errorMessage : Option String)
    (answer : Option Response) :
    reported ⟨.send (updateTaskStatus taskId state exitCode startedAt finishedAt errorMessage),
      answer⟩ = some (state, exitCode) := by
  cases exitCode <;> cases startedAt <;> cases finishedAt <;> cases errorMessage <;> rfl

theorem reports_uploadLogs {config : WorkerConfig} {taskId errorMessage result : String}
    {exec : TaskExecutionResult} {events : List (Sigma WorkerCall.Reply)}
    (finished : (uploadLogs config taskId exec errorMessage).Finishes events result) :
    events.filterMap reported = [] := by
  have issues : (uploadLogs config taskId exec errorMessage).Issues WorkerCall.Local :=
    uploadLogs_issues (fun _ isLocal => isLocal) config taskId exec errorMessage
  have locals := issues.allowed_of_finishes finished
  rw [List.filterMap_eq_nil_iff]
  rintro ⟨call, reply⟩ member
  have isLocal := locals _ member
  cases call with
  | send request => exact isLocal.elim
  | _ => rfl

theorem reports_report {taskId : String} {state : TaskState} {exitCode : Option Int}
    {startedAt finishedAt errorMessage : Option String} {events : List (Sigma WorkerCall.Reply)}
    {result : Unit} (finished : (report taskId state exitCode startedAt finishedAt
      errorMessage).Finishes events result) :
    events.filterMap reported = [(taskStateToApi state, exitCode)] := by
  obtain ⟨answer, _, rfl, done⟩ := finishes_perform_bind_iff.mp finished
  obtain ⟨rfl, _⟩ := finishes_done_iff.mp done
  rw [List.filterMap_cons, reported_updateTaskStatus]
  rfl

theorem reports_concludeTask {config : WorkerConfig} {task : AgentClient.TaskDispatch}
    {startedAt : String} {exec : TaskExecutionResult} {events : List (Sigma WorkerCall.Reply)}
    {code : Int} (finished : (concludeTask config task startedAt exec).Finishes events code) :
    events.filterMap reported =
      if exec.canceled then []
      else [(taskStateToApi (conclusion exec).1, some exec.exitCode)] := by
  unfold concludeTask at finished
  generalize conclusion exec = ended at finished ⊢
  obtain ⟨errorMessage, uploads, rest, rfl, uploaded, concluded⟩ := finishes_bind_iff.mp finished
  rw [List.filterMap_append, reports_uploadLogs uploaded, List.nil_append]
  cases canceled : exec.canceled with
  | true =>
      rw [canceled] at concluded
      obtain ⟨rfl, _⟩ := finishes_done_iff.mp concluded
      rfl
  | false =>
      rw [canceled] at concluded
      obtain ⟨_, sent, others, rfl, reportFinished, ended⟩ := finishes_bind_iff.mp concluded
      obtain ⟨rfl, _⟩ := finishes_done_iff.mp ended
      rw [List.append_nil]
      exact reports_report reportFinished

/-- A finished run of the loop body contains one of the executor and one of what follows. -/
theorem exists_run_of_handleTask {config : WorkerConfig} {task : AgentClient.TaskDispatch}
    (handed : osMismatch config task = false) {events : List (Sigma WorkerCall.Reply)}
    {code : Int} (finished : (handleTask config task).Finishes events code) :
    ∃ rounds calls exec startedAt before later, events = before ++ later ∧
      (PosixExecutor.run rounds config.logDir task).Finishes calls (some exec) ∧
      (concludeTask config task startedAt exec).Finishes later code := by
  rw [handleTask_eq handed] at finished
  obtain ⟨startedAt, _, rfl, started⟩ := finishes_perform_bind_iff.mp finished
  obtain ⟨_, sent, _, rfl, _, announced⟩ := finishes_bind_iff.mp started
  obtain ⟨lastCancelCheck, _, rfl, timed⟩ := finishes_perform_bind_iff.mp announced
  obtain ⟨exec, during, later, rfl, ran, concluded⟩ := finishes_bind_iff.mp timed
  obtain ⟨rounds, calls, callByCall⟩ := PosixExecutor.exists_finishes_of_run _ _ ran
  exact ⟨rounds, calls, exec, startedAt, ⟨.nowUtcIso8601, startedAt⟩ :: sent ++
    ⟨.steadyClock, lastCancelCheck⟩ :: during, later, by simp, callByCall, concluded⟩

end WorkerApp

/-! ## The outcome and its report -/

open PosixExecutor WorkerApp

theorem conclusion_of_exited {status : ChildStatus} {exec : TaskExecutionResult}
    (described : outcome exec = (RunEnding.exited status).outcome) :
    (conclusion exec).1 = if TaskExecutor.exitCode status = 0 then .succeeded else .failed := by
  simp only [outcome, RunEnding.outcome, Prod.mk.injEq] at described
  obtain ⟨notCanceled, notLate, started, code⟩ := described
  rw [conclusion, started, notLate, notCanceled, code]
  simp only [Bool.false_eq_true, if_false]
  split <;> rfl

/-- The state that the worker concludes, where the run was not canceled. -/
theorem conclusion_failed {ending : RunEnding} {exec : TaskExecutionResult}
    (described : outcome exec = ending.outcome) (kept : exec.canceled = false)
    (other : ending ≠ .exited (.exited 0)) : (conclusion exec).1 = .failed := by
  cases ending with
  | exited status =>
      have nonzero : TaskExecutor.exitCode status ≠ 0 := by
        intro zero
        rw [exitCode_eq_zero_iff.mp zero] at other
        exact other rfl
      rw [conclusion_of_exited described, if_neg nonzero]
  | canceled status =>
      rw [(canceled_iff described).mpr ⟨status, rfl⟩] at kept
      cases kept
  | notStarted logRoot task =>
      simp only [outcome, RunEnding.outcome, Prod.mk.injEq] at described
      rw [conclusion, described.2.2.1, if_pos rfl]
  | waitFailed =>
      simp only [outcome, RunEnding.outcome, Prod.mk.injEq] at described
      rw [conclusion, described.2.2.1, if_pos rfl]
  | timedOut status =>
      simp only [outcome, RunEnding.outcome, Prod.mk.injEq] at described
      rw [conclusion, described.2.2.1, described.2.1]
      rfl

/-- What the flags and the final reports say about the calls of the executor. -/
structure OutcomeIsReported (calls : List (Sigma PosixCall.Reply)) (exec : TaskExecutionResult)
    (reports : List (String × Option Int)) : Prop where
  exclusive : ¬ (exec.canceled = true ∧ exec.timedOut = true) ∧
    ¬ (exec.canceled = true ∧ exec.failedToStart = true) ∧
    ¬ (exec.timedOut = true ∧ exec.failedToStart = true)
  reapedOnce : ¬ ForkFailed calls → ¬ WaitFailed calls → ∃ status, collected calls = [status]
  canceled : exec.canceled = true ↔ FoundCanceled calls
  succeeded : (∃ exitCode, ("succeeded", exitCode) ∈ reports) ↔ Exited calls (.exited 0)
  silent : reports = [] ↔ exec.canceled = true
  failed : exec.canceled = false → ¬ Exited calls (.exited 0) →
    reports = [("failed", some (collectedCode calls))]

def quietWorker : WorkerConfig where
  agentId := "agent-1"
  uploadLogs := false

def trueTask : AgentClient.TaskDispatch where
  taskId := "1"
  command := "true"
  args := []
  env := .object []
  timeoutSec := none
  constraints := .object []

/-- The process runs for one round and ends with code zero. -/
def exitingCalls : List (Sigma PosixCall.Reply) :=
  [⟨.nowUtcIso8601, "start"⟩, ⟨forkCall quietWorker.logDir trueTask, true⟩, ⟨.steadyClock, 0⟩,
    ⟨.waitpidNoHang, .running⟩, ⟨.isCanceled, false⟩, ⟨.doHeartbeat, ()⟩, ⟨.sleepFor 50, ()⟩,
    ⟨.waitpidNoHang, .ended .success⟩, ⟨.nowUtcIso8601, "end"⟩]

def exitedResult : TaskExecutionResult :=
  { initialResult quietWorker.logDir trueTask "start" with exitCode := 0, finishedAt := "end" }

theorem finishes_exitingCalls :
    (PosixExecutor.run 2 quietWorker.logDir trueTask).Finishes exitingCalls
      (some exitedResult) := by
  refine finishes_run_iff.mpr ⟨"start", .inr ⟨0, _, rfl, ?_⟩⟩
  repeat first | exact .done _ | apply CallProgram.Finishes.call

/-- Without uploads only the report is left to do. -/
theorem finishes_concludeTask {config : WorkerConfig} (quiet : config.uploadLogs = false)
    (task : AgentClient.TaskDispatch) (startedAt : String) {exec : TaskExecutionResult}
    (kept : exec.canceled = false) (answer : Option Response) :
    (concludeTask config task startedAt exec).Finishes
      [⟨.send (AgentClient.updateTaskStatus task.taskId (taskStateToApi (conclusion exec).1)
        (some exec.exitCode) (optionalNonEmpty startedAt) (optionalNonEmpty exec.finishedAt)
        (optionalNonEmpty (conclusion exec).2)), answer⟩] exec.exitCode := by
  unfold concludeTask
  generalize conclusion exec = ended
  refine CallProgram.finishes_bind_iff.mpr ⟨ended.2, [], _, rfl, ?_, ?_⟩
  · rw [uploadLogs, quiet]
    exact .done ended.2
  · rw [kept]
    refine CallProgram.finishes_bind_iff.mpr ⟨(), [_], [], rfl, ?_, .done _⟩
    exact CallProgram.finishes_perform_bind_iff.mpr ⟨answer, [], rfl, .done _⟩

end DistributedComputing
