import DistributedComputing.AgentClient
import DistributedComputing.CallProgram

/-!
# The worker

`WorkerApp` and the POSIX half of `TaskExecutor`, as a program over what they ask of
their surroundings: requests to the master, two clocks, child processes and log files.
-/

namespace DistributedComputing

structure WorkerConfig where
  agentId : String
  os : String := "linux"
  version : String := "dev"
  cpuCores : Int := 1
  ramMb : Int := 0
  slots : Int := 1
  logDir : String := "logs/worker"
  cancelCheckIntervalSec : Int := 1
  uploadLogs : Bool := true
  maxUploadBytes : Nat := 10 * 1024 * 1024

/-- A status of `waitpid` as `WIFEXITED` and `WIFSIGNALED` take it apart. -/
inductive ChildStatus
  | exited (code : Fin 256)
  | signaled (signal : Fin 128)

def ChildStatus.success : ChildStatus :=
  .exited 0

/-- An answer of `waitpid` with `WNOHANG` that does not report the end of the child. -/
inductive WaitResult
  | running
  | interrupted
  | failed

/-- A child process: what `waitpid` answers before it is gone, and its status when it
ends by itself and when it is killed.  A child that never ends has, in every run, as many
answers as the run asks for. -/
structure ChildProcess where
  waits : List WaitResult
  status : ChildStatus
  statusWhenKilled : ChildStatus := .signaled 9

/-- What reading a log file finds: its size or the message of `file_size`, and its
contents if it opens. -/
structure LogFile where
  size : Except String Nat
  data : Option (List UInt8)

/-- An answer to an upload: its status and the text of its body. -/
abbrev UploadAnswer := Nat × String

inductive WorkerCall
  | send (request : Request)
  | uploadTaskLog (taskId stream : String) (data : List UInt8)
  | nowUtcIso8601
  | steadyClock
  | fork (taskId : String) (argv : List String) (env : List (String × String))
      (stdoutPath stderrPath : String)
  | readLog (path : String)

/-- What a call returns.  A request without an answer has failed on the way; a `fork`
without a child has failed.  The steady clock counts nanoseconds. -/
abbrev WorkerCall.Reply : WorkerCall → Type
  | .send _ => Option Response
  | .uploadTaskLog _ _ _ => Option UploadAnswer
  | .nowUtcIso8601 => String
  | .steadyClock => Int
  | .fork _ _ _ _ _ => Option ChildProcess
  | .readLog _ => LogFile

abbrev WorkerProgram (Result : Type) :=
  CallProgram WorkerCall WorkerCall.Reply Empty Result

/-- The program that makes one call. -/
abbrev ask (call : WorkerCall) : WorkerProgram call.Reply :=
  CallProgram.perform call

structure TaskExecutionResult where
  exitCode : Int := -1
  timedOut : Bool := false
  failedToStart : Bool := false
  canceled : Bool := false
  errorMessage : String := ""
  startedAt : String := ""
  finishedAt : String := ""
  stdoutPath : String
  stderrPath : String

namespace TaskExecutor

/-- `operator/` of `std::filesystem::path` for a relative second part. -/
def joinPath (directory file : String) : String :=
  if directory.isEmpty || directory.endsWith "/" then directory ++ file
  else directory ++ "/" ++ file

/-- `BuildArgv`. -/
def buildArgv (task : AgentClient.TaskDispatch) : List String :=
  task.command :: task.args

/-- The variables that the child sets: the members of `env` that are strings. -/
def childEnv (task : AgentClient.TaskDispatch) : List (String × String) :=
  match task.env with
  | .object members => members.filterMap fun (name, value) => value.asString.map (name, ·)
  | _ => []

def exitCode : ChildStatus → Int
  | .exited code => code.val
  | .signaled signal => 128 + signal.val

/-- What follows the loop: the exit code and the time of the end. -/
def finish (result : TaskExecutionResult) (status : ChildStatus) :
    WorkerProgram TaskExecutionResult := do
  let finishedAt ← ask .nowUtcIso8601
  return { result with exitCode := exitCode status, finishedAt := finishedAt }

section Loop

variable (isCanceled : Int → WorkerProgram (Bool × Int)) (doHeartbeat : WorkerProgram Unit)
  (timeoutSec start : Int) (child : ChildProcess) (result : TaskExecutionResult)

/-- Whether the child has had its time; without a timeout the clock is not read. -/
def timedOut : WorkerProgram Bool :=
  if timeoutSec > 0 then do
    let now ← ask .steadyClock
    return decide (now - start ≥ timeoutSec * 10 ^ 9)
  else return false

/-- The loop around `waitpid`.  `isCanceled` takes and returns the time of the last check. -/
def waitLoop : List WaitResult → Int → WorkerProgram TaskExecutionResult
  | [], _ => finish result child.status
  | .interrupted :: waits, lastCancelCheck => waitLoop waits lastCancelCheck
  | .failed :: _, _ =>
      return { result with failedToStart := true, errorMessage := "waitpid failed" }
  | .running :: waits, lastCancelCheck => do
      let (canceled, lastCancelCheck) ← isCanceled lastCancelCheck
      if canceled then
        finish { result with canceled := true } child.statusWhenKilled
      else do
        let late ← timedOut timeoutSec start
        if late then
          finish { result with timedOut := true } child.statusWhenKilled
        else do
          doHeartbeat
          waitLoop waits lastCancelCheck

end Loop

def run (logRoot : String) (task : AgentClient.TaskDispatch)
    (isCanceled : Int → WorkerProgram (Bool × Int)) (doHeartbeat : WorkerProgram Unit)
    (lastCancelCheck : Int) : WorkerProgram TaskExecutionResult := do
  let startedAt ← ask .nowUtcIso8601
  let logDir := joinPath logRoot task.taskId
  let result : TaskExecutionResult :=
    { startedAt := startedAt
      stdoutPath := joinPath logDir "stdout.log"
      stderrPath := joinPath logDir "stderr.log" }
  let forked ← ask (.fork task.taskId (buildArgv task) (childEnv task) result.stdoutPath
    result.stderrPath)
  match (forked : Option ChildProcess) with
  | none => return { result with failedToStart := true, errorMessage := "fork failed" }
  | some child => do
      let start ← ask .steadyClock
      waitLoop isCanceled doHeartbeat (task.timeoutSec.getD 0) start child result child.waits
        lastCancelCheck

end TaskExecutor

namespace WorkerApp

open AgentClient

/-- `translateWorkerState`, over the statuses that the master has for an agent. -/
def translateWorkerState (workerState : AgentStatus) : String :=
  agentStatusToApi workerState

def optionalNonEmpty (value : String) : Option String :=
  if value.isEmpty then none else some value

def readFileWithLimit (path : String) (maxBytes : Nat) :
    WorkerProgram (Except String (List UInt8)) := do
  let file ← ask (.readLog path)
  match (file : LogFile).size with
  | .error message => return .error ("stat failed for " ++ path ++ ": " ++ message)
  | .ok size =>
      if size > maxBytes then return .error ("log too large (" ++ toString size ++ " bytes)")
      else
        match (file : LogFile).data with
        | none => return .error ("open failed for " ++ path)
        | some data => return .ok data

/-- The error that `IsSuccess` reports for an upload, if it is one. -/
def uploadError : Option UploadAnswer → Option String
  | none => some "Request failed"
  | some (status, body) =>
      if 200 ≤ status ∧ status < 300 then none
      else some ("Unexpected status: " ++ toString status ++ " body=" ++ body)

/-- `upload_stream`: the error, or an empty text. -/
def uploadStream (config : WorkerConfig) (taskId stream path : String) : WorkerProgram String := do
  let read ← readFileWithLimit path config.maxUploadBytes
  match read with
  | .error error => return "read " ++ stream ++ " log failed: " ++ error
  | .ok data => do
      let answer ← ask (.uploadTaskLog taskId stream data)
      match uploadError answer with
      | some error => return "upload " ++ stream ++ " log failed: " ++ error
      | none => return ""

/-- Both uploads, or the first error. -/
def uploadStreams (config : WorkerConfig) (taskId : String) (exec : TaskExecutionResult) :
    WorkerProgram String := do
  let stdoutError ← uploadStream config taskId "stdout" exec.stdoutPath
  if stdoutError.isEmpty then uploadStream config taskId "stderr" exec.stderrPath
  else return stdoutError

/-- The error message with what went wrong in the uploads, unless these are switched off. -/
def uploadLogs (config : WorkerConfig) (taskId : String) (exec : TaskExecutionResult)
    (errorMessage : String) : WorkerProgram String :=
  if config.uploadLogs then do
    let error ← uploadStreams config taskId exec
    if error.isEmpty then return errorMessage
    else if errorMessage.isEmpty then return error
    else return errorMessage ++ "; " ++ error
  else return errorMessage

/-- `is_canceled`, with the time of the last check before and after. -/
def isCanceled (config : WorkerConfig) (taskId : String) (lastCancelCheck : Int) :
    WorkerProgram (Bool × Int) := do
  let now ← ask .steadyClock
  if now - lastCancelCheck < config.cancelCheckIntervalSec * 10 ^ 9 then
    return (false, lastCancelCheck)
  else do
    let answer ← ask (.send (getTaskState taskId))
    match receivedState answer with
    | none => return (false, now)
    | some state => return (decide (state = "canceled" ∨ state = "queued"), now)

/-- A heartbeat, whatever comes of it. -/
def heartbeat (config : WorkerConfig) (workerState : AgentStatus) : WorkerProgram Unit := do
  let _ ← ask (.send (sendHeartbeat config.agentId (translateWorkerState workerState)))
  return ()

/-- The state and the error message that follow from an execution. -/
def conclusion (exec : TaskExecutionResult) : TaskState × String :=
  if exec.failedToStart then
    (.failed, if exec.errorMessage.isEmpty then "Failed to start task" else exec.errorMessage)
  else if exec.timedOut then (.failed, "Task timed out")
  else if exec.canceled then (.canceled, "Canceled by master")
  else if exec.exitCode = 0 then (.succeeded, "")
  else (.failed, "")

/-- The constraint on the operating system, when the worker does not meet it. -/
def osMismatch (config : WorkerConfig) (task : AgentClient.TaskDispatch) : Bool :=
  (task.constraints.stringMember "os").any fun os => decide (os ≠ config.os)

/-- A status report, whatever comes of it. -/
def report (taskId : String) (state : TaskState) (exitCode : Option Int)
    (startedAt finishedAt errorMessage : Option String) : WorkerProgram Unit := do
  let _ ← ask (.send (updateTaskStatus taskId (taskStateToApi state) exitCode startedAt finishedAt
    errorMessage))
  return ()

/-- The body of the loop over the tasks.  The source returns nothing; the result here is
the exit code that the worker saw, or that it reports for a task which it cannot run. -/
def handleTask (config : WorkerConfig) (task : AgentClient.TaskDispatch) : WorkerProgram Int :=
  if osMismatch config task then do
    let now ← ask .nowUtcIso8601
    report task.taskId .failed (some 1) none (some now) (some "OS constraint mismatchpp")
    return 1
  else do
    let startedAt ← ask .nowUtcIso8601
    report task.taskId .running none (some startedAt) none none
    let lastCancelCheck ← ask .steadyClock
    let exec ← TaskExecutor.run config.logDir task (isCanceled config task.taskId)
      (heartbeat config .busy) lastCancelCheck
    let (state, errorMessage) := conclusion exec
    let errorMessage ← uploadLogs config task.taskId exec errorMessage
    if exec.canceled then return exec.exitCode
    else do
      report task.taskId state (some exec.exitCode) (optionalNonEmpty startedAt)
        (optionalNonEmpty exec.finishedAt) (optionalNonEmpty errorMessage)
      return exec.exitCode

def handleTasks (config : WorkerConfig) :
    List AgentClient.TaskDispatch → WorkerProgram (List (AgentClient.TaskDispatch × Int))
  | [] => return []
  | task :: tasks => do
      let exitCode ← handleTask config task
      let others ← handleTasks config tasks
      return (task, exitCode) :: others

/-- `TickOnce`, with the tasks that it handled and their exit codes. -/
def tickOnce (config : WorkerConfig) :
    WorkerProgram (List (AgentClient.TaskDispatch × Int)) := do
  heartbeat config .idle
  let answer ← ask (.send (pollTasks config.agentId config.slots))
  match receivedTasks answer with
  | none => return []
  | some tasks => handleTasks config tasks

/-- `Register`. -/
def register (config : WorkerConfig) : WorkerProgram Bool := do
  let answer ← ask (.send (registerAgent
    { agentId := config.agentId
      os := config.os
      version := config.version
      cpuCores := config.cpuCores
      ramMb := config.ramMb
      slots := config.slots }))
  return isSuccess answer

/-- `Run` up to its first sleep; after that it is `TickOnce` again and again. -/
def run (config : WorkerConfig) : WorkerProgram (List (AgentClient.TaskDispatch × Int)) := do
  let registered ← register config
  if registered then tickOnce config
  else return []

end WorkerApp

/-! ## The calls that the worker makes -/

/-- The call reads a clock or a file, or uploads a log. -/
def WorkerCall.Local : WorkerCall → Prop
  | .send _ => False
  | .fork _ _ _ _ _ => False
  | _ => True

section Issues

variable {allowed : WorkerCall → Prop} (locals : ∀ call : WorkerCall, call.Local → allowed call)

open CallProgram

include locals

namespace TaskExecutor

theorem finish_issues (result : TaskExecutionResult) (status : ChildStatus) :
    (finish result status).Issues allowed :=
  .perform (locals _ trivial) fun _ => trivial

theorem timedOut_issues (timeoutSec start : Int) : (timedOut timeoutSec start).Issues allowed := by
  unfold timedOut
  split
  · exact .perform (locals _ trivial) fun _ => trivial
  · trivial

theorem waitLoop_issues {isCanceled : Int → WorkerProgram (Bool × Int)}
    {doHeartbeat : WorkerProgram Unit} (checks : ∀ time, (isCanceled time).Issues allowed)
    (beats : doHeartbeat.Issues allowed) (timeoutSec start : Int) (child : ChildProcess)
    (result : TaskExecutionResult) (waits : List WaitResult) (lastCancelCheck : Int) :
    (waitLoop isCanceled doHeartbeat timeoutSec start child result waits
      lastCancelCheck).Issues allowed := by
  induction waits generalizing lastCancelCheck with
  | nil => exact finish_issues locals result child.status
  | cons wait waits ih =>
      cases wait with
      | failed => trivial
      | interrupted => exact ih lastCancelCheck
      | running =>
          refine .bind (checks lastCancelCheck) fun (canceled, checked) => ?_
          dsimp only
          split
          · exact finish_issues locals _ _
          · refine .bind (timedOut_issues locals timeoutSec start) fun late => ?_
            split
            · exact finish_issues locals _ _
            · exact .bind beats fun _ => ih checked

theorem run_issues {isCanceled : Int → WorkerProgram (Bool × Int)}
    {doHeartbeat : WorkerProgram Unit} (checks : ∀ time, (isCanceled time).Issues allowed)
    (beats : doHeartbeat.Issues allowed) (logRoot : String) {task : AgentClient.TaskDispatch}
    (forks : ∀ argv env stdoutPath stderrPath,
      allowed (.fork task.taskId argv env stdoutPath stderrPath)) (lastCancelCheck : Int) :
    (run logRoot task isCanceled doHeartbeat lastCancelCheck).Issues allowed := by
  refine .perform (locals _ trivial) fun startedAt => .perform (forks _ _ _ _) fun forked => ?_
  cases forked with
  | none => trivial
  | some child =>
      exact .perform (locals _ trivial) fun start =>
        waitLoop_issues locals checks beats _ start child _ child.waits lastCancelCheck

end TaskExecutor

namespace WorkerApp

open AgentClient

theorem readFileWithLimit_issues (path : String) (maxBytes : Nat) :
    (readFileWithLimit path maxBytes).Issues allowed := by
  refine .perform (locals _ trivial) fun file => ?_
  split
  · trivial
  · split
    · trivial
    · split <;> trivial

theorem uploadStream_issues (config : WorkerConfig) (taskId stream path : String) :
    (uploadStream config taskId stream path).Issues allowed := by
  refine .bind (readFileWithLimit_issues locals path config.maxUploadBytes) fun read => ?_
  split
  · trivial
  · refine .perform (locals _ trivial) fun answer => ?_
    split <;> trivial

theorem uploadStreams_issues (config : WorkerConfig) (taskId : String)
    (exec : TaskExecutionResult) : (uploadStreams config taskId exec).Issues allowed := by
  refine .bind (uploadStream_issues locals config taskId "stdout" exec.stdoutPath)
    fun stdoutError => ?_
  split
  · exact uploadStream_issues locals config taskId "stderr" exec.stderrPath
  · trivial

theorem uploadLogs_issues (config : WorkerConfig) (taskId : String) (exec : TaskExecutionResult)
    (errorMessage : String) : (uploadLogs config taskId exec errorMessage).Issues allowed := by
  unfold uploadLogs
  split
  · refine .bind (uploadStreams_issues locals config taskId exec) fun error => ?_
    split
    · trivial
    · split <;> trivial
  · trivial

theorem isCanceled_issues {config : WorkerConfig} {taskId : String}
    (asks : allowed (.send (getTaskState taskId))) (lastCancelCheck : Int) :
    (isCanceled config taskId lastCancelCheck).Issues allowed := by
  refine .perform (locals _ trivial) fun now => ?_
  split
  · trivial
  · refine .perform asks fun answer => ?_
    split <;> trivial

/-- The loop body sends heartbeats, runs its task, reads its state and reports on it. -/
theorem handleTask_issues {config : WorkerConfig} {task : AgentClient.TaskDispatch}
    (forks : ∀ argv env stdoutPath stderrPath,
      allowed (.fork task.taskId argv env stdoutPath stderrPath))
    (beats : ∀ workerState, allowed (.send (sendHeartbeat config.agentId workerState)))
    (asks : allowed (.send (getTaskState task.taskId)))
    (reports : ∀ state exitCode startedAt finishedAt errorMessage, allowed (.send
      (updateTaskStatus task.taskId state exitCode startedAt finishedAt errorMessage))) :
    (handleTask config task).Issues allowed := by
  have reporting : ∀ state exitCode startedAt finishedAt errorMessage,
      (report task.taskId state exitCode startedAt finishedAt errorMessage).Issues allowed :=
    fun _ _ _ _ _ => .perform (reports _ _ _ _ _) fun _ => trivial
  have beating : (heartbeat config .busy).Issues allowed := .perform (beats _) fun _ => trivial
  unfold handleTask
  split
  · exact .perform (locals _ trivial) fun now => .bind (reporting _ _ _ _ _) fun _ => trivial
  · refine .perform (locals _ trivial) fun startedAt => .bind (reporting _ _ _ _ _) fun _ =>
      .perform (locals _ trivial) fun lastCancelCheck => ?_
    refine .bind (TaskExecutor.run_issues locals (isCanceled_issues locals asks) beating _ forks
      _) fun exec => .bind (uploadLogs_issues locals config task.taskId exec _) fun errorMessage => ?_
    split
    · trivial
    · exact .bind (reporting _ _ _ _ _) fun _ => trivial

end WorkerApp

end Issues

end DistributedComputing
