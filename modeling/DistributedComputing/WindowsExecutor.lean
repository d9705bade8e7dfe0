import DistributedComputing.CommandLines
import DistributedComputing.PosixExecutor

/-!
# The executor on Windows

`TaskExecutor::Run` on Windows call by call, whatever the calls answer.  The variables of the task
are set in the environment of the worker itself, and a loop waits for the process in slices.
-/

namespace DistributedComputing

/-- An answer of `WaitForSingleObject`. -/
inductive WaitCode
  | object
  | timeout
  | failed

/-- Library and system calls and the two callbacks. -/
inductive WindowsCall
  | nowUtcIso8601
  | getenv (name : Bytes)
  | putenvS (name value : Bytes)
  | createFile (path : String)
  | createProcess (cmdline : Bytes)
  | waitForSingleObject (milliseconds : UInt32)
  | isCanceled
  | terminateProcess
  | doHeartbeat
  | getExitCodeProcess

/-- What sets or creates something answers whether it has done so. -/
abbrev WindowsCall.Reply : WindowsCall → Type
  | .nowUtcIso8601 => String
  | .getenv _ => Option Bytes
  | .putenvS _ _ => Bool
  | .createFile _ => Bool
  | .createProcess _ => Bool
  | .waitForSingleObject _ => WaitCode
  | .isCanceled => Bool
  | .terminateProcess => Unit
  | .doHeartbeat => Unit
  | .getExitCodeProcess => Option UInt32

abbrev WindowsProgram (Result : Type) :=
  CallProgram WindowsCall WindowsCall.Reply Empty Result

/-- The program that makes one call. -/
abbrev windows (call : WindowsCall) : WindowsProgram call.Reply :=
  CallProgram.perform call

namespace WindowsExecutor

open CommandLine

/-! ## The command line -/

/-- Whether an argument is put into quotes. -/
def needsQuotes (arg : Bytes) : Bool :=
  arg.any fun value => (ascii " \t\"").contains value

def quoteArg (arg : Bytes) : Bytes :=
  if needsQuotes arg then
    byte '"' :: (arg.flatMap fun c => if c = byte '"' then [byte '\\', c] else [c]) ++ [byte '"']
  else arg

def cmdline (command : Bytes) (args : List Bytes) : Bytes :=
  args.foldl (fun line arg => line ++ [byte ' '] ++ quoteArg arg) (quoteArg command)

def utf8 (text : String) : Bytes :=
  text.toByteArray.data.toList

/-! ## The environment -/

/-- The variables that are set, each with what it was before. -/
def setEnv : List (Bytes × Bytes) → WindowsProgram (List (Bytes × Option Bytes))
  | [] => return []
  | (key, value) :: entries => do
      let previous ← windows (.getenv (cString key))
      let _ ← windows (.putenvS (cString key) (cString value))
      let prevEnv ← setEnv entries
      return (key, previous) :: prevEnv

def restoreEnv : List (Bytes × Option Bytes) → WindowsProgram Unit
  | [] => return ()
  | (key, previous) :: prevEnv => do
      let _ ← windows (.putenvS (cString key) (previous.getD []))
      restoreEnv prevEnv

/-! ## The wait loop -/

def sliceMs : UInt32 :=
  500

def waitMs (hasTimeout : Bool) (remainingMs : UInt32) : UInt32 :=
  if hasTimeout then (if remainingMs < sliceMs then remainingMs else sliceMs) else sliceMs

/-- The product is an `int`, and `INFINITE` is the largest number. -/
def initialRemainingMs (timeoutSec : Int) : UInt32 :=
  if timeoutSec > 0 then UInt32.ofInt (timeoutSec * 1000) else 0xFFFFFFFF

/-- At most so many rounds of the loop; without a result it is not over then. -/
def waitLoop (hasTimeout : Bool) (result : TaskExecutionResult) :
    Nat → UInt32 → WindowsProgram (Option TaskExecutionResult)
  | 0, _ => return none
  | rounds + 1, remainingMs => do
      let waitCode ← windows (.waitForSingleObject (waitMs hasTimeout remainingMs))
      match (waitCode : WaitCode) with
      | .object => return some result
      | .failed =>
          return some
            { result with failedToStart := true, errorMessage := "WaitForSingleObject failed" }
      | .timeout => do
          let canceled ← windows .isCanceled
          if canceled then do
            windows .terminateProcess
            return some { result with canceled := true }
          else if hasTimeout then
            if remainingMs ≤ waitMs hasTimeout remainingMs then do
              windows .terminateProcess
              return some { result with timedOut := true }
            else do
              windows .doHeartbeat
              waitLoop hasTimeout result rounds (remainingMs - waitMs hasTimeout remainingMs)
          else do
            windows .doHeartbeat
            waitLoop hasTimeout result rounds remainingMs

/-! ## A run -/

/-- After the loop: the exit code, which is 1 unless it can be read, and the environment. -/
def finish (prevEnv : List (Bytes × Option Bytes)) (result : TaskExecutionResult) :
    WindowsProgram TaskExecutionResult := do
  let exitCode ← windows .getExitCodeProcess
  restoreEnv prevEnv
  let finishedAt ← windows .nowUtcIso8601
  return { result with
    exitCode := ((exitCode : Option UInt32).getD 1).toBitVec.toInt, finishedAt := finishedAt }

/-- The variables of a task, as bytes. -/
def taskEnv (task : AgentClient.TaskDispatch) : List (Bytes × Bytes) :=
  (TaskExecutor.childEnv task).map fun entry => (utf8 entry.1, utf8 entry.2)

/-- The process and the wait for it, when the environment has been set. -/
def start (rounds : Nat) (task : AgentClient.TaskDispatch) (result : TaskExecutionResult)
    (prevEnv : List (Bytes × Option Bytes)) : WindowsProgram (Option TaskExecutionResult) := do
  let hOut ← windows (.createFile result.stdoutPath)
  let hErr ← windows (.createFile result.stderrPath)
  if hOut && hErr then do
    let ok ← windows (.createProcess (cString (cmdline (utf8 task.command) (task.args.map utf8))))
    if ok then do
      let timeoutSec := task.timeoutSec.getD 0
      let waited ← waitLoop (decide (timeoutSec > 0)) result rounds
        (initialRemainingMs timeoutSec)
      waited.elim (return none) fun waited => do
        let finished ← finish prevEnv waited
        return some finished
    else return some { result with failedToStart := true, errorMessage := "CreateProcess failed" }
  else return some { result with failedToStart := true, errorMessage := "Failed to open log files" }

def run (rounds : Nat) (logRoot : String) (task : AgentClient.TaskDispatch) :
    WindowsProgram (Option TaskExecutionResult) := do
  let startedAt ← windows .nowUtcIso8601
  let result := PosixExecutor.initialResult logRoot task startedAt
  let prevEnv ← setEnv (taskEnv task)
  start rounds task result prevEnv

end WindowsExecutor

end DistributedComputing
