import DistributedComputing.Deployment

/-!
# The command `tasks submit`

The options of the command, the body it sends, what it makes of the answer, and the loop of
the CLI around it.  What is printed is left out; the exit codes decide how the loop goes on.
-/

namespace DistributedComputing

namespace Cli

/-- The global options that the command and the loop look at. -/
structure GlobalOptions where
  retries : Nat := 10
  jsonOutput : Bool := false

/-- What the HTTP client reports.  The body is absent when its text is not JSON. -/
structure HttpResult where
  status : Int := 0
  body : Option Json := none
  error : String := ""

/-- How a command ends: with its exit code, or by an exception that nobody catches. -/
inductive CommandEnd
  | exit (code : Nat)
  | uncaught
  deriving DecidableEq

/-! ## Options -/

/-- `ParseInt`: what `strtol` reads, when it reads all of the text. -/
def parseInt (value : String) : Option Int :=
  let (negative, digits) := match value.toList.dropWhile isSpace with
    | '-' :: digits => (true, digits)
    | '+' :: digits => (false, digits)
    | digits => (false, digits)
  if digits ≠ [] ∧ digits.all Char.isDigit then
    let magnitude : Int :=
      digits.foldl (fun total digit => 10 * total + (digit.toNat - '0'.toNat : Nat)) 0
    let long := if negative then max (-magnitude) (-2 ^ 63) else min magnitude (2 ^ 63 - 1)
    some (toInt32 long)
  else none

/-- What the options of the command have set so far. -/
structure SubmitArgs where
  command : String := ""
  cmdArgs : List String := []
  env : List (String × String) := []
  timeout : Option Int := none
  os : String := ""
  cpuCores : Option Int := none
  ramMb : Option Int := none
  labels : List String := []

/-- `--env`: the key ends at the first `=` and is not empty. -/
def setEnv (value : String) (parsed : SubmitArgs) : Except String SubmitArgs :=
  match value.toList.span (· ≠ '=') with
  | ([], _) => .error ("Invalid env, expected KEY=VALUE: " ++ value)
  | (_, []) => .error ("Invalid env, expected KEY=VALUE: " ++ value)
  | (key, _ :: rest) =>
      .ok { parsed with env := parsed.env ++ [(String.ofList key, String.ofList rest)] }

def setTimeout (value : String) (parsed : SubmitArgs) : Except String SubmitArgs :=
  match parseInt value with
  | some timeout =>
      if timeout < 0 then .error ("Invalid timeout: " ++ value)
      else .ok { parsed with timeout := some timeout }
  | none => .error ("Invalid timeout: " ++ value)

def setCpu (value : String) (parsed : SubmitArgs) : Except String SubmitArgs :=
  match parseInt value with
  | some cpuCores => .ok { parsed with cpuCores := some cpuCores }
  | none => .error ("Invalid cpu: " ++ value)

def setRam (value : String) (parsed : SubmitArgs) : Except String SubmitArgs :=
  match parseInt value with
  | some ramMb => .ok { parsed with ramMb := some ramMb }
  | none => .error ("Invalid ram: " ++ value)

/-- The options in the order in which they are tried, with what they do with a value. -/
def submitOptions : List (String × (String → SubmitArgs → Except String SubmitArgs)) :=
  [("--cmd", fun value parsed => .ok { parsed with command := value }),
    ("--command", fun value parsed => .ok { parsed with command := value }),
    ("--arg", fun value parsed => .ok { parsed with cmdArgs := parsed.cmdArgs ++ [value] }),
    ("--env", setEnv), ("--timeout", setTimeout), ("--timeout-sec", setTimeout),
    ("--os", fun value parsed => .ok { parsed with os := value }),
    ("--cpu", setCpu), ("--ram", setRam),
    ("--label", fun value parsed => .ok { parsed with labels := parsed.labels ++ [value] })]

/-- An option that an argument names: its value is the next argument, or follows a `=`. -/
inductive Consumed
  | next (name : String) (set : String → SubmitArgs → Except String SubmitArgs)
  | value (text : String) (set : String → SubmitArgs → Except String SubmitArgs)

/-- The first option that `ConsumeOptionValue` accepts for an argument. -/
def consumeOptionValue (arg : String) :
    List (String × (String → SubmitArgs → Except String SubmitArgs)) → Option Consumed
  | [] => none
  | (name, set) :: options =>
      if arg = name then some (.next name set)
      else
        match arg.toList.dropPrefix? (name ++ "=").toList with
        | some text => some (.value (String.ofList text) set)
        | none => consumeOptionValue arg options

/-- The loop over the arguments, with the option that waits for its value. -/
def parseSubmitArgs :
    List String → Option (String × (String → SubmitArgs → Except String SubmitArgs)) →
      SubmitArgs → Except String SubmitArgs
  | [], none, parsed => .ok parsed
  | [], some (name, _), _ => .error ("Missing value for " ++ name)
  | arg :: args, some (_, set), parsed => do
      let parsed ← set arg parsed
      parseSubmitArgs args none parsed
  | arg :: args, none, parsed =>
      match consumeOptionValue arg submitOptions with
      | some (.next name set) => parseSubmitArgs args (some (name, set)) parsed
      | some (.value text set) => do
          let parsed ← set text parsed
          parseSubmitArgs args none parsed
      | none =>
          if arg.toList.head? = some '-' then .error ("Unknown option: " ++ arg)
          else .error ("Unexpected argument: " ++ arg)

/-- The body that the command sends. -/
def submitBody (parsed : SubmitArgs) : Json :=
  let env := parsed.env.foldl (fun env (key, value) => env.insert key (.string value))
    (Json.object [])
  let constraints := ((((Json.object []).insertSome
    "os" (if parsed.os.isEmpty then none else some (.string parsed.os))).insertSome
    "cpu_cores" (parsed.cpuCores.map .integer)).insertSome
    "ram_mb" (parsed.ramMb.map .integer)).insertSome
    "labels" (if parsed.labels.isEmpty then none
      else some (.array (parsed.labels.map .string)))
  let constrained := !parsed.os.isEmpty || parsed.cpuCores.isSome || parsed.ramMb.isSome ||
    !parsed.labels.isEmpty
  ((Json.object [("command", .string parsed.command),
      ("args", .array (parsed.cmdArgs.map .string)), ("env", env)]).insertSome
    "timeout_sec" (parsed.timeout.map .integer)).insertSome
    "constraints" (if constrained then some constraints else none)

/-- The part of `HandleTasksSubmit` before the request. -/
def prepareSubmit (args : List String) : Except String Json := do
  let parsed ← parseSubmitArgs args none {}
  if parsed.command.isEmpty then .error "Missing required --cmd" else .ok (submitBody parsed)

/-! ## Answers -/

def exitCodeForStatus (status : Int) : Nat :=
  if 500 ≤ status then 3 else 2

/-- `error.value(name, "")` raises on a member that is not a string. -/
def badStringMember (name : String) (error : Json) : Bool :=
  match error.member name with
  | none => false
  | some value => value.asString.isNone

/-- Whether `PrintApiError` raises on a body. -/
def printApiErrorRaises (body : Option Json) : Bool :=
  match body.bind (Json.objectMember "error") with
  | none => false
  | some error => badStringMember "code" error || badStringMember "message" error

def handleErrorResult (options : GlobalOptions) (result : HttpResult) : CommandEnd :=
  if !result.error.isEmpty then .exit 4
  else if options.jsonOutput then .exit (exitCodeForStatus result.status)
  else if printApiErrorRaises result.body then .uncaught
  else .exit (exitCodeForStatus result.status)

def readTaskIdAsString (payload : Json) : String :=
  match payload.member "task_id" with
  | some (.integer value) => toString value
  | some (.string value) => value
  | _ => ""

/-- The part of `HandleTasksSubmit` after the request. -/
def concludeSubmit (options : GlobalOptions) (result : HttpResult) : CommandEnd :=
  if !result.error.isEmpty ∨ result.status < 200 ∨ 300 ≤ result.status then
    handleErrorResult options result
  else if options.jsonOutput then .exit 0
  else
    match result.body with
    | none => .exit 4
    | some body => if (readTaskIdAsString body).isEmpty then .exit 4 else .exit 0

/-! ## The loop -/

/-- What the network does to one request: it does not reach the master, or the master
handles it under a schedule of its broker call.  Unless the master's own answer arrives,
`seen` is what the client reports instead. -/
inductive Delivery
  | unprocessed (seen : HttpResult)
  | processed (attempts : List Attempt) (seen : Option HttpResult)

def httpResult (response : Response) : HttpResult where
  status := response.status
  body := some response.body

/-- `POST /api/v1/tasks`. -/
def post (broker : Broker) (body : Json) (delivery : Delivery) (store : Store) :
    HttpResult × Store :=
  match delivery with
  | .unprocessed seen => (seen, store)
  | .processed attempts seen =>
      let answer := ControlService.handleCreateTask broker attempts (.json body) store
      (seen.getD (httpResult answer.1), answer.2)

def handleTasksSubmit (broker : Broker) (options : GlobalOptions) (args : List String)
    (delivery : Delivery) (store : Store) : CommandEnd × Store :=
  match prepareSubmit args with
  | .error _ => (.exit 1, store)
  | .ok body =>
      let exchange := post broker body delivery store
      (concludeSubmit options exchange.1, exchange.2)

/-- One pass of the loop in `main`: an exit code other than zero asks for another. -/
def submitOnce (broker : Broker) (options : GlobalOptions) (args : List String)
    (delivery : Delivery) (store : Store) : Except Nat CommandEnd × Store :=
  match handleTasksSubmit broker options args delivery store with
  | (.exit 0, after) => (.ok (.exit 0), after)
  | (.exit code, after) => (.error code, after)
  | (.uncaught, after) => (.ok .uncaught, after)

/-- `main` for this command: `retries` passes over the network at most. -/
def main (broker : Broker) (options : GlobalOptions) (args : List String)
    (network : Nat → Delivery) (store : Store) : CommandEnd × Store :=
  match RetryLoop.retry 1 (((List.range options.retries).map network).map
    (submitOnce broker options args)) store with
  | (.ok ending, after) => (ending, after)
  | (.error _, after) => (.exit 1, after)

example : (prepareSubmit ["--cmd", "echo", "--arg=--x", "--env", "A=B=C", "--cpu", " 2"]).toOption.map
    (fun body => (body.stringMember "command", body.arrayMember "args" |>.map List.length)) =
      some (some "echo", some 1) := by
  rfl

end Cli

end DistributedComputing
