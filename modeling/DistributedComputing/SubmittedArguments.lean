import DistributedComputing.GlobalOptions
import DistributedComputing.LastBindings

/-!
# The arguments of a submission

The ways to write a task on the command line: every option with its value as the next argument
or after a `=`, under any of its names, and the options in any order that keeps those of one kind
in sequence.  However it is written, the command sends the task that was meant.
-/

namespace DistributedComputing

namespace Cli

open OptionArguments

/-! ## Tasks and how they are written -/

/-- A task as the user means it. -/
structure TaskDescription where
  command : String
  command_ne : command ≠ ""
  args : List String := []
  env : List (String × String) := []
  env_keys : ∀ entry ∈ env, entry.1 ≠ "" ∧ '=' ∉ entry.1.toList
  timeout : Option Int := none
  timeout_bounds : ∀ seconds ∈ timeout, 0 ≤ seconds ∧ seconds < 2 ^ 31
  cpuCores : Option Int := none
  cpuCores_bounds : ∀ cores ∈ cpuCores, IsInt cores
  ramMb : Option Int := none
  ramMb_bounds : ∀ megabytes ∈ ramMb, IsInt megabytes
  os : Option String := none
  labels : List String := []

/-- An option of the command with what it gives. -/
inductive TaskOption
  | command (text : String)
  | arg (text : String)
  | env (key value : String)
  | timeout (seconds : Int)
  | os (name : String)
  | cpu (cores : Int)
  | ram (megabytes : Int)
  | label (text : String)

namespace TaskOption

def command? : TaskOption → Option String
  | .command text => some text
  | _ => none

def arg? : TaskOption → Option String
  | .arg text => some text
  | _ => none

def env? : TaskOption → Option (String × String)
  | .env key value => some (key, value)
  | _ => none

def timeout? : TaskOption → Option Int
  | .timeout seconds => some seconds
  | _ => none

def os? : TaskOption → Option String
  | .os name => some name
  | _ => none

def cpu? : TaskOption → Option Int
  | .cpu cores => some cores
  | _ => none

def ram? : TaskOption → Option Int
  | .ram megabytes => some megabytes
  | _ => none

def label? : TaskOption → Option String
  | .label text => some text
  | _ => none

/-- The arguments that give a number to an option, in decimal digits. -/
def WritesNumber (name : String) (value : Int) (pieces : List String) : Prop :=
  ∃ text, Numeral value text ∧ OptionArguments.Writes name text pieces

/-- The arguments that write one option, under each of its names. -/
def Writes : TaskOption → List String → Prop
  | .command text, pieces =>
      OptionArguments.Writes "--cmd" text pieces ∨ OptionArguments.Writes "--command" text pieces
  | .arg text, pieces => OptionArguments.Writes "--arg" text pieces
  | .env key value, pieces => OptionArguments.Writes "--env" (key ++ "=" ++ value) pieces
  | .timeout seconds, pieces =>
      WritesNumber "--timeout" seconds pieces ∨ WritesNumber "--timeout-sec" seconds pieces
  | .os name, pieces => OptionArguments.Writes "--os" name pieces
  | .cpu cores, pieces => WritesNumber "--cpu" cores pieces
  | .ram megabytes, pieces => WritesNumber "--ram" megabytes pieces
  | .label text, pieces => OptionArguments.Writes "--label" text pieces

end TaskOption

/-- The options of a task in some order.  Those of one kind keep their sequence. -/
structure TaskDescription.OrderedAs (task : TaskDescription) (options : List TaskOption) :
    Prop where
  command : options.filterMap TaskOption.command? = [task.command]
  args : options.filterMap TaskOption.arg? = task.args
  env : options.filterMap TaskOption.env? = task.env
  timeout : options.filterMap TaskOption.timeout? = task.timeout.toList
  os : options.filterMap TaskOption.os? = task.os.toList
  cpuCores : options.filterMap TaskOption.cpu? = task.cpuCores.toList
  ramMb : options.filterMap TaskOption.ram? = task.ramMb.toList
  labels : options.filterMap TaskOption.label? = task.labels

/-- Arguments that write a task. -/
def TaskDescription.WrittenAs (task : TaskDescription) (args : List String) : Prop :=
  ∃ options, task.OrderedAs options ∧ Renders TaskOption.Writes options args

/-- What a task promises of the options that write it. -/
def TaskOption.WellFormed : TaskOption → Prop
  | .env key _ => key ≠ "" ∧ '=' ∉ key.toList
  | .timeout seconds => 0 ≤ seconds ∧ seconds < 2 ^ 31
  | .cpu cores => IsInt cores
  | .ram megabytes => IsInt megabytes
  | _ => True

theorem TaskDescription.OrderedAs.wellFormed {task : TaskDescription} {options : List TaskOption}
    (ordered : task.OrderedAs options) {option : TaskOption} (member : option ∈ options) :
    option.WellFormed := by
  cases option with
  | env key value =>
      have listed : (key, value) ∈ options.filterMap TaskOption.env? :=
        List.mem_filterMap.mpr ⟨_, member, rfl⟩
      rw [ordered.env] at listed
      exact task.env_keys _ listed
  | timeout seconds =>
      have listed : seconds ∈ options.filterMap TaskOption.timeout? :=
        List.mem_filterMap.mpr ⟨_, member, rfl⟩
      rw [ordered.timeout, Option.mem_toList] at listed
      exact task.timeout_bounds seconds listed
  | cpu cores =>
      have listed : cores ∈ options.filterMap TaskOption.cpu? :=
        List.mem_filterMap.mpr ⟨_, member, rfl⟩
      rw [ordered.cpuCores, Option.mem_toList] at listed
      exact task.cpuCores_bounds cores listed
  | ram megabytes =>
      have listed : megabytes ∈ options.filterMap TaskOption.ram? :=
        List.mem_filterMap.mpr ⟨_, member, rfl⟩
      rw [ordered.ramMb, Option.mem_toList] at listed
      exact task.ramMb_bounds megabytes listed
  | command text => trivial
  | arg text => trivial
  | os name => trivial
  | label text => trivial

/-! ## What the body says -/

/-- The members that the constraints of a task are to have. -/
def TaskDescription.constraint (task : TaskDescription) (name : String) : Option Json :=
  if name = "os" then (task.os.filter (· ≠ "")).map .string
  else if name = "cpu_cores" then task.cpuCores.map .integer
  else if name = "ram_mb" then task.ramMb.map .integer
  else if name = "labels" ∧ task.labels ≠ [] then some (.array (task.labels.map .string))
  else none

/-- The body says what the task is, and nothing else. -/
structure EncodesTask (task : TaskDescription) (body : Json) : Prop where
  isObject : body.IsObject
  names : ∀ name, body.contains name →
    name ∈ ["command", "args", "env", "timeout_sec", "constraints"]
  command : body.member "command" = some (.string task.command)
  args : body.member "args" = some (.array (task.args.map .string))
  env : ∃ env, body.member "env" = some env ∧ env.IsObject ∧
    ∀ key, env.member key = (lastValue key task.env).map .string
  timeout : body.member "timeout_sec" = task.timeout.map .integer
  unconstrained : body.contains "constraints" = false ↔ ∀ name, task.constraint name = none
  constraints : ∀ constraints, body.member "constraints" = some constraints →
    constraints.IsObject ∧ ∀ name, constraints.member name = task.constraint name

/-! ## Reading the arguments -/

/-- What one option adds to the options read so far. -/
def SubmitArgs.apply (parsed : SubmitArgs) : TaskOption → SubmitArgs
  | .command text => { parsed with command := text }
  | .arg text => { parsed with cmdArgs := parsed.cmdArgs ++ [text] }
  | .env key value => { parsed with env := parsed.env ++ [(key, value)] }
  | .timeout seconds => { parsed with timeout := some seconds }
  | .os name => { parsed with os := name }
  | .cpu cores => { parsed with cpuCores := some cores }
  | .ram megabytes => { parsed with ramMb := some megabytes }
  | .label text => { parsed with labels := parsed.labels ++ [text] }

/-- What is read of a task. -/
def TaskDescription.submitArgs (task : TaskDescription) : SubmitArgs where
  command := task.command
  cmdArgs := task.args
  env := task.env
  timeout := task.timeout
  os := task.os.getD ""
  cpuCores := task.cpuCores
  ramMb := task.ramMb
  labels := task.labels

def Consumed.ofNamed : Named SubmitArgs → Consumed
  | .next name set => .next name set
  | .value text set => .value text set

theorem consumeOptionValue_eq (arg : String) (options : List (String × Setter SubmitArgs)) :
    consumeOptionValue arg options = (named arg options).map Consumed.ofNamed := by
  induction options with
  | nil => rfl
  | cons option options ih =>
      obtain ⟨name, set⟩ := option
      simp only [consumeOptionValue, named]
      split
      · rfl
      · rw [ih]
        cases arg.toList.dropPrefix? (name ++ "=").toList <;> rfl

theorem distinct_submitOptions : Distinct submitOptions where
  nodup := by decide
  bare := by decide

theorem submitLoop_writes {name text : String} {set : Setter SubmitArgs} {pieces : List String}
    {parsed after : SubmitArgs} (member : (name, set) ∈ submitOptions)
    (writes : OptionArguments.Writes name text pieces) (applied : set text parsed = .ok after)
    (args : List String) :
    parseSubmitArgs (pieces ++ args) none parsed = parseSubmitArgs args none after := by
  rcases writes with rfl | rfl
  · have found : consumeOptionValue name submitOptions = some (.next name set) := by
      rw [consumeOptionValue_eq, named_name distinct_submitOptions member]
      rfl
    simp only [List.cons_append, List.nil_append, parseSubmitArgs, found, applied]
    rfl
  · have found :
        consumeOptionValue (name ++ "=" ++ text) submitOptions = some (.value text set) := by
      rw [consumeOptionValue_eq, named_joined distinct_submitOptions member]
      rfl
    simp only [List.cons_append, List.nil_append, parseSubmitArgs, found, applied]
    rfl

theorem setEnv_of_key {key : String} (nonempty : key ≠ "") (bare : '=' ∉ key.toList)
    (value : String) (parsed : SubmitArgs) :
    setEnv (key ++ "=" ++ value) parsed =
      .ok { parsed with env := parsed.env ++ [(key, value)] } := by
  have split : (key ++ "=" ++ value).toList = key.toList ++ '=' :: value.toList := by simp
  have before : (key ++ "=" ++ value).toList.takeWhile (· ≠ '=') = key.toList := by
    rw [split, takeWhile_name bare]
  have after : (key ++ "=" ++ value).toList.dropWhile (· ≠ '=') = '=' :: value.toList := by
    have whole := List.takeWhile_append_dropWhile (p := (· ≠ '='))
      (l := (key ++ "=" ++ value).toList)
    rw [before, split] at whole
    rw [split]
    exact List.append_cancel_left whole
  obtain ⟨first, rest, chars⟩ : ∃ first rest, key.toList = first :: rest :=
    List.exists_cons_of_ne_nil fun empty => nonempty (String.toList_eq_nil_iff.mp empty)
  unfold setEnv
  rw [List.span_eq_takeWhile_dropWhile, before, after, chars]
  change Except.ok _ = _
  rw [← chars, String.ofList_toList, String.ofList_toList]

/-- The loop reads the arguments that write one option. -/
theorem submitLoop_option {option : TaskOption} (wellFormed : option.WellFormed)
    {pieces : List String} (writes : option.Writes pieces) (args : List String)
    (parsed : SubmitArgs) :
    parseSubmitArgs (pieces ++ args) none parsed =
      parseSubmitArgs args none (parsed.apply option) := by
  cases option with
  | command text =>
      rcases writes with writes | writes
      · exact submitLoop_writes (List.mem_of_getElem? (i := 0) rfl) writes rfl args
      · exact submitLoop_writes (List.mem_of_getElem? (i := 1) rfl) writes rfl args
  | arg text => exact submitLoop_writes (List.mem_of_getElem? (i := 2) rfl) writes rfl args
  | env key value =>
      obtain ⟨nonempty, bare⟩ := wellFormed
      have applied := setEnv_of_key nonempty bare value parsed
      exact submitLoop_writes (List.mem_of_getElem? (i := 3) rfl) writes applied args
  | timeout seconds =>
      obtain ⟨nonnegative, small⟩ := wellFormed
      have applied {text : String} (numeral : Numeral seconds text) :
          setTimeout text parsed = .ok { parsed with timeout := some seconds } := by
        unfold setTimeout
        rw [parseInt_of_numeral numeral ⟨by omega, small⟩]
        exact if_neg (by omega)
      rcases writes with ⟨text, numeral, writes⟩ | ⟨text, numeral, writes⟩
      · exact submitLoop_writes (List.mem_of_getElem? (i := 4) rfl) writes (applied numeral) args
      · exact submitLoop_writes (List.mem_of_getElem? (i := 5) rfl) writes (applied numeral) args
  | os name => exact submitLoop_writes (List.mem_of_getElem? (i := 6) rfl) writes rfl args
  | cpu number =>
      obtain ⟨text, numeral, writes⟩ := writes
      have applied : setCpu text parsed = .ok { parsed with cpuCores := some number } := by
        unfold setCpu
        rw [parseInt_of_numeral numeral wellFormed]
      exact submitLoop_writes (List.mem_of_getElem? (i := 7) rfl) writes applied args
  | ram number =>
      obtain ⟨text, numeral, writes⟩ := writes
      have applied : setRam text parsed = .ok { parsed with ramMb := some number } := by
        unfold setRam
        rw [parseInt_of_numeral numeral wellFormed]
      exact submitLoop_writes (List.mem_of_getElem? (i := 8) rfl) writes applied args
  | label text => exact submitLoop_writes (List.mem_of_getElem? (i := 9) rfl) writes rfl args

attribute [ext] SubmitArgs

/-- The options of a task, in whatever order, make up what is read of it. -/
theorem foldl_apply (task : TaskDescription) {options : List TaskOption}
    (ordered : task.OrderedAs options) :
    options.foldl SubmitArgs.apply {} = task.submitArgs := by
  have added {Field : Type} (field : SubmitArgs → List Field) (part : TaskOption → Option Field)
      (step : ∀ parsed option,
        field (parsed.apply option) = field parsed ++ (part option).toList) :=
    foldl_append_field field part step options {}
  have last {Field : Type} (field : SubmitArgs → Field) (part : TaskOption → Option Field)
      (step : ∀ parsed option, field (parsed.apply option) = (part option).getD (field parsed)) :=
    foldl_last_field field part step options {}
  ext1
  · rw [last (·.command) TaskOption.command?, ordered.command]
    · rfl
    · intro parsed option
      cases option <;> rfl
  · rw [added (·.cmdArgs) TaskOption.arg?, ordered.args]
    · rfl
    · intro parsed option
      cases option <;> simp [SubmitArgs.apply, TaskOption.arg?]
  · rw [added (·.env) TaskOption.env?, ordered.env]
    · rfl
    · intro parsed option
      cases option <;> simp [SubmitArgs.apply, TaskOption.env?]
  · apply foldl_optional_field SubmitArgs.timeout TaskOption.timeout? rfl ordered.timeout
    intro parsed option
    cases option <;> rfl
  · rw [last (·.os) TaskOption.os?, ordered.os]
    · cases os : task.os <;> simp [TaskDescription.submitArgs, os]
    · intro parsed option
      cases option <;> rfl
  · apply foldl_optional_field SubmitArgs.cpuCores TaskOption.cpu? rfl ordered.cpuCores
    intro parsed option
    cases option <;> rfl
  · apply foldl_optional_field SubmitArgs.ramMb TaskOption.ram? rfl ordered.ramMb
    intro parsed option
    cases option <;> rfl
  · rw [added (·.labels) TaskOption.label?, ordered.labels]
    · rfl
    · intro parsed option
      cases option <;> simp [SubmitArgs.apply, TaskOption.label?]

/-- However a task is written, the loop reads the task. -/
theorem parseSubmitArgs_of_writtenAs {task : TaskDescription} {args : List String}
    (written : task.WrittenAs args) : parseSubmitArgs args none {} = .ok task.submitArgs := by
  obtain ⟨options, ordered, renders⟩ := written
  have run := renders.run (parseSubmitArgs · none) SubmitArgs.apply
    (fun option member pieces args parsed writes =>
      submitLoop_option (ordered.wellFormed member) writes args parsed) [] {}
  rw [List.append_nil, foldl_apply task ordered] at run
  exact run

/-! ## Sending the task -/

/-- Entries that are stored one after the other: each key keeps its last value. -/
theorem member_foldl_insert (entries : List (String × String)) {json : Json}
    (isObject : json.IsObject) :
    (entries.foldl (fun env entry => env.insert entry.1 (.string entry.2)) json).IsObject ∧
      ∀ key,
        (entries.foldl (fun env entry => env.insert entry.1 (.string entry.2)) json).member key =
          ((lastValue key entries).map .string).or (json.member key) := by
  induction entries generalizing json with
  | nil => exact ⟨isObject, fun key => rfl⟩
  | cons entry entries ih =>
      obtain ⟨stays, members⟩ := ih (isObject.insert entry.1 (.string entry.2))
      refine ⟨stays, fun key => ?_⟩
      rw [List.foldl_cons, members, lastValue_cons]
      by_cases same : entry.1 = key
      · subst same
        rw [isObject.member_insert_self, if_pos rfl]
        cases lastValue entry.1 entries <;> rfl
      · rw [Json.member_insert_of_ne same, if_neg same, Option.or_none]

/-- The environment that the body holds. -/
def submitEnv (parsed : SubmitArgs) : Json :=
  parsed.env.foldl (fun env entry => env.insert entry.1 (.string entry.2)) (.object [])

/-- The constraints that the body holds when it holds any. -/
def submitConstraints (parsed : SubmitArgs) : Json :=
  ((((Json.object []).insertSome
    "os" (if parsed.os.isEmpty then none else some (.string parsed.os))).insertSome
    "cpu_cores" (parsed.cpuCores.map .integer)).insertSome
    "ram_mb" (parsed.ramMb.map .integer)).insertSome
    "labels" (if parsed.labels.isEmpty then none
      else some (.array (parsed.labels.map .string)))

def constrained (parsed : SubmitArgs) : Bool :=
  !parsed.os.isEmpty || parsed.cpuCores.isSome || parsed.ramMb.isSome || !parsed.labels.isEmpty

theorem isObject_submitConstraints (parsed : SubmitArgs) : (submitConstraints parsed).IsObject := by
  unfold submitConstraints
  repeat apply Json.IsObject.insertSome
  trivial

theorem member_constraints (os cpuCores ramMb labels : Option Json) (name : String) :
    (((((Json.object []).insertSome "os" os).insertSome "cpu_cores" cpuCores).insertSome
      "ram_mb" ramMb).insertSome "labels" labels).member name =
        if name = "os" then os
        else if name = "cpu_cores" then cpuCores
        else if name = "ram_mb" then ramMb
        else if name = "labels" then labels
        else none := by
  have first : (Json.object []).IsObject := trivial
  have second := first.insertSome "os" os
  have third := second.insertSome "cpu_cores" cpuCores
  have fourth := third.insertSome "ram_mb" ramMb
  simp only [fourth.member_insertSome, third.member_insertSome, second.member_insertSome,
    first.member_insertSome, Json.member_object, Json.find, Option.or_none]
  by_cases isOs : name = "os"
  · simp [isOs]
  by_cases isCpuCores : name = "cpu_cores"
  · simp [isCpuCores]
  by_cases isRamMb : name = "ram_mb"
  · simp [isRamMb]
  by_cases isLabels : name = "labels"
  · simp [isLabels]
  · simp [isOs, isCpuCores, isRamMb, isLabels]

theorem member_submitConstraints (task : TaskDescription) (name : String) :
    (submitConstraints task.submitArgs).member name = task.constraint name := by
  have os : (if (task.os.getD "").isEmpty then none else some (Json.string (task.os.getD ""))) =
      (task.os.filter (· ≠ "")).map .string := by
    cases task.os with
    | none => rfl
    | some name => by_cases empty : name = "" <;> simp [Option.filter, empty]
  have labels : (if task.labels.isEmpty then none
      else some (Json.array (task.labels.map .string))) =
        if task.labels ≠ [] then some (.array (task.labels.map .string)) else none := by
    cases task.labels <;> rfl
  unfold submitConstraints
  rw [member_constraints]
  change (if name = "os" then (if (task.os.getD "").isEmpty then none
    else some (Json.string (task.os.getD ""))) else if name = "cpu_cores" then _
      else if name = "ram_mb" then _ else if name = "labels" then
        (if task.labels.isEmpty then none
          else some (Json.array (task.labels.map .string))) else _) = _
  rw [os, labels, ← ite_and]
  rfl

theorem constrained_eq_false_iff (task : TaskDescription) :
    constrained task.submitArgs = false ↔ ∀ name, task.constraint name = none := by
  have noOs : (task.os.getD "").isEmpty = true ↔
      (task.os.filter (· ≠ "")).map Json.string = none := by
    cases task.os with
    | none => simp
    | some name => simp [Option.filter]
  unfold constrained
  simp only [Bool.or_eq_false_iff, Bool.not_eq_false']
  constructor
  · rintro ⟨⟨⟨os, cpuCores⟩, ramMb⟩, labels⟩ name
    have noCores : task.cpuCores = none :=
      Option.not_isSome_iff_eq_none.mp (Bool.eq_false_iff.mp cpuCores)
    have noMegabytes : task.ramMb = none :=
      Option.not_isSome_iff_eq_none.mp (Bool.eq_false_iff.mp ramMb)
    have noLabels : task.labels = [] := List.isEmpty_iff.mp labels
    unfold TaskDescription.constraint
    rw [noOs.mp os, noCores, noMegabytes, noLabels]
    simp
  · intro unconstrained
    have cpuCores : task.cpuCores.map Json.integer = none := unconstrained "cpu_cores"
    have ramMb : task.ramMb.map Json.integer = none := unconstrained "ram_mb"
    have labels : (if "labels" = "labels" ∧ task.labels ≠ [] then
      some (Json.array (task.labels.map .string)) else none) = none := unconstrained "labels"
    have noLabels : task.labels = [] := by
      by_contra labelled
      simp [labelled] at labels
    refine ⟨⟨⟨noOs.mpr (unconstrained "os"), ?_⟩, ?_⟩, List.isEmpty_iff.mpr noLabels⟩
    · exact Option.isSome_eq_false_iff.mpr (Option.isNone_iff_eq_none.mpr
        (Option.map_eq_none_iff.mp cpuCores))
    · exact Option.isSome_eq_false_iff.mpr (Option.isNone_iff_eq_none.mpr
        (Option.map_eq_none_iff.mp ramMb))

theorem member_submitBody (parsed : SubmitArgs) (name : String) :
    (submitBody parsed).member name =
      if name = "constraints" then
        (if constrained parsed then some (submitConstraints parsed) else none)
      else if name = "timeout_sec" then parsed.timeout.map .integer
      else Json.find name [("command", .string parsed.command),
        ("args", .array (parsed.cmdArgs.map .string)), ("env", submitEnv parsed)] := by
  have plain : (Json.object [("command", .string parsed.command),
    ("args", .array (parsed.cmdArgs.map .string)), ("env", submitEnv parsed)]).IsObject := trivial
  have timed := plain.insertSome "timeout_sec" (parsed.timeout.map .integer)
  change (((Json.object [("command", .string parsed.command),
    ("args", .array (parsed.cmdArgs.map .string)), ("env", submitEnv parsed)]).insertSome
      "timeout_sec" (parsed.timeout.map .integer)).insertSome "constraints"
        (if constrained parsed then some (submitConstraints parsed) else none)).member name = _
  rw [timed.member_insertSome, plain.member_insertSome, plain.member_insertSome]
  by_cases isConstraints : name = "constraints"
  · subst isConstraints
    simp [Json.find]
  · rw [if_neg isConstraints, if_neg isConstraints]
    by_cases isTimeout : name = "timeout_sec"
    · subst isTimeout
      simp [Json.find]
    · rw [if_neg isTimeout, if_neg isTimeout]
      rfl

theorem encodesTask_submitBody (task : TaskDescription) :
    EncodesTask task (submitBody task.submitArgs) := by
  have member := member_submitBody task.submitArgs
  constructor
  case isObject =>
    unfold submitBody
    apply Json.IsObject.insertSome
    apply Json.IsObject.insertSome
    trivial
  case names =>
    intro name contains
    by_contra other
    simp only [List.mem_cons, List.not_mem_nil, or_false, not_or] at other
    obtain ⟨notCommand, notArgs, notEnv, notTimeout, notConstraints⟩ := other
    rw [Json.contains, member, if_neg notConstraints, if_neg notTimeout] at contains
    simp [Json.find, Ne.symm notCommand, Ne.symm notArgs, Ne.symm notEnv] at contains
  case command => exact member "command"
  case args => exact member "args"
  case env =>
    have isEmpty : (Json.object []).IsObject := trivial
    obtain ⟨isObject, members⟩ := member_foldl_insert task.env isEmpty
    refine ⟨submitEnv task.submitArgs, member "env", isObject, fun key => ?_⟩
    exact (members key).trans (Option.or_none)
  case timeout => exact member "timeout_sec"
  case unconstrained =>
    rw [Json.contains, member, if_pos rfl, ← constrained_eq_false_iff]
    cases constrained task.submitArgs <;> simp
  case constraints =>
    intro constraints found
    rw [member, if_pos rfl] at found
    obtain rfl : submitConstraints task.submitArgs = constraints := by
      split at found <;> simp_all
    exact ⟨isObject_submitConstraints _, member_submitConstraints task⟩

theorem prepareSubmit_of_writtenAs {task : TaskDescription} {args : List String}
    (written : task.WrittenAs args) : prepareSubmit args = .ok (submitBody task.submitArgs) := by
  have nonempty : ¬task.command.isEmpty = true := by
    simpa using task.command_ne
  unfold prepareSubmit
  rw [parseSubmitArgs_of_writtenAs written]
  exact if_neg nonempty

/-- However a task is written, behind whatever well-formed global options: these are read as
they were given and leave the command, and the command sends a body that says what the task
is. -/
theorem submission_sends_task (environment : String → Option String) (task : TaskDescription)
    {globals : List GlobalOption} {globalArgs args : List String}
    (renders : Renders GlobalOption.Writes globals globalArgs) (written : task.WrittenAs args)
    {top sub : String} (isTasks : top ∈ ["tasks", "task"]) (isSubmit : sub ∈ ["submit", "add"]) :
    ∃ settings body,
      settings = (defaultGlobalOptions environment).given globals ∧
      parseGlobalOptions environment (globalArgs ++ top :: sub :: args) =
        .ok (settings, top :: sub :: args) ∧
      requestedTasksCommand (top :: sub :: args) = some (.submit, args) ∧
      EncodesTask task body ∧
      ∀ broker delivery store, handleTasksSubmit broker settings.options args delivery store =
        (concludeSubmit settings.options (post broker body delivery store).1,
          (post broker body delivery store).2) := by
  have bare : top.toList.head? ≠ some '-' := by
    revert top
    decide
  have parsed := parseGlobalOptions_of_renders environment renders bare (sub :: args)
  have named : ∀ sub ∈ ["submit", "add"], tasksCommand sub = some .submit := by decide
  refine ⟨_, submitBody task.submitArgs, rfl, parsed, ?_, encodesTask_submitBody task, ?_⟩
  · change (if top = "tasks" ∨ top = "task" then _ else _) = _
    rw [if_pos (by simpa using isTasks), named sub isSubmit]
    rfl
  · intro broker delivery store
    unfold handleTasksSubmit
    rw [prepareSubmit_of_writtenAs written]

/-- A task with an empty argument, one that looks like an option, and a key given twice. -/
def dashedSubmission : TaskDescription where
  command := "echo"
  command_ne := by decide
  args := ["", "--cmd"]
  env := [("MODE", "a"), ("MODE", "b=c")]
  env_keys := by decide
  timeout := some 30
  timeout_bounds := by simp
  cpuCores := some 2
  cpuCores_bounds := by simp [IsInt]
  ramMb_bounds := by simp
  labels := ["gpu"]

def dashedGlobals : List GlobalOption :=
  [.json true, .port 9000]

def dashedArguments : List String :=
  ["--arg=", "--env", "MODE=a", "--timeout-sec=30", "--label", "gpu", "--arg", "--cmd",
    "--cpu", "2", "--env=MODE=b=c", "--command=echo"]

theorem dashedGlobals_renders :
    Renders GlobalOption.Writes dashedGlobals ["--json=TRUE", "--port", "9000"] := by
  have json : GlobalOption.Writes (.json true) ["--json=TRUE"] :=
    .inr ⟨"TRUE", .inl (by decide), rfl⟩
  have port : GlobalOption.Writes (.port 9000) ["--port", "9000"] :=
    ⟨⟨by decide, by decide⟩, "9000", numeral_toString 9000, .inl rfl⟩
  have renders := Renders.cons json (.cons port .nil)
  exact renders

theorem dashedSubmission_writtenAs : dashedSubmission.WrittenAs dashedArguments := by
  have seconds : TaskOption.Writes (.timeout 30) ["--timeout-sec=30"] :=
    .inr ⟨"30", numeral_toString 30, .inr rfl⟩
  have cores : TaskOption.Writes (.cpu 2) ["--cpu", "2"] := ⟨"2", numeral_toString 2, .inl rfl⟩
  have arg : TaskOption.Writes (.arg "") ["--arg="] := .inr rfl
  have firstMode : TaskOption.Writes (.env "MODE" "a") ["--env", "MODE=a"] := .inl rfl
  have label : TaskOption.Writes (.label "gpu") ["--label", "gpu"] := .inl rfl
  have dashed : TaskOption.Writes (.arg "--cmd") ["--arg", "--cmd"] := .inl rfl
  have lastMode : TaskOption.Writes (.env "MODE" "b=c") ["--env=MODE=b=c"] := .inr rfl
  have command : TaskOption.Writes (.command "echo") ["--command=echo"] := .inr (.inr rfl)
  have renders := Renders.cons arg (.cons firstMode (.cons seconds (.cons label (.cons dashed
    (.cons cores (.cons lastMode (.cons command .nil)))))))
  exact ⟨_, ⟨rfl, rfl, rfl, rfl, rfl, rfl, rfl, rfl⟩, renders⟩

theorem submission_sends_task_dashedSubmission :
    ∃ settings body,
      settings = (defaultGlobalOptions fun _ => none).given dashedGlobals ∧
      parseGlobalOptions (fun _ => none)
          (["--json=TRUE", "--port", "9000"] ++ "tasks" :: "add" :: dashedArguments) =
        .ok (settings, "tasks" :: "add" :: dashedArguments) ∧
      requestedTasksCommand ("tasks" :: "add" :: dashedArguments) =
        some (.submit, dashedArguments) ∧
      EncodesTask dashedSubmission body ∧
      ∀ broker delivery store,
        handleTasksSubmit broker settings.options dashedArguments delivery store =
          (concludeSubmit settings.options (post broker body delivery store).1,
            (post broker body delivery store).2) :=
  submission_sends_task (fun _ => none) dashedSubmission dashedGlobals_renders
    dashedSubmission_writtenAs (by decide) (by decide)

end Cli

end DistributedComputing
