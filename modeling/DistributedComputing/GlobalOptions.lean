import DistributedComputing.DecimalTexts
import DistributedComputing.OptionArguments
import DistributedComputing.Strtol
import DistributedComputing.SubmitCommand

/-!
# The global options of the CLI

What `ParseGlobalOptions` makes of the arguments before the command.  Options that are written
one after the other set what each of them gives last, and the command behind them is left as it
is.
-/

namespace DistributedComputing

namespace Cli

open OptionArguments

/-! ## Parsing -/

/-- The global options, all of them. -/
@[ext]
structure GlobalSettings where
  baseUrl : String := ""
  host : String := ""
  port : Int := 8080
  timeoutMs : Int := 5000
  retries : Int := 10
  retriesTimeout : Int := 5
  jsonOutput : Bool := false
  verbose : Bool := false
  help : Bool := false

/-- The part of the options that the command and the loop look at. -/
def GlobalSettings.options (settings : GlobalSettings) : GlobalOptions where
  retries := settings.retries.toNat
  jsonOutput := settings.jsonOutput

def getEnvOrDefault (environment : String → Option String) (key default : String) : String :=
  (environment key).getD default

/-- `strtol` reads an empty value as zero. -/
def getEnvIntOrDefault (environment : String → Option String) (key : String)
    (default : Int) : Int :=
  (environment key).elim default fun value =>
    if value.isEmpty then 0 else (parseInt value).getD default

def defaultGlobalOptions (environment : String → Option String) : GlobalSettings where
  host := getEnvOrDefault environment "MASTER_HOST" "127.0.0.1"
  port := getEnvIntOrDefault environment "MASTER_PORT" 8080

def setPort (value : String) (settings : GlobalSettings) : Except String GlobalSettings :=
  (parseInt value).elim (.error ("Invalid port: " ++ value))
    fun port => .ok { settings with port := port }

/-- The options whose number is to be positive. -/
def setPositive (option : String) (set : Int → GlobalSettings → GlobalSettings)
    (value : String) (settings : GlobalSettings) : Except String GlobalSettings :=
  (parseInt value).elim (.error ("Invalid " ++ option ++ ": " ++ value)) fun number =>
    if number ≤ 0 then .error ("Invalid " ++ option ++ ": " ++ value)
    else .ok (set number settings)

/-- The options that take a value, in the order in which they are tried. -/
def globalOptions : List (String × Setter GlobalSettings) :=
  [("--base-url", fun value settings => .ok { settings with baseUrl := value }),
    ("--host", fun value settings => .ok { settings with host := value }),
    ("--port", setPort),
    ("--retries", setPositive "retries" fun times settings =>
      { settings with retries := times }),
    ("--retries-timeout", setPositive "retries-timeout" fun seconds settings =>
      { settings with retriesTimeout := seconds }),
    ("--timeout-ms", setPositive "timeout-ms" fun milliseconds settings =>
      { settings with timeoutMs := milliseconds })]

/-- The value of a flag, when the argument is the flag. -/
def consumeBoolFlag (name arg : String) : Option (Except String Bool) :=
  if arg = name then some (.ok true)
  else
    (arg.toList.dropPrefix? (name ++ "=").toList).map fun value =>
      let lower := String.ofList (value.map Char.toLower)
      if lower = "true" ∨ lower = "1" then .ok true
      else if lower = "false" ∨ lower = "0" then .ok false
      else .error ("Invalid boolean value for " ++ name)

/-- The flags, in the order in which they are tried. -/
def consumeGlobalFlag (arg : String) (settings : GlobalSettings) :
    Option (Except String GlobalSettings) :=
  ((consumeBoolFlag "--json" arg).map fun flag =>
    flag.map fun value => { settings with jsonOutput := value }).or
  ((consumeBoolFlag "--verbose" arg).map fun flag =>
    flag.map fun value => { settings with verbose := value })

/-- The loop over the arguments, with the option that waits for its value.  The first argument
that does not begin with a dash starts the command. -/
def parseGlobalLoop : List String → Option (String × Setter GlobalSettings) → GlobalSettings →
    Except String (GlobalSettings × List String)
  | [], none, settings => .ok (settings, [])
  | [], some (name, _), _ => .error ("Missing value for " ++ name)
  | arg :: args, some (_, set), settings => do
      let settings ← set arg settings
      parseGlobalLoop args none settings
  | arg :: args, none, settings =>
      if arg = "-h" ∨ arg = "--help" then
        parseGlobalLoop args none { settings with help := true }
      else
        match named arg globalOptions with
        | some (.next name set) => parseGlobalLoop args (some (name, set)) settings
        | some (.value text set) => do
            let settings ← set text settings
            parseGlobalLoop args none settings
        | none =>
            (consumeGlobalFlag arg settings).elim
              (if arg.toList.head? = some '-' then .error ("Unknown option: " ++ arg)
                else .ok (settings, arg :: args))
              fun flagged => do
                let settings ← flagged
                parseGlobalLoop args none settings

def parseGlobalOptions (environment : String → Option String) (args : List String) :
    Except String (GlobalSettings × List String) :=
  parseGlobalLoop args none (defaultGlobalOptions environment)

/-! ## Commands -/

/-- The commands that `HandleTasks` knows. -/
inductive TasksCommand
  | list
  | get
  | submit
  | cancel
  | logs
  deriving DecidableEq

def tasksCommand (sub : String) : Option TasksCommand :=
  if sub = "list" ∨ sub = "ls" then some .list
  else if sub = "get" ∨ sub = "show" then some .get
  else if sub = "submit" ∨ sub = "add" then some .submit
  else if sub = "cancel" ∨ sub = "rm" then some .cancel
  else if sub = "logs" ∨ sub = "log" then some .logs
  else none

/-- The command on tasks that the arguments after the global options ask for, with its own
arguments. -/
def requestedTasksCommand : List String → Option (TasksCommand × List String)
  | top :: sub :: args =>
      if top = "tasks" ∨ top = "task" then (tasksCommand sub).map (·, args) else none
  | _ => none

/-! ## Numbers -/

/-- The range of `int`. -/
def IsInt (value : Int) : Prop :=
  -2 ^ 31 ≤ value ∧ value < 2 ^ 31

/-- A number written with decimal digits and with or without a sign. -/
inductive Numeral : Int → String → Prop
  | plain {digits : List Char} (digit : digits ≠ []) (isDigit : ∀ char ∈ digits, char.isDigit) :
      Numeral (Nat.ofDigitChars 10 digits 0) (String.ofList digits)
  | plus {digits : List Char} (digit : digits ≠ []) (isDigit : ∀ char ∈ digits, char.isDigit) :
      Numeral (Nat.ofDigitChars 10 digits 0) (String.ofList ('+' :: digits))
  | minus {digits : List Char} (digit : digits ≠ []) (isDigit : ∀ char ∈ digits, char.isDigit) :
      Numeral (-Nat.ofDigitChars 10 digits 0) (String.ofList ('-' :: digits))

theorem numeral_toString (value : Int) : Numeral value (toString value) := by
  cases value with
  | ofNat number =>
      obtain ⟨first, rest, text⟩ := exists_decimalText number
      have written : toString (Int.ofNat number) = String.ofList (first :: rest) := by
        rw [← text.chars, String.ofList_toList]
        rfl
      have numeral := Numeral.plain (List.cons_ne_nil first rest) text.isDigit
      rwa [Nat.ofDigitChars_eq_foldl, text.value, ← written] at numeral
  | negSucc number =>
      obtain ⟨first, rest, text⟩ := exists_decimalText (number + 1)
      have written : toString (Int.negSucc number) = String.ofList ('-' :: first :: rest) := by
        rw [← text.chars, ← String.toList_inj, String.toList_ofList]
        exact String.toList_append
      have numeral := Numeral.minus (List.cons_ne_nil first rest) text.isDigit
      rwa [Nat.ofDigitChars_eq_foldl, text.value, ← written] at numeral

theorem isSpace_eq_isBlank (char : Char) : isSpace char = Strtol.isBlank Char.toNat char := by
  apply Bool.eq_iff_iff.mpr
  simp only [isSpace, Strtol.isBlank, decide_eq_true_eq, List.mem_cons, List.not_mem_nil, or_false,
    Bool.or_eq_true, Bool.and_eq_true, ← Char.toNat_inj]
  change char.toNat = 32 ∨ char.toNat = 9 ∨ char.toNat = 10 ∨ char.toNat = 11 ∨
    char.toNat = 12 ∨ char.toNat = 13 ↔ _
  omega

theorem isDigit_eq (char : Char) : char.isDigit = Strtol.isDigit Char.toNat char := by
  apply Bool.eq_iff_iff.mpr
  simp only [Char.isDigit, Strtol.isDigit, Bool.and_eq_true, decide_eq_true_eq, ge_iff_le,
    UInt32.le_iff_toNat_le]
  exact Iff.rfl

theorem saturate_signed (negative : Bool) (number : Nat) :
    Strtol.saturate (Strtol.signed negative number) =
      if negative then max (-(number : Int)) (-2 ^ 63) else min (number : Int) (2 ^ 63 - 1) := by
  unfold Strtol.saturate Strtol.signed
  split <;> omega

/-- `ParseInt` accepts what denotes an integer, and narrows it. -/
theorem parseInt_eq_some_iff {text : String} {number : Int} :
    parseInt text = some number ↔
      ∃ value, Strtol.Denotes Char.toNat text.toList value ∧
        number = toInt32 (Strtol.saturate value) := by
  have blanks : text.toList.dropWhile isSpace = Strtol.afterBlanks Char.toNat text.toList := by
    rw [Strtol.afterBlanks]
    exact congrArg (List.dropWhile · _) (funext isSpace_eq_isBlank)
  have digit : Char.isDigit = Strtol.isDigit Char.toNat := funext isDigit_eq
  unfold parseInt
  split
  rename_i negative digits same
  obtain ⟨rfl, rfl⟩ : negative = Strtol.isNegative Char.toNat text.toList ∧
      digits = Strtol.afterSign Char.toNat text.toList := by
    rw [Strtol.isNegative, Strtol.afterSign, ← blanks]
    split at same <;> obtain ⟨rfl, rfl⟩ := Prod.mk.inj same
    · rename_i rest front
      simp [front, Strtol.isSign, Strtol.isMinus]
    · rename_i rest front
      simp [front, Strtol.isSign, Strtol.isMinus]
    · rename_i notMinus notPlus
      cases front : text.toList.dropWhile isSpace with
      | nil => simp
      | cons first rest =>
          have minus : first.toNat ≠ '-'.toNat := fun code =>
            notMinus rest (by rw [front, Char.toNat_inj.mp code])
          have plus : first.toNat ≠ '+'.toNat := fun code =>
            notPlus rest (by rw [front, Char.toNat_inj.mp code])
          simp only [Char.reduceToNat] at minus plus
          simp [Strtol.isSign, Strtol.isMinus, minus, plus]
  have total : (Strtol.afterSign Char.toNat text.toList).foldl
      (fun (total : Int) digit => 10 * total + (digit.toNat - '0'.toNat : Nat)) 0 =
        Strtol.magnitude Char.toNat (Strtol.afterSign Char.toNat text.toList) :=
    List.foldl_hom (fun number : Nat => (number : Int)) (by intro total digit; simp)
  simp only [total, ← saturate_signed, digit]
  simp only [Strtol.denotes_iff, Strtol.digits]
  by_cases all : ∀ char ∈ Strtol.afterSign Char.toNat text.toList,
      Strtol.isDigit Char.toNat char = true
  · rw [List.takeWhile_eq_self_iff.mpr all, List.dropWhile_eq_nil_iff.mpr all,
      List.all_eq_true.mpr all]
    by_cases nonempty : Strtol.afterSign Char.toNat text.toList = []
    · simp [nonempty]
    · simp [nonempty, eq_comm]
  · rw [if_neg fun accepted => all (List.all_eq_true.mp accepted.2)]
    apply iff_of_false (Option.some_ne_none number).symm
    rintro ⟨value, ⟨-, atEnd, -⟩, -⟩
    exact all (List.dropWhile_eq_nil_iff.mp atEnd)

theorem saturate_of_isInt {value : Int} (isInt : IsInt value) : Strtol.saturate value = value := by
  obtain ⟨low, high⟩ := isInt
  unfold Strtol.saturate
  omega

theorem Numeral.denotes {value : Int} {text : String} (numeral : Numeral value text) :
    Strtol.Denotes Char.toNat text.toList value := by
  have digit : ∀ {digits : List Char}, (∀ char ∈ digits, char.isDigit = true) →
      ∀ char ∈ digits, Strtol.isDigit Char.toNat char = true := by
    intro digits isDigit char member
    rw [← isDigit_eq]
    exact isDigit char member
  have noBlanks : ∀ char ∈ ([] : List Char), Strtol.isBlank Char.toNat char = true := nofun
  cases numeral with
  | plain nonempty isDigit =>
      rw [String.toList_ofList, Nat.ofDigitChars_eq_foldl]
      exact .intro noBlanks .absent nonempty (digit isDigit)
  | plus nonempty isDigit =>
      rw [String.toList_ofList, Nat.ofDigitChars_eq_foldl]
      exact .intro noBlanks (.plus rfl) nonempty (digit isDigit)
  | minus nonempty isDigit =>
      rw [String.toList_ofList, Nat.ofDigitChars_eq_foldl]
      exact .intro noBlanks (.minus rfl) nonempty (digit isDigit)

/-- `strtol` reads a number of the range of `int` as it is written. -/
theorem parseInt_of_numeral {value : Int} {text : String} (numeral : Numeral value text)
    (isInt : IsInt value) : parseInt text = some value := by
  refine parseInt_eq_some_iff.mpr ⟨value, numeral.denotes, ?_⟩
  rw [saturate_of_isInt isInt, toInt32_of_bounds isInt.1 isInt.2]

/-! ## Written options -/

/-- A global option with what it gives. -/
inductive GlobalOption
  | baseUrl (url : String)
  | host (name : String)
  | port (number : Int)
  | timeoutMs (milliseconds : Int)
  | retries (times : Int)
  | retriesTimeout (seconds : Int)
  | json (value : Bool)
  | verbose (value : Bool)
  | help

/-- The arguments that give a number of the range of `int` to an option. -/
def WritesInt (name : String) (value : Int) (pieces : List String) : Prop :=
  IsInt value ∧ ∃ text, Numeral value text ∧ Writes name text pieces

/-- The texts of a truth value, in any case. -/
def FlagText (value : Bool) (text : String) : Prop :=
  let lower := String.ofList (text.toList.map Char.toLower)
  if value then lower = "true" ∨ lower = "1" else lower = "false" ∨ lower = "0"

/-- The arguments that give a truth value to a flag. -/
def WritesFlag (name : String) (value : Bool) (pieces : List String) : Prop :=
  value = true ∧ pieces = [name] ∨ ∃ text, FlagText value text ∧ pieces = [name ++ "=" ++ text]

/-- The arguments that write a well-formed global option. -/
def GlobalOption.Writes : GlobalOption → List String → Prop
  | .baseUrl url, pieces => OptionArguments.Writes "--base-url" url pieces
  | .host name, pieces => OptionArguments.Writes "--host" name pieces
  | .port number, pieces => WritesInt "--port" number pieces
  | .timeoutMs milliseconds, pieces =>
      0 < milliseconds ∧ WritesInt "--timeout-ms" milliseconds pieces
  | .retries times, pieces => 0 < times ∧ WritesInt "--retries" times pieces
  | .retriesTimeout seconds, pieces => 0 < seconds ∧ WritesInt "--retries-timeout" seconds pieces
  | .json value, pieces => WritesFlag "--json" value pieces
  | .verbose value, pieces => WritesFlag "--verbose" value pieces
  | .help, pieces => pieces = ["-h"] ∨ pieces = ["--help"]

namespace GlobalOption

def baseUrl? : GlobalOption → Option String
  | .baseUrl url => some url
  | _ => none

def host? : GlobalOption → Option String
  | .host name => some name
  | _ => none

def port? : GlobalOption → Option Int
  | .port number => some number
  | _ => none

def timeoutMs? : GlobalOption → Option Int
  | .timeoutMs milliseconds => some milliseconds
  | _ => none

def retries? : GlobalOption → Option Int
  | .retries times => some times
  | _ => none

def retriesTimeout? : GlobalOption → Option Int
  | .retriesTimeout seconds => some seconds
  | _ => none

def json? : GlobalOption → Option Bool
  | .json value => some value
  | _ => none

def verbose? : GlobalOption → Option Bool
  | .verbose value => some value
  | _ => none

def help? : GlobalOption → Option Bool
  | .help => some true
  | _ => none

end GlobalOption

/-- The settings that a list of options makes of the defaults: what each gave last. -/
def GlobalSettings.given (defaults : GlobalSettings) (globals : List GlobalOption) :
    GlobalSettings where
  baseUrl := (globals.filterMap GlobalOption.baseUrl?).getLastD defaults.baseUrl
  host := (globals.filterMap GlobalOption.host?).getLastD defaults.host
  port := (globals.filterMap GlobalOption.port?).getLastD defaults.port
  timeoutMs := (globals.filterMap GlobalOption.timeoutMs?).getLastD defaults.timeoutMs
  retries := (globals.filterMap GlobalOption.retries?).getLastD defaults.retries
  retriesTimeout :=
    (globals.filterMap GlobalOption.retriesTimeout?).getLastD defaults.retriesTimeout
  jsonOutput := (globals.filterMap GlobalOption.json?).getLastD defaults.jsonOutput
  verbose := (globals.filterMap GlobalOption.verbose?).getLastD defaults.verbose
  help := (globals.filterMap GlobalOption.help?).getLastD defaults.help

/-- What one option changes. -/
def GlobalSettings.apply (settings : GlobalSettings) : GlobalOption → GlobalSettings
  | .baseUrl url => { settings with baseUrl := url }
  | .host name => { settings with host := name }
  | .port number => { settings with port := number }
  | .timeoutMs milliseconds => { settings with timeoutMs := milliseconds }
  | .retries times => { settings with retries := times }
  | .retriesTimeout seconds => { settings with retriesTimeout := seconds }
  | .json value => { settings with jsonOutput := value }
  | .verbose value => { settings with verbose := value }
  | .help => { settings with help := true }

theorem GlobalSettings.foldl_apply (globals : List GlobalOption) (defaults : GlobalSettings) :
    globals.foldl GlobalSettings.apply defaults = defaults.given globals := by
  have last {Field : Type} (field : GlobalSettings → Field) (part : GlobalOption → Option Field)
      (step : ∀ settings option,
        field (settings.apply option) = (part option).getD (field settings)) :=
    foldl_last_field field part step globals defaults
  apply GlobalSettings.ext
  · apply last (·.baseUrl) GlobalOption.baseUrl?
    intro settings option
    cases option <;> rfl
  · apply last (·.host) GlobalOption.host?
    intro settings option
    cases option <;> rfl
  · apply last (·.port) GlobalOption.port?
    intro settings option
    cases option <;> rfl
  · apply last (·.timeoutMs) GlobalOption.timeoutMs?
    intro settings option
    cases option <;> rfl
  · apply last (·.retries) GlobalOption.retries?
    intro settings option
    cases option <;> rfl
  · apply last (·.retriesTimeout) GlobalOption.retriesTimeout?
    intro settings option
    cases option <;> rfl
  · apply last (·.jsonOutput) GlobalOption.json?
    intro settings option
    cases option <;> rfl
  · apply last (·.verbose) GlobalOption.verbose?
    intro settings option
    cases option <;> rfl
  · apply last (·.help) GlobalOption.help?
    intro settings option
    cases option <;> rfl

/-! ## Reading written options -/

theorem distinct_globalOptions : Distinct globalOptions where
  nodup := by decide
  bare := by decide

theorem globalLoop_writes {name text : String} {set : Setter GlobalSettings}
    {pieces : List String} {settings after : GlobalSettings}
    (member : (name, set) ∈ globalOptions) (writes : OptionArguments.Writes name text pieces)
    (applied : set text settings = .ok after) (args : List String) :
    parseGlobalLoop (pieces ++ args) none settings = parseGlobalLoop args none after := by
  have notHelp : ∀ option ∈ globalOptions, option.1 ≠ "-h" ∧ option.1 ≠ "--help" := by decide
  obtain ⟨notShort, notLong⟩ := notHelp _ member
  rcases writes with rfl | rfl
  · change (if name = "-h" ∨ name = "--help" then _ else _) = _
    rw [if_neg (not_or_intro notShort notLong), named_name distinct_globalOptions member]
    change (set text settings).bind (parseGlobalLoop args none) = _
    rw [applied]
    rfl
  · change (if name ++ "=" ++ text = "-h" ∨ name ++ "=" ++ text = "--help" then _ else _) = _
    rw [if_neg (not_or_intro (joined_ne (by decide) name text) (joined_ne (by decide) name text)),
      named_joined distinct_globalOptions member]
    change (set text settings).bind (parseGlobalLoop args none) = _
    rw [applied]
    rfl

theorem globalLoop_writesPositive {name option : String} {number : Int}
    {set : Int → GlobalSettings → GlobalSettings} {pieces : List String}
    {settings : GlobalSettings} (member : (name, setPositive option set) ∈ globalOptions)
    (writes : 0 < number ∧ WritesInt name number pieces) (args : List String) :
    parseGlobalLoop (pieces ++ args) none settings =
      parseGlobalLoop args none (set number settings) := by
  obtain ⟨positive, isInt, text, numeral, writes⟩ := writes
  apply globalLoop_writes member writes
  unfold setPositive
  rw [parseInt_of_numeral numeral isInt, Option.elim_some, if_neg (by omega)]

theorem consumeBoolFlag_joined {name text : String} {value : Bool} (flagText : FlagText value text)
    (different : name ++ "=" ++ text ≠ name) :
    consumeBoolFlag name (name ++ "=" ++ text) = some (.ok value) := by
  unfold consumeBoolFlag
  rw [if_neg different, dropPrefix?_joined, Option.map_some]
  cases value with
  | true => exact congrArg some (if_pos flagText)
  | false =>
      have lower : String.ofList (text.toList.map Char.toLower) = "false" ∨
          String.ofList (text.toList.map Char.toLower) = "0" := flagText
      rcases lower with lower | lower <;> simp [lower]

theorem consumeBoolFlag_other {name other : String} (different : name ≠ other)
    (bare : '=' ∉ name.toList) (otherBare : '=' ∉ other.toList) :
    consumeBoolFlag name other = none ∧
      ∀ text, consumeBoolFlag name (other ++ "=" ++ text) = none := by
  constructor
  · unfold consumeBoolFlag
    rw [if_neg different.symm, dropPrefix?_of_bare otherBare, Option.map_none]
  · intro text
    unfold consumeBoolFlag
    rw [if_neg (joined_ne bare other text), dropPrefix?_of_ne different otherBare bare,
      Option.map_none]

/-- An argument that is a flag reaches the flags. -/
theorem globalLoop_flag {arg : String} {settings after : GlobalSettings}
    (notHelp : ¬(arg = "-h" ∨ arg = "--help")) (unnamed : named arg globalOptions = none)
    (flag : consumeGlobalFlag arg settings = some (.ok after)) (args : List String) :
    parseGlobalLoop (arg :: args) none settings = parseGlobalLoop args none after := by
  change (if arg = "-h" ∨ arg = "--help" then _ else _) = _
  rw [if_neg notHelp, unnamed, flag]
  rfl

/-- What the flags make of the arguments that write one of them. -/
theorem globalLoop_writesFlag {name : String} {value : Bool} {pieces : List String}
    {settings : GlobalSettings} {set : Bool → GlobalSettings}
    (listed : name = "--json" ∧ set = (fun value => { settings with jsonOutput := value }) ∨
      name = "--verbose" ∧ set = fun value => { settings with verbose := value })
    (writes : WritesFlag name value pieces) (args : List String) :
    parseGlobalLoop (pieces ++ args) none settings = parseGlobalLoop args none (set value) := by
  have bare : '=' ∉ name.toList := by
    rcases listed with ⟨rfl, -⟩ | ⟨rfl, -⟩ <;> decide
  have unnamed := named_other distinct_globalOptions bare
    (by rcases listed with ⟨rfl, -⟩ | ⟨rfl, -⟩ <;> decide)
  rcases writes with ⟨rfl, rfl⟩ | ⟨text, flagText, rfl⟩
  · apply globalLoop_flag _ unnamed.1
    · rcases listed with ⟨rfl, rfl⟩ | ⟨rfl, rfl⟩ <;> rfl
    · rcases listed with ⟨rfl, -⟩ | ⟨rfl, -⟩ <;> decide
  · apply globalLoop_flag _ (unnamed.2 text)
    · have flag := consumeBoolFlag_joined flagText (joined_ne bare name text)
      rcases listed with ⟨rfl, rfl⟩ | ⟨rfl, rfl⟩
      · rw [consumeGlobalFlag, flag]
        rfl
      · have other : consumeBoolFlag "--json" ("--verbose" ++ "=" ++ text) = none :=
          (consumeBoolFlag_other (by decide) (by decide) (by decide)).2 text
        rw [consumeGlobalFlag, other, flag]
        rfl
    · exact not_or_intro (joined_ne (by decide) name text) (joined_ne (by decide) name text)

/-- The loop reads the arguments that write one option. -/
theorem globalLoop_option {option : GlobalOption} {pieces : List String}
    (writes : option.Writes pieces) (args : List String) (settings : GlobalSettings) :
    parseGlobalLoop (pieces ++ args) none settings =
      parseGlobalLoop args none (settings.apply option) := by
  cases option with
  | baseUrl url =>
      exact globalLoop_writes (List.mem_of_getElem? (i := 0) rfl) writes rfl args
  | host name =>
      exact globalLoop_writes (List.mem_of_getElem? (i := 1) rfl) writes rfl args
  | port number =>
      obtain ⟨isInt, text, numeral, writes⟩ := writes
      have applied : setPort text settings = .ok { settings with port := number } := by
        rw [setPort, parseInt_of_numeral numeral isInt, Option.elim_some]
      exact globalLoop_writes (List.mem_of_getElem? (i := 2) rfl) writes applied args
  | timeoutMs milliseconds =>
      exact globalLoop_writesPositive (List.mem_of_getElem? (i := 5) rfl) writes args
  | retries times =>
      exact globalLoop_writesPositive (List.mem_of_getElem? (i := 3) rfl) writes args
  | retriesTimeout seconds =>
      exact globalLoop_writesPositive (List.mem_of_getElem? (i := 4) rfl) writes args
  | json value => exact globalLoop_writesFlag (.inl ⟨rfl, rfl⟩) writes args
  | verbose value => exact globalLoop_writesFlag (.inr ⟨rfl, rfl⟩) writes args
  | help => rcases writes with rfl | rfl <;> rfl

/-- The loop stops at the first word, and leaves it with all that follows. -/
theorem globalLoop_word {word : String} (bare : word.toList.head? ≠ some '-')
    (args : List String) (settings : GlobalSettings) :
    parseGlobalLoop (word :: args) none settings = .ok (settings, word :: args) := by
  have unnamed : named word globalOptions = none := by
    apply named_none
    intro option member
    have dashed : ∀ option ∈ globalOptions, option.1.toList.head? = some '-' := by decide
    exact dropPrefix?_of_word bare (dashed option member)
  have unflagged {name : String} (dashed : name.toList.head? = some '-') :
      consumeBoolFlag name word = none := by
    obtain ⟨different, other⟩ := dropPrefix?_of_word bare dashed
    rw [consumeBoolFlag, if_neg different, other, Option.map_none]
  have notHelp : ¬(word = "-h" ∨ word = "--help") := by
    rintro (rfl | rfl) <;> exact bare rfl
  change (if word = "-h" ∨ word = "--help" then _ else _) = _
  rw [if_neg notHelp, unnamed]
  have noFlag : consumeGlobalFlag word settings = none := by
    unfold consumeGlobalFlag
    rw [unflagged (by decide), unflagged (by decide)]
    rfl
  rw [noFlag, Option.elim_none, if_neg bare]

/-- The global options that stand before a command set what each of them gives last, and the
command is left as it is. -/
theorem parseGlobalOptions_of_renders (environment : String → Option String)
    {globals : List GlobalOption} {args : List String}
    (renders : Renders GlobalOption.Writes globals args) {word : String}
    (bare : word.toList.head? ≠ some '-') (rest : List String) :
    parseGlobalOptions environment (args ++ word :: rest) =
      .ok ((defaultGlobalOptions environment).given globals, word :: rest) := by
  have run := renders.run (parseGlobalLoop · none) GlobalSettings.apply
    (fun option _ pieces args settings writes => globalLoop_option writes args settings)
    (word :: rest) (defaultGlobalOptions environment)
  rw [parseGlobalOptions, run, globalLoop_word bare, GlobalSettings.foldl_apply]

end Cli

end DistributedComputing
