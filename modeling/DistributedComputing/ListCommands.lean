import DistributedComputing.ClientRequests
import DistributedComputing.GlobalOptions
import DistributedComputing.TaskPages
import DistributedComputing.UploadLimits

/-!
# The commands that list

What `tasks list` and `agents list` ask for, from their arguments over the request to the call of
the broker: the filter and the page that were written are the ones that the broker gets.
-/

namespace DistributedComputing

open Httplib OptionArguments

namespace Cli

/-! ## Arguments -/

/-- The loop of a command that takes options only, with the option that waits for its value. -/
def parseListLoop {Settings : Type} (options : List (String × Setter Settings)) :
    List String → Option (String × Setter Settings) → Settings → Except String Settings
  | [], none, settings => .ok settings
  | [], some (name, _), _ => .error ("Missing value for " ++ name)
  | arg :: args, some (_, set), settings => do
      let settings ← set arg settings
      parseListLoop options args none settings
  | arg :: args, none, settings =>
      match named arg options with
      | some (.next name set) => parseListLoop options args (some (name, set)) settings
      | some (.value text set) => do
          let settings ← set text settings
          parseListLoop options args none settings
      | none =>
          if arg.toList.head? = some '-' then .error ("Unknown option: " ++ arg)
          else .error ("Unexpected argument: " ++ arg)

/-- What the options of both commands set. -/
@[ext]
structure Page where
  limit : Int := 50
  offset : Int := 0

@[ext]
structure TasksListing extends Page where
  state : Option String := none
  agentId : Option String := none

@[ext]
structure AgentsListing extends Page where
  status : Option String := none

/-- An option that takes a number. -/
def setInt {Settings : Type} (option : String) (set : Int → Settings → Settings)
    (value : String) (settings : Settings) : Except String Settings :=
  (parseInt value).elim (.error ("Invalid " ++ option ++ ": " ++ value))
    fun number => .ok (set number settings)

def tasksListOptions : List (String × Setter TasksListing) :=
  [("--state", fun value listing => .ok { listing with state := some value }),
    ("--agent-id", fun value listing => .ok { listing with agentId := some value }),
    ("--limit", setInt "limit" fun number listing => { listing with limit := number }),
    ("--offset", setInt "offset" fun number listing => { listing with offset := number })]

def agentsListOptions : List (String × Setter AgentsListing) :=
  [("--status", fun value listing => .ok { listing with status := some value }),
    ("--limit", setInt "limit" fun number listing => { listing with limit := number }),
    ("--offset", setInt "offset" fun number listing => { listing with offset := number })]

def parseTasksList (args : List String) : Except String TasksListing :=
  parseListLoop tasksListOptions args none {}

def parseAgentsList (args : List String) : Except String AgentsListing :=
  parseListLoop agentsListOptions args none {}

/-- The request of `HandleTasksList`. -/
def TasksListing.request (listing : TasksListing) : ClientRequest :=
  .tasksList (listing.state.map utf8) (listing.agentId.map utf8) listing.limit listing.offset

/-- The request of `HandleAgentsList`. -/
def AgentsListing.request (listing : AgentsListing) : ClientRequest :=
  .agentsList (listing.status.map utf8) listing.limit listing.offset

end Cli

/-! ## Calls of handlers -/

/-- `GetQueryParam`. -/
def Call.getQueryParam (call : Call) (name : String) : Option ByteArray :=
  (call.params.find (ascii name)).map fun value => ⟨value.toArray⟩

/-- What a handler reads from a request. -/
def Call.request (call : Call) (body : ByteArray) : HttpRequest :=
  let id : ByteArray := ⟨call.id.toArray⟩
  let param := call.getQueryParam
  match call.endpoint with
  | .upsertAgent => .upsertAgent id body
  | .agentHeartbeat => .agentHeartbeat id body
  | .pollTasks => .pollTasks id body
  | .createTask => .createTask body
  | .getTask => .getTask id
  | .listTasks => .listTasks (param "state") (param "agent_id") (param "limit") (param "offset")
  | .updateTaskStatus => .updateTaskStatus id body
  | .cancelTask => .cancelTask id
  | .getAgent => .getAgent id
  | .listAgents => .listAgents (param "status") (param "limit") (param "offset")
  | .getLogs => .getLogs id (param "stream")
  | .tailLogs => .tailLogs id (param "stream") (param "from")
  | .uploadLogs => .uploadLogs id body

/-! ## Numbers -/

/-- Every number of the range of `int` is read back. -/
theorem stoi_toString_int {number : Int} (isInt : Cli.IsInt number) :
    ControlService.stoi (toString number) = some number := by
  obtain ⟨low, high⟩ := isInt
  cases number with
  | ofNat number =>
      have bound : number < 2 ^ 31 := Int.ofNat_lt.mp high
      exact (stoi_toString number).trans (if_pos bound)
  | negSucc number =>
      obtain ⟨first, rest, text⟩ := exists_decimalText (number + 1)
      have chars : (toString (Int.negSucc number)).toList = '-' :: first :: rest := by
        rw [← text.chars]
        exact String.toList_append
      have value := text.foldl_int
      have notSpace : ('-' :: first :: rest).dropWhile isSpace = '-' :: first :: rest :=
        List.dropWhile_cons_of_neg (by decide)
      unfold ControlService.stoi
      simp only [chars, notSpace, text.takeWhile_isDigit, value, if_true]
      rw [if_pos ⟨List.cons_ne_nil first rest, by omega, by omega⟩, Option.some_inj]
      omega

namespace Cli

section Loop

variable {Settings Setting : Type} {options : List (String × Setter Settings)}
  {Gives : String → String → Setting → Prop} {apply : Settings → Setting → Settings}

/-- The arguments that give a setting to an option of the table. -/
def Piece (options : List (String × Setter Settings)) (Gives : String → String → Setting → Prop)
    (setting : Setting) (pieces : List String) : Prop :=
  ∃ option ∈ options, ∃ text, Gives option.1 text setting ∧
    OptionArguments.Writes option.1 text pieces

/-- An option accepts the texts that give a setting, and applies the setting. -/
def Reads (options : List (String × Setter Settings)) (Gives : String → String → Setting → Prop)
    (apply : Settings → Setting → Settings) : Prop :=
  ∀ option ∈ options, ∀ text before after, option.2 text before = .ok after ↔
    ∃ setting, Gives option.1 text setting ∧ after = apply before setting

/-- What the loop accepts is written piece by piece, after the value that an option waits for. -/
theorem renders_of_parseListLoop (reads : Reads options Gives apply) {args : List String}
    {pending : Option (String × Setter Settings)} {before after : Settings}
    (parsed : parseListLoop options args pending before = .ok after) :
    (pending = none → ∃ settings, Renders (Piece options Gives) settings args ∧
      after = settings.foldl apply before) ∧
    ∀ option ∈ options, pending = some option → ∃ text rest setting settings,
      args = text :: rest ∧ Gives option.1 text setting ∧
        Renders (Piece options Gives) settings rest ∧
        after = settings.foldl apply (apply before setting) := by
  induction args generalizing pending before with
  | nil =>
      cases pending with
      | some option => cases parsed
      | none =>
          cases parsed
          exact ⟨fun _ => ⟨[], .nil, rfl⟩, fun _ _ => nofun⟩
  | cons arg args ih =>
      cases pending with
      | some waiting =>
          refine ⟨nofun, ?_⟩
          rintro option member ⟨⟩
          cases set : waiting.2 arg before with
          | error message =>
              simp only [parseListLoop, set] at parsed
              cases parsed
          | ok between =>
              simp only [parseListLoop, set] at parsed
              obtain ⟨setting, gives, rfl⟩ := (reads waiting member arg before between).mp set
              obtain ⟨settings, renders, rfl⟩ := (ih parsed).1 rfl
              exact ⟨arg, args, setting, settings, rfl, gives, renders, rfl⟩
      | none =>
          refine ⟨fun _ => ?_, fun _ _ => nofun⟩
          unfold parseListLoop at parsed
          cases isNamed : named arg options with
          | none =>
              rw [isNamed] at parsed
              dsimp only at parsed
              split at parsed <;> cases parsed
          | some found =>
              rw [isNamed] at parsed
              obtain ⟨option, member, ⟨rfl, rfl⟩ | ⟨text, rfl, rfl⟩⟩ := exists_of_named isNamed
              · obtain ⟨text, rest, setting, settings, rfl, gives, renders, rfl⟩ :=
                  (ih parsed).2 option member rfl
                exact ⟨setting :: settings,
                  .cons ⟨option, member, text, gives, .inl rfl⟩ renders, rfl⟩
              · cases set : option.2 text before with
                | error message =>
                    simp only [set] at parsed
                    cases parsed
                | ok between =>
                    simp only [set] at parsed
                    obtain ⟨setting, gives, rfl⟩ := (reads option member text before between).mp set
                    obtain ⟨settings, renders, rfl⟩ := (ih parsed).1 rfl
                    exact ⟨setting :: settings,
                      .cons ⟨option, member, text, gives, .inr rfl⟩ renders, rfl⟩

/-- The loop accepts what is written piece by piece, and applies the settings in their order. -/
theorem parseListLoop_eq_ok_iff (distinct : Distinct options) (reads : Reads options Gives apply)
    {args : List String} {before after : Settings} :
    parseListLoop options args none before = .ok after ↔
      ∃ settings, Renders (Piece options Gives) settings args ∧
        after = settings.foldl apply before := by
  constructor
  · exact fun parsed => (renders_of_parseListLoop reads parsed).1 rfl
  · rintro ⟨settings, renders, rfl⟩
    have step : ∀ setting ∈ settings, ∀ pieces rest state, Piece options Gives setting pieces →
        parseListLoop options (pieces ++ rest) none state =
          parseListLoop options rest none (apply state setting) := by
      rintro setting _ pieces rest state ⟨option, member, text, gives, rfl | rfl⟩
      · have set := (reads option member text state _).mpr ⟨setting, gives, rfl⟩
        simp only [List.cons_append, List.nil_append, parseListLoop, named_name distinct member,
          set]
        rfl
      · have set := (reads option member text state _).mpr ⟨setting, gives, rfl⟩
        simp only [List.cons_append, List.nil_append, parseListLoop,
          named_joined distinct member text, set]
        rfl
    have whole := renders.run (fun args state => parseListLoop options args none state) apply step
      [] before
    rwa [List.append_nil] at whole

end Loop

/-- An option of the two commands with what it gives. -/
inductive ListOption
  | state (text : String)
  | agentId (text : String)
  | status (text : String)
  | limit (number : Int)
  | offset (number : Int)

namespace ListOption

/-- The text that gives a setting to an option; that of a number may begin with blanks and a
sign. -/
def GivenBy : ListOption → String → String → Prop
  | .state text, name, value => name = "--state" ∧ value = text
  | .agentId text, name, value => name = "--agent-id" ∧ value = text
  | .status text, name, value => name = "--status" ∧ value = text
  | .limit number, name, value => name = "--limit" ∧ Strtol.Denotes Char.toNat value.toList number
  | .offset number, name, value =>
      name = "--offset" ∧ Strtol.Denotes Char.toNat value.toList number

def Gives (name text : String) (setting : ListOption) : Prop :=
  setting.GivenBy name text

def state? : ListOption → Option String
  | .state text => some text
  | _ => none

def agentId? : ListOption → Option String
  | .agentId text => some text
  | _ => none

def status? : ListOption → Option String
  | .status text => some text
  | _ => none

def limit? : ListOption → Option Int
  | .limit number => some number
  | _ => none

def offset? : ListOption → Option Int
  | .offset number => some number
  | _ => none

/-- A number that is written is one of `int`. -/
def InRange : ListOption → Prop
  | .limit number => IsInt number
  | .offset number => IsInt number
  | _ => True

end ListOption

/-- The `int` that `ParseInt` makes of a written number. -/
def narrowed (number : Int) : Int :=
  toInt32 (Strtol.saturate number)

theorem narrowed_of_isInt {number : Int} (isInt : IsInt number) : narrowed number = number := by
  rw [narrowed, saturate_of_isInt isInt, toInt32_of_bounds isInt.1 isInt.2]

theorem setInt_eq_ok_iff {Settings : Type} {option value : String}
    {set : Int → Settings → Settings} {before after : Settings} :
    setInt option set value before = .ok after ↔
      ∃ number, Strtol.Denotes Char.toNat value.toList number ∧
        after = set (narrowed number) before := by
  unfold setInt
  constructor
  · intro isSet
    cases parsed : parseInt value with
    | none =>
        rw [parsed] at isSet
        cases isSet
    | some number =>
        obtain ⟨written, denotes, rfl⟩ := parseInt_eq_some_iff.mp parsed
        rw [parsed] at isSet
        cases isSet
        exact ⟨written, denotes, rfl⟩
  · rintro ⟨number, denotes, rfl⟩
    rw [parseInt_eq_some_iff.mpr ⟨number, denotes, rfl⟩]
    rfl

def TasksListing.apply (listing : TasksListing) : ListOption → TasksListing
  | .state text => { listing with state := some text }
  | .agentId text => { listing with agentId := some text }
  | .status _ => listing
  | .limit number => { listing with limit := narrowed number }
  | .offset number => { listing with offset := narrowed number }

def AgentsListing.apply (listing : AgentsListing) : ListOption → AgentsListing
  | .status text => { listing with status := some text }
  | .limit number => { listing with limit := narrowed number }
  | .offset number => { listing with offset := narrowed number }
  | _ => listing

theorem distinct_tasksListOptions : Distinct tasksListOptions where
  nodup := by decide
  bare := by simp [tasksListOptions]

theorem distinct_agentsListOptions : Distinct agentsListOptions where
  nodup := by decide
  bare := by simp [agentsListOptions]

section Given

variable {text : String} {setting : ListOption}

theorem gives_state_iff : ListOption.Gives "--state" text setting ↔ setting = .state text := by
  cases setting <;> simp [ListOption.Gives, ListOption.GivenBy, eq_comm]

theorem gives_agentId_iff :
    ListOption.Gives "--agent-id" text setting ↔ setting = .agentId text := by
  cases setting <;> simp [ListOption.Gives, ListOption.GivenBy, eq_comm]

theorem gives_status_iff : ListOption.Gives "--status" text setting ↔ setting = .status text := by
  cases setting <;> simp [ListOption.Gives, ListOption.GivenBy, eq_comm]

theorem gives_limit_iff :
    ListOption.Gives "--limit" text setting ↔
      ∃ number, Strtol.Denotes Char.toNat text.toList number ∧ setting = .limit number := by
  cases setting <;> simp [ListOption.Gives, ListOption.GivenBy]

theorem gives_offset_iff :
    ListOption.Gives "--offset" text setting ↔
      ∃ number, Strtol.Denotes Char.toNat text.toList number ∧ setting = .offset number := by
  cases setting <;> simp [ListOption.Gives, ListOption.GivenBy]

end Given

/-- An option that takes a text reads the one setting that the text gives. -/
theorem setText_reads {Settings : Type} {name text : String} {made : ListOption}
    {apply : Settings → ListOption → Settings} {before next after : Settings}
    (gives : ∀ setting, ListOption.Gives name text setting ↔ setting = made)
    (applies : apply before made = next) :
    (.ok next : Except String Settings) = .ok after ↔
      ∃ setting, ListOption.Gives name text setting ∧ after = apply before setting := by
  constructor
  · rintro ⟨⟩
    exact ⟨made, (gives made).mpr rfl, applies.symm⟩
  · rintro ⟨setting, isGiven, rfl⟩
    rw [(gives setting).mp isGiven, applies]

/-- An option that takes a number reads the settings that numbers give. -/
theorem setInt_reads {Settings : Type} {option name text : String}
    {set : Int → Settings → Settings} {apply : Settings → ListOption → Settings}
    {make : Int → ListOption}
    (gives : ∀ setting, ListOption.Gives name text setting ↔
      ∃ number, Strtol.Denotes Char.toNat text.toList number ∧ setting = make number)
    (applies : ∀ before number, apply before (make number) = set (narrowed number) before)
    (before after : Settings) :
    setInt option set text before = .ok after ↔
      ∃ setting, ListOption.Gives name text setting ∧ after = apply before setting := by
  rw [setInt_eq_ok_iff]
  constructor
  · rintro ⟨number, denotes, rfl⟩
    exact ⟨make number, (gives _).mpr ⟨number, denotes, rfl⟩, (applies before number).symm⟩
  · rintro ⟨setting, isGiven, rfl⟩
    obtain ⟨number, denotes, rfl⟩ := (gives setting).mp isGiven
    exact ⟨number, denotes, applies before number⟩

theorem reads_tasksListOptions :
    Reads tasksListOptions ListOption.Gives TasksListing.apply := by
  intro option member text before after
  simp only [tasksListOptions, List.mem_cons, List.not_mem_nil, or_false] at member
  rcases member with rfl | rfl | rfl | rfl <;> dsimp only
  · exact setText_reads (fun _ => gives_state_iff) (by rfl)
  · exact setText_reads (fun _ => gives_agentId_iff) (by rfl)
  · exact setInt_reads (fun _ => gives_limit_iff) (fun _ _ => by rfl) before after
  · exact setInt_reads (fun _ => gives_offset_iff) (fun _ _ => by rfl) before after

theorem reads_agentsListOptions :
    Reads agentsListOptions ListOption.Gives AgentsListing.apply := by
  intro option member text before after
  simp only [agentsListOptions, List.mem_cons, List.not_mem_nil, or_false] at member
  rcases member with rfl | rfl | rfl <;> dsimp only
  · exact setText_reads (fun _ => gives_status_iff) (by rfl)
  · exact setInt_reads (fun _ => gives_limit_iff) (fun _ _ => by rfl) before after
  · exact setInt_reads (fun _ => gives_offset_iff) (fun _ _ => by rfl) before after

/-- What is asked for: of the options of one kind the last counts. -/
def askedPage (options : List ListOption) : Page where
  limit := (options.filterMap ListOption.limit?).getLastD 50
  offset := (options.filterMap ListOption.offset?).getLastD 0

def askedTasks (options : List ListOption) : TasksListing where
  toPage := askedPage options
  state := (options.filterMap ListOption.state?).getLast?
  agentId := (options.filterMap ListOption.agentId?).getLast?

def askedAgents (options : List ListOption) : AgentsListing where
  toPage := askedPage options
  status := (options.filterMap ListOption.status?).getLast?

theorem ListOption.InRange.limit_isInt {option : ListOption} (inRange : option.InRange) :
    ∀ number ∈ option.limit?, IsInt number := by
  cases option with
  | limit number =>
      rintro _ ⟨⟩
      exact inRange
  | _ => nofun

theorem ListOption.InRange.offset_isInt {option : ListOption} (inRange : option.InRange) :
    ∀ number ∈ option.offset?, IsInt number := by
  cases option with
  | offset number =>
      rintro _ ⟨⟩
      exact inRange
  | _ => nofun

/-- A number of a page after all options. -/
theorem foldl_number {Settings : Type} {apply : Settings → ListOption → Settings}
    {options : List ListOption} {part : ListOption → Option Int} (field : Settings → Int)
    (isInt : ∀ option ∈ options, ∀ number ∈ part option, IsInt number)
    (step : ∀ settings option,
      field (apply settings option) = ((part option).map narrowed).getD (field settings))
    (settings : Settings) :
    field (options.foldl apply settings) = (options.filterMap part).getLastD (field settings) := by
  rw [foldl_last_field field _ step]
  congr 1
  apply List.filterMap_congr
  intro option member
  cases found : part option with
  | none => rfl
  | some number => exact congrArg some (narrowed_of_isInt (isInt option member number found))

/-- A filter after all options. -/
theorem foldl_filter {Settings : Type} {apply : Settings → ListOption → Settings}
    {options : List ListOption} {part : ListOption → Option String}
    (field : Settings → Option String)
    (step : ∀ settings option, field (apply settings option) = (part option).or (field settings))
    {settings : Settings} (initial : field settings = none) :
    field (options.foldl apply settings) = (options.filterMap part).getLast? := by
  rw [foldl_last_field field fun option => (part option).map some]
  · rw [← List.map_filterMap, initial]
    cases (options.filterMap part).eq_nil_or_concat with
    | inl empty => simp [empty]
    | inr split =>
        obtain ⟨others, last, split⟩ := split
        simp [split, List.getLastD_eq_getLast?]
  · intro settings option
    rw [step]
    cases part option <;> rfl

/-- The command asks for what was written last, where the numbers are of `int`. -/
theorem parseTasksList_of_renders {options : List ListOption} {args : List String}
    (renders : Renders (Piece tasksListOptions ListOption.Gives) options args)
    (inRange : ∀ option ∈ options, option.InRange) :
    parseTasksList args = .ok (askedTasks options) := by
  have limit : ∀ (listing : TasksListing) option,
      (listing.apply option).limit = (option.limit?.map narrowed).getD listing.limit := by
    intro listing option
    cases option <;> rfl
  have offset : ∀ (listing : TasksListing) option,
      (listing.apply option).offset = (option.offset?.map narrowed).getD listing.offset := by
    intro listing option
    cases option <;> rfl
  have state : ∀ (listing : TasksListing) option,
      (listing.apply option).state = option.state?.or listing.state := by
    intro listing option
    cases option <;> rfl
  have agentId : ∀ (listing : TasksListing) option,
      (listing.apply option).agentId = option.agentId?.or listing.agentId := by
    intro listing option
    cases option <;> rfl
  refine (parseListLoop_eq_ok_iff distinct_tasksListOptions reads_tasksListOptions).mpr
    ⟨options, renders, (TasksListing.ext ?_ ?_ ?_ ?_).symm⟩
  · exact foldl_number (fun listing : TasksListing => listing.limit)
      (fun option member => (inRange option member).limit_isInt) limit {}
  · exact foldl_number (fun listing : TasksListing => listing.offset)
      (fun option member => (inRange option member).offset_isInt) offset {}
  · exact foldl_filter (fun listing : TasksListing => listing.state) state rfl
  · exact foldl_filter (fun listing : TasksListing => listing.agentId) agentId rfl

theorem parseAgentsList_of_renders {options : List ListOption} {args : List String}
    (renders : Renders (Piece agentsListOptions ListOption.Gives) options args)
    (inRange : ∀ option ∈ options, option.InRange) :
    parseAgentsList args = .ok (askedAgents options) := by
  have limit : ∀ (listing : AgentsListing) option,
      (listing.apply option).limit = (option.limit?.map narrowed).getD listing.limit := by
    intro listing option
    cases option <;> rfl
  have offset : ∀ (listing : AgentsListing) option,
      (listing.apply option).offset = (option.offset?.map narrowed).getD listing.offset := by
    intro listing option
    cases option <;> rfl
  have status : ∀ (listing : AgentsListing) option,
      (listing.apply option).status = option.status?.or listing.status := by
    intro listing option
    cases option <;> rfl
  refine (parseListLoop_eq_ok_iff distinct_agentsListOptions reads_agentsListOptions).mpr
    ⟨options, renders, (AgentsListing.ext ?_ ?_ ?_).symm⟩
  · exact foldl_number (fun listing : AgentsListing => listing.limit)
      (fun option member => (inRange option member).limit_isInt) limit {}
  · exact foldl_number (fun listing : AgentsListing => listing.offset)
      (fun option member => (inRange option member).offset_isInt) offset {}
  · exact foldl_filter (fun listing : AgentsListing => listing.status) status rfl

/-- The numbers of the page that is asked for are of `int`. -/
theorem isInt_askedPage {options : List ListOption}
    (inRange : ∀ option ∈ options, option.InRange) :
    IsInt (askedPage options).limit ∧ IsInt (askedPage options).offset := by
  have last {part : ListOption → Option Int} {fallback : Int} (isInt : IsInt fallback)
      (each : ∀ option ∈ options, ∀ number ∈ part option, IsInt number) :
      IsInt ((options.filterMap part).getLastD fallback) := by
    rcases List.eq_nil_or_concat (options.filterMap part) with empty | ⟨others, number, split⟩
    · rw [empty]
      exact isInt
    · have listed : number ∈ options.filterMap part := by simp [split]
      obtain ⟨option, member, found⟩ := List.mem_filterMap.mp listed
      rw [split, List.concat_eq_append, List.getLastD_concat]
      exact each option member number found
  constructor
  · exact last (by unfold IsInt; decide) fun option member => (inRange option member).limit_isInt
  · exact last (by unfold IsInt; decide) fun option member => (inRange option member).offset_isInt

end Cli

/-! ## Parameters -/

namespace Cli

/-- A filter that is set, which an empty one is not. -/
def givenText (value : Option String) : Option String :=
  value.filter fun value => !value.isEmpty

theorem given_map_utf8 (value : Option String) :
    given (value.map utf8) = (givenText value).map utf8 := by
  cases value with
  | none => rfl
  | some text =>
      have same : (utf8 text).isEmpty = text.isEmpty := by
        unfold utf8
        rw [Array.isEmpty_toList]
        rfl
      unfold given givenText
      rw [Option.map_some, Option.filter_some, Option.filter_some, same]
      cases text.isEmpty <;> rfl

theorem find_tasksListParams (state agentId : Option Bytes) (limit offset : Int) :
    (tasksListParams state agentId limit offset).find (ascii "state") = given state ∧
      (tasksListParams state agentId limit offset).find (ascii "agent_id") = given agentId := by
  constructor
  · rw [tasksListParams, pageParams, Params.find_emplace_of_ne (by decide),
      Params.find_emplace_of_ne (by decide), find_addParam_of_ne (by decide),
      find_addParam_self (keys_noParams _)]
  · rw [tasksListParams, pageParams, Params.find_emplace_of_ne (by decide),
      Params.find_emplace_of_ne (by decide), find_addParam_self (agentId_not_mem state)]

theorem find_agentsListParams (status : Option Bytes) (limit offset : Int) :
    (agentsListParams status limit offset).find (ascii "status") = given status := by
  rw [agentsListParams, pageParams, Params.find_emplace_of_ne (by decide),
    Params.find_emplace_of_ne (by decide), find_addParam_self (keys_noParams _)]

end Cli

/-- The parameter of a text. -/
theorem getQueryParam_of_utf8 (call : Call) (name : String) (value : Option String)
    (found : call.params.find (ascii name) = value.map utf8) :
    call.getQueryParam name = value.map String.toByteArray := by
  unfold Call.getQueryParam
  rw [found]
  cases value <;> rfl

theorem map_paramText (value : Option String) :
    (value.map String.toByteArray).map paramText = value := by
  cases value with
  | none => rfl
  | some text => exact congrArg some (HttpService.paramText_toByteArray text)

/-! ## Answers -/

/-- What the service answers to a list of tasks with this filter and this page. -/
def answerTasks (broker : Broker) (attempts : List Attempt) (state agentId : Option String)
    (limit offset : Int) (store : Store) : Response × Store :=
  match ControlService.parseQueryParam taskStateFromApi "Invalid task state" state with
  | .error response => (response, store)
  | .ok state =>
      match broker.listTasks attempts state agentId limit offset store with
      | (.error error, after) => (ControlService.dbErrorResponse error, after)
      | (.ok tasks, after) =>
          ({ status := 200
             body := .object [("tasks", .array (tasks.map Api.taskSummaryToJson))] }, after)

def answerAgents (broker : Broker) (attempts : List Attempt) (status : Option String)
    (limit offset : Int) (store : Store) : Response × Store :=
  match ControlService.parseQueryParam agentStatusFromApi "Invalid agent status" status with
  | .error response => (response, store)
  | .ok status =>
      match broker.listAgents attempts status limit offset store with
      | (.error error, after) => (ControlService.dbErrorResponse error, after)
      | (.ok agents, after) =>
          ({ status := 200
             body := .object [("agents", .array (agents.map Api.agentSummaryToJson))] }, after)

theorem handleListTasks_eq (broker : Broker) (attempts : List Attempt)
    (state agentId limit offset : Option String) :
    ControlService.handleListTasks broker attempts state agentId limit offset =
      answerTasks broker attempts state agentId (ControlService.getQueryParamInt limit 50)
        (ControlService.getQueryParamInt offset 0) :=
  rfl

theorem handleListAgents_eq (broker : Broker) (attempts : List Attempt)
    (status limit offset : Option String) :
    ControlService.handleListAgents broker attempts status limit offset =
      answerAgents broker attempts status (ControlService.getQueryParamInt limit 50)
        (ControlService.getQueryParamInt offset 0) :=
  rfl

theorem getQueryParamInt_toString {number : Int} (isInt : Cli.IsInt number) (fallback : Int) :
    ControlService.getQueryParamInt (some (toString number)) fallback = number := by
  rw [ControlService.getQueryParamInt, Option.bind_some, stoi_toString_int isInt, Option.getD_some]

theorem handleListTasks_of_texts (service : HttpService) (attempts : List Attempt)
    (state agentId limit offset : Option String) :
    service.handleListTasks attempts (state.map String.toByteArray)
        (agentId.map String.toByteArray) (limit.map String.toByteArray)
        (offset.map String.toByteArray) =
      HttpService.onTables
        (ControlService.handleListTasks service.broker attempts state agentId limit offset) := by
  unfold HttpService.handleListTasks
  cases agentId with
  | none => simp only [Option.map_none, map_paramText]
  | some text => simp only [Option.map_some, fromUTF8?_toByteArray, map_paramText]

theorem call_request_tasksList (listing : Cli.TasksListing) (body : ByteArray) :
    listing.request.call.request body =
      .listTasks ((Cli.givenText listing.state).map String.toByteArray)
        ((Cli.givenText listing.agentId).map String.toByteArray)
        ((some (toString listing.limit)).map String.toByteArray)
        ((some (toString listing.offset)).map String.toByteArray) := by
  obtain ⟨state, agentId⟩ := Cli.find_tasksListParams (listing.state.map utf8)
    (listing.agentId.map utf8) listing.limit listing.offset
  obtain ⟨limit, offset⟩ := Cli.find_pageParams
    (Cli.not_mem_tasksFilter (by decide) (by decide) (listing.state.map utf8)
      (listing.agentId.map utf8))
    (Cli.not_mem_tasksFilter (by decide) (by decide) _ _) listing.limit listing.offset
  rw [Cli.given_map_utf8] at state agentId
  rw [← getQueryParam_of_utf8 listing.request.call "state" _ state,
    ← getQueryParam_of_utf8 listing.request.call "agent_id" _ agentId,
    ← getQueryParam_of_utf8 listing.request.call "limit" (some _) limit,
    ← getQueryParam_of_utf8 listing.request.call "offset" (some _) offset]
  rfl

/-- `tasks list` accepts the arguments that write its options.  Where the numbers are of `int` and
the target is not too long, it gets the answer to what they say: the broker is called with the
filter and with the page that were written last, in whatever order the routes are registered. -/
theorem tasks_list_answered (args : List String) {routes : List Endpoint}
    (order : routes.Perm registeredRoutes) :
    ((∃ listing, Cli.parseTasksList args = .ok listing) ↔
      ∃ options, Renders (Cli.Piece Cli.tasksListOptions Cli.ListOption.Gives) options args) ∧
    ∀ options, Renders (Cli.Piece Cli.tasksListOptions Cli.ListOption.Gives) options args →
      (∀ option ∈ options, option.InRange) →
      let asked := Cli.askedTasks options
      Cli.parseTasksList args = .ok asked ∧ (asked.request.Fits →
        ∃ call, arrive routes asked.request.sent.stream = some call ∧
          ∀ (service : HttpService) (schedule : Schedule) (now : Time) (body : ByteArray),
            service.handle schedule now (call.request body) =
              HttpService.onTables (answerTasks service.broker schedule.first
                (Cli.givenText asked.state) (Cli.givenText asked.agentId) asked.limit
                asked.offset)) := by
  constructor
  · constructor
    · rintro ⟨listing, parsed⟩
      obtain ⟨options, renders, _⟩ := (Cli.parseListLoop_eq_ok_iff Cli.distinct_tasksListOptions
        Cli.reads_tasksListOptions).mp parsed
      exact ⟨options, renders⟩
    · rintro ⟨options, renders⟩
      exact ⟨_, (Cli.parseListLoop_eq_ok_iff Cli.distinct_tasksListOptions
        Cli.reads_tasksListOptions).mpr ⟨options, renders, rfl⟩⟩
  · intro options renders inRange asked
    refine ⟨Cli.parseTasksList_of_renders renders inRange, fun fits => ?_⟩
    have isInt : Cli.IsInt asked.limit ∧ Cli.IsInt asked.offset := Cli.isInt_askedPage inRange
    refine ⟨_, ClientRequest.arrive_sent order trivial fits, fun service schedule now body => ?_⟩
    rw [call_request_tasksList, HttpService.handle, handleListTasks_of_texts]
    rw [handleListTasks_eq, getQueryParamInt_toString isInt.1, getQueryParamInt_toString isInt.2]

/-- Options of which two are written twice, in several forms. -/
def repeatedOptions : List Cli.ListOption :=
  [.limit 7, .state "queued", .agentId "a&b=c d", .limit (-1), .state "running"]

theorem renders_repeatedOptions :
    Renders (Cli.Piece Cli.tasksListOptions Cli.ListOption.Gives) repeatedOptions
      ["--limit=7", "--state", "queued", "--agent-id=a&b=c d", "--limit", " -1",
        "--state=running"] := by
  have seven : Strtol.Denotes Char.toNat "7".toList 7 := (Cli.numeral_toString 7).denotes
  have minusOne : Strtol.Denotes Char.toNat " -1".toList (-1) := by
    have blank : ∀ char ∈ [' '], Strtol.isBlank Char.toNat char = true :=
      List.forall_mem_singleton.mpr rfl
    have digit : ∀ char ∈ ['1'], Strtol.isDigit Char.toNat char = true :=
      List.forall_mem_singleton.mpr rfl
    exact .intro blank (.minus rfl) (List.cons_ne_nil '1' []) digit
  change Renders _ _ (["--limit=7"] ++ (["--state", "queued"] ++ (["--agent-id=a&b=c d"] ++
    (["--limit", " -1"] ++ (["--state=running"] ++ [])))))
  refine .cons ⟨_, .tail _ (.tail _ (.head _)), "7", ⟨rfl, seven⟩, .inr rfl⟩ ?_
  refine .cons ⟨_, .head _, "queued", ⟨rfl, rfl⟩, .inl rfl⟩ ?_
  refine .cons ⟨_, .tail _ (.head _), "a&b=c d", ⟨rfl, rfl⟩, .inr rfl⟩ ?_
  refine .cons ⟨_, .tail _ (.tail _ (.head _)), " -1", ⟨rfl, minusOne⟩, .inl rfl⟩ ?_
  exact .cons ⟨_, .head _, "running", ⟨rfl, rfl⟩, .inr rfl⟩ .nil

theorem tasks_list_answered_repeatedOptions :
    let asked := Cli.askedTasks repeatedOptions
    Cli.parseTasksList ["--limit=7", "--state", "queued", "--agent-id=a&b=c d", "--limit", " -1",
        "--state=running"] = .ok asked ∧
      ∃ call, arrive registeredRoutes.reverse asked.request.sent.stream = some call ∧
        ∀ (service : HttpService) (schedule : Schedule) (now : Time) (body : ByteArray),
          service.handle schedule now (call.request body) =
            HttpService.onTables (answerTasks service.broker schedule.first (some "running")
              (some "a&b=c d") (-1) 0) := by
  have inRange : ∀ option ∈ repeatedOptions, option.InRange := by
    simp [repeatedOptions, Cli.ListOption.InRange, Cli.IsInt]
  have answered := (tasks_list_answered _ (List.reverse_perm _)).2 repeatedOptions
    renders_repeatedOptions inRange
  exact ⟨answered.1, answered.2 (by unfold ClientRequest.Fits; decide)⟩

theorem call_request_agentsList (listing : Cli.AgentsListing) (body : ByteArray) :
    listing.request.call.request body =
      .listAgents ((Cli.givenText listing.status).map String.toByteArray)
        ((some (toString listing.limit)).map String.toByteArray)
        ((some (toString listing.offset)).map String.toByteArray) := by
  have status := Cli.find_agentsListParams (listing.status.map utf8) listing.limit listing.offset
  obtain ⟨limit, offset⟩ := Cli.find_pageParams
    (Cli.not_mem_agentsFilter (by decide) (listing.status.map utf8))
    (Cli.not_mem_agentsFilter (by decide) _) listing.limit listing.offset
  rw [Cli.given_map_utf8] at status
  rw [← getQueryParam_of_utf8 listing.request.call "status" _ status,
    ← getQueryParam_of_utf8 listing.request.call "limit" (some _) limit,
    ← getQueryParam_of_utf8 listing.request.call "offset" (some _) offset]
  rfl

/-- `agents list` gets the answer to what its arguments say. -/
theorem agents_list_answered {args : List String} {options : List Cli.ListOption}
    (renders : Renders (Cli.Piece Cli.agentsListOptions Cli.ListOption.Gives) options args)
    (inRange : ∀ option ∈ options, option.InRange) {routes : List Endpoint}
    (order : routes.Perm registeredRoutes) :
    let asked := Cli.askedAgents options
    Cli.parseAgentsList args = .ok asked ∧ (asked.request.Fits →
      ∃ call, arrive routes asked.request.sent.stream = some call ∧
        ∀ (service : HttpService) (schedule : Schedule) (now : Time) (body : ByteArray),
          service.handle schedule now (call.request body) =
            HttpService.onTables (answerAgents service.broker schedule.first
              (Cli.givenText asked.status) asked.limit asked.offset)) := by
  intro asked
  refine ⟨Cli.parseAgentsList_of_renders renders inRange, fun fits => ?_⟩
  have isInt : Cli.IsInt asked.limit ∧ Cli.IsInt asked.offset := Cli.isInt_askedPage inRange
  refine ⟨_, ClientRequest.arrive_sent order trivial fits, fun service schedule now body => ?_⟩
  rw [call_request_agentsList, HttpService.handle, HttpService.handleListAgents, map_paramText,
    map_paramText, map_paramText]
  rw [handleListAgents_eq, getQueryParamInt_toString isInt.1, getQueryParamInt_toString isInt.2]

end DistributedComputing
