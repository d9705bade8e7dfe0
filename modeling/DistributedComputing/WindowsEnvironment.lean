import DistributedComputing.WindowsExecutor

/-!
# The environment after a run on Windows

The executor sets the variables of a task in the environment of the worker and writes back what it
has seen before each of them.  Names of variables are compared after they have been folded.
-/

namespace DistributedComputing

/-- The values of variables by their folded names. -/
abbrev Environment :=
  Bytes → Option Bytes

namespace Environment

/-- The names that `_putenv_s` takes.  The C runtime is assumed to refuse the empty name and every
name with a `=`, also one that begins with it, and nothing else: the limit of 32767 characters
on a name with its value is not modelled. -/
def isVariableName (name : Bytes) : Bool :=
  !name.isEmpty && !name.contains (byte '=')

/-- Writing an empty value removes a variable. -/
def stored (value : Bytes) : Option Bytes :=
  if value = [] then none else some value

theorem stored_getD_stored (value : Bytes) : stored ((stored value).getD []) = stored value := by
  unfold stored
  split_ifs <;> simp_all

theorem eq_stored_getD_iff {prior : Option Bytes} : prior = stored (prior.getD []) ↔
    prior ≠ some [] := by
  unfold stored
  cases prior with
  | none => simp
  | some value => by_cases empty : value = [] <;> simp [empty]

/-- What was there before each of the values was written. -/
def before : Option Bytes → List Bytes → List (Option Bytes)
  | _, [] => []
  | prior, value :: values => prior :: before (stored value) values

/-- What is there when the values have been written. -/
def lastOf (prior : Option Bytes) (values : List Bytes) : Option Bytes :=
  values.getLast?.elim prior stored

theorem lastOf_cons (prior : Option Bytes) (value : Bytes) (values : List Bytes) :
    lastOf prior (value :: values) = lastOf (stored value) values := by
  cases values with
  | nil => rfl
  | cons next values => rw [lastOf, List.getLast?_cons_cons]; rfl

/-- What is seen before the last value is what the others have left. -/
theorem getLast?_before (prior : Option Bytes) (values : List Bytes) :
    (before prior values).getLast? =
      if values = [] then none else some (lastOf prior values.dropLast) := by
  induction values generalizing prior with
  | nil => rfl
  | cons value values ih =>
      rw [if_neg (List.cons_ne_nil _ _), before, List.getLast?_cons, ih]
      cases values with
      | nil => rfl
      | cons next values =>
          rw [if_neg (List.cons_ne_nil _ _), List.dropLast_cons_cons, lastOf_cons]
          rfl

/-- Nothing is left of the values if what was seen before the last of them is written back. -/
structure WrittenBack (prior : Option Bytes) (values : List Bytes) : Prop where
  single : values.length = 1 → prior ≠ some []
  repeated : ∀ value ∈ values.dropLast.getLast?, prior = stored value

theorem writtenBack_iff {prior : Option Bytes} {values : List Bytes} :
    (∀ seen ∈ (before prior values).getLast?, prior = stored (seen.getD [])) ↔
      WrittenBack prior values := by
  rw [getLast?_before]
  cases values with
  | nil => exact ⟨fun _ => ⟨nofun, nofun⟩, fun _ => nofun⟩
  | cons value values =>
      rw [if_neg (List.cons_ne_nil _ _)]
      cases values with
      | nil =>
          constructor
          · intro written
            exact ⟨fun _ => eq_stored_getD_iff.mp (written prior rfl), nofun⟩
          · rintro written _ ⟨⟩
            exact eq_stored_getD_iff.mpr (written.single rfl)
      | cons next values =>
          obtain ⟨last, isLast⟩ : ∃ last, (value :: next :: values).dropLast.getLast? = some last :=
            Option.isSome_iff_exists.mp (by simp [List.dropLast_cons_cons])
          have seen : lastOf prior (value :: next :: values).dropLast = stored last := by
            rw [lastOf, isLast, Option.elim_some]
          constructor
          · intro written
            refine ⟨nofun, fun value isValue => ?_⟩
            cases isLast.symm.trans isValue
            have same := written _ rfl
            rwa [seen, stored_getD_stored] at same
          · rintro written _ ⟨⟩
            rw [seen, stored_getD_stored]
            exact written.repeated last isLast

section Fold

variable (fold : Bytes → Bytes)

/-- Whether the name is one of the variable. -/
def names (folded name : Bytes) : Bool :=
  isVariableName name && decide (fold name = folded)

/-- `_putenv_s`, which leaves the environment as it is where it refuses the name. -/
def putenv (environment : Environment) (name value : Bytes) : Environment :=
  fun folded => if names fold folded name then stored value else environment folded

def setAll (environment : Environment) (entries : List (Bytes × Bytes)) : Environment :=
  entries.foldl (fun environment entry => putenv fold environment entry.1 entry.2) environment

/-- The values that are written to a variable, in their order. -/
def valuesOf (folded : Bytes) (entries : List (Bytes × Bytes)) : List Bytes :=
  (entries.filter fun entry => names fold folded entry.1).map Prod.snd

/-- The entries with what was there before each of them. -/
def seenBefore : Environment → List (Bytes × Bytes) → List (Bytes × Option Bytes)
  | _, [] => []
  | environment, entry :: entries =>
      (entry.1, environment (fold entry.1)) ::
        seenBefore (putenv fold environment entry.1 entry.2) entries

/-- What is written to put these values back. -/
def writeBack (prevEnv : List (Bytes × Option Bytes)) : List (Bytes × Bytes) :=
  prevEnv.map fun entry => (entry.1, entry.2.getD [])

theorem setAll_apply (environment : Environment) (entries : List (Bytes × Bytes))
    (folded : Bytes) :
    setAll fold environment entries folded =
      lastOf (environment folded) (valuesOf fold folded entries) := by
  induction entries generalizing environment with
  | nil => rfl
  | cons entry entries ih =>
      rw [setAll, List.foldl_cons, ← setAll, ih, valuesOf, valuesOf, List.filter_cons, putenv]
      split
      · rw [List.map_cons, lastOf_cons]
      · rfl

theorem valuesOf_writeBack (environment : Environment) (entries : List (Bytes × Bytes))
    (folded : Bytes) :
    valuesOf fold folded (writeBack (seenBefore fold environment entries)) =
      (before (environment folded) (valuesOf fold folded entries)).map (·.getD []) := by
  induction entries generalizing environment with
  | nil => rfl
  | cons entry entries ih =>
      have rest := ih (putenv fold environment entry.1 entry.2)
      rw [valuesOf, writeBack] at rest
      rw [seenBefore, writeBack, List.map_cons, valuesOf, valuesOf, List.filter_cons,
        List.filter_cons]
      dsimp only
      rw [putenv] at rest
      split
      · rename_i named
        rw [if_pos named] at rest
        rw [List.map_cons, rest, List.map_cons, before, List.map_cons]
        have sameName : fold entry.1 = folded := by
          rw [names, Bool.and_eq_true, decide_eq_true_eq] at named
          exact named.2
        rw [sameName]
        rfl
      · rename_i other
        rw [if_neg other] at rest
        exact rest

/-- What is there after all of it. -/
theorem writeBack_apply_iff (environment : Environment) (entries : List (Bytes × Bytes))
    (folded : Bytes) :
    setAll fold (setAll fold environment entries)
        (writeBack (seenBefore fold environment entries)) folded = environment folded ↔
      WrittenBack (environment folded) (valuesOf fold folded entries) := by
  rw [setAll_apply, valuesOf_writeBack, setAll_apply, ← writtenBack_iff, lastOf, List.getLast?_map]
  cases seen : (before (environment folded) (valuesOf fold folded entries)).getLast? with
  | none =>
      rw [getLast?_before] at seen
      split at seen
      · rename_i empty
        rw [empty]
        exact ⟨fun _ => nofun, fun _ => rfl⟩
      · cases seen
  | some value =>
      rw [Option.map_some, Option.elim_some]
      constructor
      · rintro same _ ⟨⟩
        exact same.symm
      · exact fun written => (written value rfl).symm

end Fold

end Environment

namespace WindowsExecutor

open Environment CallProgram

section Answers

variable (fold : Bytes → Bytes)

/-- Whether the environment gives this answer. -/
def Consistent (environment : Environment) : Sigma WindowsCall.Reply → Prop
  | ⟨.getenv name, value⟩ => value = environment (fold name)
  | ⟨.putenvS name _, succeeded⟩ => succeeded = isVariableName name
  | _ => True

/-- What a call leaves of the environment. -/
def effect (environment : Environment) : WindowsCall → Environment
  | .putenvS name value => putenv fold environment name value
  | _ => environment

/-- A run in which the environment answers the calls that are about it, and what it is then. -/
def Answers : Environment → List (Sigma WindowsCall.Reply) → Environment → Prop
  | environment, [], after => after = environment
  | environment, event :: events, after =>
      Consistent fold environment event ∧ Answers (effect fold environment event.1) events after

/-- The calls that neither are about the environment nor start a process. -/
def isElsewhere : WindowsCall → Prop
  | .getenv _ => False
  | .putenvS _ _ => False
  | .createProcess _ => False
  | _ => True

def startsNothing : WindowsCall → Prop
  | .createProcess _ => False
  | _ => True

variable {fold} {environment after : Environment} {calls : List (Sigma WindowsCall.Reply)}

theorem answers_append {others : List (Sigma WindowsCall.Reply)} :
    Answers fold environment (calls ++ others) after ↔
      ∃ middle, Answers fold environment calls middle ∧ Answers fold middle others after := by
  induction calls generalizing environment with
  | nil =>
      constructor
      · exact fun answered => ⟨environment, rfl, answered⟩
      · rintro ⟨_, rfl, answered⟩
        exact answered
  | cons call calls ih =>
      rw [List.cons_append, Answers, ih]
      constructor
      · rintro ⟨consistent, middle, first, second⟩
        exact ⟨middle, ⟨consistent, first⟩, second⟩
      · rintro ⟨middle, ⟨consistent, first⟩, second⟩
        exact ⟨consistent, middle, first, second⟩

theorem answers_elsewhere (elsewhere : ∀ call ∈ calls, isElsewhere call.1) :
    Answers fold environment calls after ↔ after = environment := by
  induction calls with
  | nil => rfl
  | cons call calls ih =>
      rw [List.forall_mem_cons] at elsewhere
      obtain ⟨request, reply⟩ := call
      have unchanged : effect fold environment request = environment ∧
          Consistent fold environment ⟨request, reply⟩ := by
        cases request <;> first | exact elsewhere.1.elim | exact ⟨rfl, trivial⟩
      rw [Answers, unchanged.1, ih elsewhere.2]
      exact and_iff_right unchanged.2

/-- The entries as they reach the environment. -/
def cStrings (entries : List (Bytes × Bytes)) : List (Bytes × Bytes) :=
  entries.map fun entry => (cString entry.1, cString entry.2)

theorem setEnv_answers {entries : List (Bytes × Bytes)} {prevEnv : List (Bytes × Option Bytes)}
    (finished : (setEnv entries).Finishes calls prevEnv)
    (answered : Answers fold environment calls after) :
    after = setAll fold environment (cStrings entries) ∧
      prevEnv.map (fun entry => (cString entry.1, entry.2)) =
        seenBefore fold environment (cStrings entries) := by
  induction entries generalizing environment calls prevEnv with
  | nil =>
      obtain ⟨rfl, rfl⟩ := finishes_done_iff.mp finished
      exact ⟨answered, rfl⟩
  | cons entry entries ih =>
      obtain ⟨previous, _, rfl, continued⟩ := finishes_perform_bind_iff.mp finished
      obtain ⟨succeeded, _, rfl, looped⟩ := finishes_perform_bind_iff.mp continued
      obtain ⟨others, first, second, rfl, rest, returned⟩ := finishes_bind_iff.mp looped
      obtain ⟨rfl, rfl⟩ := finishes_done_iff.mp returned
      rw [List.append_nil] at answered
      obtain ⟨isPrevious, _, answeredRest⟩ := answered
      obtain ⟨isAfter, areOthers⟩ := ih rest answeredRest
      refine ⟨isAfter, ?_⟩
      rw [List.map_cons, areOthers]
      exact congrArg₂ List.cons (Prod.ext rfl isPrevious) rfl

theorem restoreEnv_answers {prevEnv : List (Bytes × Option Bytes)}
    (finished : (restoreEnv prevEnv).Finishes calls ())
    (answered : Answers fold environment calls after) :
    after = setAll fold environment
      (writeBack (prevEnv.map fun entry => (cString entry.1, entry.2))) := by
  induction prevEnv generalizing environment calls with
  | nil =>
      obtain ⟨rfl, _⟩ := finishes_done_iff.mp finished
      exact answered
  | cons entry prevEnv ih =>
      obtain ⟨succeeded, _, rfl, continued⟩ := finishes_perform_bind_iff.mp finished
      exact ih continued answered.2

end Answers

/-- The wait for the process leaves the environment alone. -/
theorem waitLoop_elsewhere (hasTimeout : Bool) (result : TaskExecutionResult) (rounds : Nat)
    (remainingMs : UInt32) :
    (waitLoop hasTimeout result rounds remainingMs).Issues isElsewhere := by
  induction rounds generalizing remainingMs with
  | zero => trivial
  | succ rounds ih =>
      refine .perform trivial fun waitCode => ?_
      cases waitCode with
      | object => trivial
      | failed => trivial
      | timeout =>
          refine .perform trivial fun canceled => ?_
          split
          · exact .perform trivial fun _ => trivial
          · split
            · split
              · exact .perform trivial fun _ => trivial
              · exact .perform trivial fun _ => ih _
            · exact .perform trivial fun _ => ih _

def createdProcess : Sigma WindowsCall.Reply → Bool
  | ⟨.createProcess _, ok⟩ => ok
  | _ => false

/-- Whether a run has come so far that there was a process. -/
def ProcessStarted (calls : List (Sigma WindowsCall.Reply)) : Prop :=
  calls.any createdProcess = true

/-- Nothing of the task is left in the environment: after a process, what was seen before the last
value of each variable is what it had, and without one the last value itself is. -/
def LeavesNothing (fold : Bytes → Bytes) (environment : Environment)
    (entries : List (Bytes × Bytes)) (started : Prop) : Prop :=
  ∀ folded,
    (started → WrittenBack (environment folded) (valuesOf fold folded entries)) ∧
    (¬ started → ∀ value ∈ (valuesOf fold folded entries).getLast?,
      environment folded = stored value)

section Run

variable {fold : Bytes → Bytes} {environment after : Environment}
  {calls : List (Sigma WindowsCall.Reply)}

theorem setAll_eq_iff {entries : List (Bytes × Bytes)} :
    setAll fold environment entries = environment ↔
      ∀ folded, ∀ value ∈ (valuesOf fold folded entries).getLast?,
        environment folded = stored value := by
  rw [funext_iff]
  refine forall_congr' fun folded => ?_
  rw [setAll_apply, lastOf]
  cases (valuesOf fold folded entries).getLast? with
  | none => exact ⟨fun _ => nofun, fun _ => rfl⟩
  | some value =>
      constructor
      · rintro same _ ⟨⟩
        exact same.symm
      · exact fun same => (same value rfl).symm

theorem setEnv_startsNothing (entries : List (Bytes × Bytes)) :
    (setEnv entries).Issues startsNothing := by
  induction entries with
  | nil => trivial
  | cons entry entries ih =>
      refine .perform trivial fun previous => .perform trivial fun succeeded => ?_
      exact ih.bind fun prevEnv => trivial

/-- Calls that start nothing do not matter for whether there was a process. -/
theorem processStarted_append {others : List (Sigma WindowsCall.Reply)}
    (nothing : ∀ event ∈ calls, startsNothing event.1) :
    ProcessStarted (calls ++ others) ↔ ProcessStarted others := by
  have none : calls.any createdProcess = false := by
    rw [List.any_eq_false]
    rintro ⟨request, reply⟩ member created
    have harmless := nothing _ member
    cases request <;> first | exact harmless.elim | cases created
  rw [ProcessStarted, List.any_append, none, Bool.false_or, ← ProcessStarted]

/-- After the process, what was seen before is written back. -/
theorem finish_answers {prevEnv : List (Bytes × Option Bytes)} {result exec : TaskExecutionResult}
    (finished : (finish prevEnv result).Finishes calls exec)
    (answered : Answers fold environment calls after) :
    after = setAll fold environment
      (writeBack (prevEnv.map fun entry => (cString entry.1, entry.2))) := by
  obtain ⟨exitCode, rest, rfl, continued⟩ := finishes_perform_bind_iff.mp finished
  obtain ⟨_, first, second, rfl, restored, last⟩ := finishes_bind_iff.mp continued
  obtain ⟨finishedAt, _, rfl, returned⟩ := finishes_perform_bind_iff.mp last
  obtain ⟨rfl, rfl⟩ := finishes_done_iff.mp returned
  obtain ⟨middle, restoredAnswers, _, rfl⟩ := answers_append.mp answered.2
  exact restoreEnv_answers restored restoredAnswers

/-- Without a process the environment stays as it has been set. -/
theorem start_answers {rounds : Nat} {task : AgentClient.TaskDispatch}
    {result exec : TaskExecutionResult} {prevEnv : List (Bytes × Option Bytes)}
    (finished : (start rounds task result prevEnv).Finishes calls (some exec))
    (answered : Answers fold environment calls after) :
    ProcessStarted calls ∧ after = setAll fold environment
        (writeBack (prevEnv.map fun entry => (cString entry.1, entry.2))) ∨
      ¬ ProcessStarted calls ∧ after = environment := by
  obtain ⟨hOut, _, rfl, afterOut⟩ := finishes_perform_bind_iff.mp finished
  obtain ⟨hErr, _, rfl, afterErr⟩ := finishes_perform_bind_iff.mp afterOut
  split at afterErr
  · obtain ⟨ok, _, rfl, afterProcess⟩ := finishes_perform_bind_iff.mp afterErr
    cases ok with
    | true =>
        obtain ⟨waited, first, second, rfl, looped, continued⟩ :=
          finishes_bind_iff.mp afterProcess
        cases waited with
        | none => cases continued
        | some waited =>
            obtain ⟨result, third, fourth, rfl, last, returned⟩ := finishes_bind_iff.mp continued
            obtain ⟨rfl, _⟩ := finishes_done_iff.mp returned
            obtain ⟨middle, loopAnswers, lastAnswers⟩ := answers_append.mp answered.2.2.2
            have unchanged := (answers_elsewhere ((waitLoop_elsewhere _ _ _ _).allowed_of_finishes
              looped)).mp loopAnswers
            rw [List.append_nil] at lastAnswers
            rw [unchanged] at lastAnswers
            exact .inl ⟨rfl, finish_answers last lastAnswers⟩
    | false =>
        obtain ⟨rfl, _⟩ := finishes_done_iff.mp afterProcess
        exact .inr ⟨Bool.false_ne_true, answered.2.2.2⟩
  · obtain ⟨rfl, _⟩ := finishes_done_iff.mp afterErr
    exact .inr ⟨Bool.false_ne_true, answered.2.2⟩

/-- The environment of the worker is after a run what it was before exactly when the run leaves
nothing of the task in it. -/
theorem environment_kept_iff {rounds : Nat} {logRoot : String} {task : AgentClient.TaskDispatch}
    {exec : TaskExecutionResult} (finished : (run rounds logRoot task).Finishes calls (some exec))
    (answered : Answers fold environment calls after) :
    after = environment ↔
      LeavesNothing fold environment (cStrings (taskEnv task)) (ProcessStarted calls) := by
  obtain ⟨startedAt, _, rfl, afterTime⟩ := finishes_perform_bind_iff.mp finished
  obtain ⟨prevEnv, first, second, rfl, environmentSet, started⟩ := finishes_bind_iff.mp afterTime
  obtain ⟨middle, setAnswers, startAnswers⟩ := answers_append.mp answered.2
  obtain ⟨rfl, seen⟩ := setEnv_answers environmentSet setAnswers
  have sameStart : ProcessStarted (⟨.nowUtcIso8601, startedAt⟩ :: (first ++ second)) ↔
      ProcessStarted second :=
    processStarted_append ((setEnv_startsNothing _).allowed_of_finishes environmentSet)
  have outcome := start_answers started startAnswers
  rw [LeavesNothing, sameStart]
  rcases outcome with ⟨isStarted, rfl⟩ | ⟨notStarted, rfl⟩
  · rw [seen]
    simp only [isStarted, not_true_eq_false, false_implies, and_true, true_implies,
      ← writeBack_apply_iff]
    exact funext_iff
  · simp only [notStarted, not_false_eq_true, false_implies, true_and, true_implies]
    exact setAll_eq_iff

end Run

/-! ## Two runs -/

/-- ASCII letters are folded. -/
def upperCase (name : Bytes) : Bytes :=
  name.map fun value => if 97 ≤ value.toNat ∧ value.toNat ≤ 122 then value - 32 else value

def modeTask : AgentClient.TaskDispatch where
  taskId := "1"
  command := "run.exe"
  args := []
  env := .object [("MODE", .string "fast")]
  timeoutSec := none
  constraints := .object []

def noVariables : Environment :=
  fun _ => none

/-- The variable is set when the run has begun. -/
def settingCalls : List (Sigma WindowsCall.Reply) :=
  [⟨.nowUtcIso8601, "start"⟩, ⟨.getenv (cString (utf8 "MODE")), none⟩,
    ⟨.putenvS (cString (utf8 "MODE")) (cString (utf8 "fast")), true⟩]

/-- What the task has left of the environment when its variable is set. -/
def modeSet : Environment :=
  putenv upperCase noVariables (cString (utf8 "MODE")) (cString (utf8 "fast"))

theorem settingCalls_answers : Answers upperCase noVariables settingCalls modeSet :=
  ⟨trivial, rfl, show true = isVariableName (cString (utf8 "MODE")) by decide, rfl⟩

def modeResult : TaskExecutionResult :=
  PosixExecutor.initialResult "logs" modeTask "start"

/-- The process ends at once. -/
def endingCalls : List (Sigma WindowsCall.Reply) :=
  settingCalls ++
    [⟨.createFile modeResult.stdoutPath, true⟩, ⟨.createFile modeResult.stderrPath, true⟩,
      ⟨.createProcess (cString (cmdline (utf8 "run.exe") [])), true⟩,
      ⟨.waitForSingleObject sliceMs, .object⟩, ⟨.getExitCodeProcess, some 0⟩,
      ⟨.putenvS (cString (utf8 "MODE")) [], true⟩, ⟨.nowUtcIso8601, "end"⟩]

theorem environment_kept_of_endingCalls :
    putenv upperCase modeSet (cString (utf8 "MODE")) [] = noVariables := by
  have finished : (run 1 "logs" modeTask).Finishes endingCalls
      (some { modeResult with exitCode := 0, finishedAt := "end" }) := by
    repeat first | exact .done _ | apply CallProgram.Finishes.call
  have answered : Answers upperCase noVariables endingCalls
      (putenv upperCase modeSet (cString (utf8 "MODE")) []) :=
    answers_append.mpr ⟨modeSet, settingCalls_answers, trivial, trivial, trivial, trivial, trivial,
      show true = isVariableName (cString (utf8 "MODE")) by decide, trivial, rfl⟩
  refine (environment_kept_iff finished answered).mpr fun folded => ⟨fun _ => ?_, ?_⟩
  · refine ⟨fun _ => nofun, fun value isValue => ?_⟩
    have short : (valuesOf upperCase folded (cStrings (taskEnv modeTask))).length ≤ 1 := by
      rw [valuesOf, List.length_map]
      exact List.length_filter_le _ _
    have empty : (valuesOf upperCase folded (cStrings (taskEnv modeTask))).dropLast = [] := by
      rw [← List.length_eq_zero_iff, List.length_dropLast]
      omega
    rw [empty] at isValue
    cases isValue
  · exact fun notStarted => absurd rfl notStarted

/-- The log files cannot be opened. -/
def failingCalls : List (Sigma WindowsCall.Reply) :=
  settingCalls ++
    [⟨.createFile modeResult.stdoutPath, false⟩, ⟨.createFile modeResult.stderrPath, false⟩]

/-- The variable of a task stays in the environment of the worker. -/
theorem environment_leaks :
    ¬ ∀ (task : AgentClient.TaskDispatch) (environment after : Environment)
      (calls : List (Sigma WindowsCall.Reply)) (exec : TaskExecutionResult),
      (run 1 "logs" task).Finishes calls (some exec) →
        Answers upperCase environment calls after → after = environment := by
  intro kept
  have finished : (run 1 "logs" modeTask).Finishes failingCalls
      (some
        { modeResult with failedToStart := true, errorMessage := "Failed to open log files" }) := by
    repeat first | exact .done _ | apply CallProgram.Finishes.call
  have answered : Answers upperCase noVariables failingCalls modeSet :=
    answers_append.mpr ⟨modeSet, settingCalls_answers, trivial, trivial, rfl⟩
  have same := congrFun (kept modeTask noVariables modeSet failingCalls _ finished answered)
    (upperCase (cString (utf8 "MODE")))
  have isSet : modeSet (upperCase (cString (utf8 "MODE"))) = some (utf8 "fast") := by
    decide
  rw [isSet] at same
  cases same

end WindowsExecutor

end DistributedComputing
