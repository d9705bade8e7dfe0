import Mathlib.Logic.Basic

/-!
# Programs over atomic calls

A program issues calls to a shared service one at a time and continues with each
reply.  The tree is the syntax of a computation whose only effects are those calls,
so the same program can be run alone, run until a chosen call raises, or run one
call at a time among other programs.
-/

namespace DistributedComputing

/-- A computation that issues calls and finally returns or raises. -/
inductive CallProgram (Call : Type) (Reply : Call → Type) (Error Result : Type)
  | done (result : Result)
  | raise (error : Error)
  | call (request : Call) (next : Reply request → CallProgram Call Reply Error Result)

namespace CallProgram

variable {Call : Type} {Reply : Call → Type} {Error State Result Next : Type}

/-- Sequential composition. -/
def bind : CallProgram Call Reply Error Result →
    (Result → CallProgram Call Reply Error Next) → CallProgram Call Reply Error Next
  | .done result, after => after result
  | .raise error, _ => .raise error
  | .call request next, after => .call request fun reply => (next reply).bind after

instance : Monad (CallProgram Call Reply Error) where
  pure := .done
  bind := bind

/-- The program that issues one call and returns its reply. -/
def perform (request : Call) : CallProgram Call Reply Error (Reply request) :=
  .call request .done

@[simp]
theorem pure_eq (result : Result) :
    (pure result : CallProgram Call Reply Error Result) = .done result :=
  rfl

@[simp]
theorem done_bind (result : Result) (after : Result → CallProgram Call Reply Error Next) :
    ((.done result : CallProgram Call Reply Error Result) >>= after) = after result :=
  rfl

@[simp]
theorem perform_bind (request : Call)
    (after : Reply request → CallProgram Call Reply Error Next) :
    ((perform request : CallProgram Call Reply Error (Reply request)) >>= after) =
      .call request after :=
  rfl

theorem bind_assoc {Last : Type} (program : CallProgram Call Reply Error Result)
    (after : Result → CallProgram Call Reply Error Next)
    (last : Next → CallProgram Call Reply Error Last) :
    ((program >>= after) >>= last) = (program >>= fun result => after result >>= last) := by
  induction program with
  | done result => rfl
  | raise error => rfl
  | call request next ih => exact congrArg (CallProgram.call request) (funext ih)

/-- Two programs with the same first call, one of which continues with another program. -/
theorem perform_bind_eq_bind {request : Call}
    {first : Reply request → CallProgram Call Reply Error Next}
    {second : Reply request → CallProgram Call Reply Error Result}
    {last : Result → CallProgram Call Reply Error Next}
    (same : ∀ reply, first reply = (second reply >>= last)) :
    (perform request >>= first) = ((perform request >>= second) >>= last) :=
  congrArg (CallProgram.call request) (funext same)

section Sequential

variable (exec : (request : Call) → State → Except Error (Reply request) × State)

/-- Run a program alone: every call takes effect at once and in order, and the
first call that raises ends the program. -/
def run : CallProgram Call Reply Error Result → State → Except Error Result × State
  | .done result, state => (.ok result, state)
  | .raise error, state => (.error error, state)
  | .call request next, state =>
      match exec request state with
      | (.ok reply, after) => (next reply).run after
      | (.error error, after) => (.error error, after)

@[simp]
theorem run_done (result : Result) (state : State) :
    (.done result : CallProgram Call Reply Error Result).run exec state =
      (.ok result, state) :=
  rfl

theorem run_call (request : Call)
    (next : Reply request → CallProgram Call Reply Error Result) (state : State) :
    (CallProgram.call request next).run exec state =
      match exec request state with
      | (.ok reply, after) => (next reply).run exec after
      | (.error error, after) => (.error error, after) := by
  rw [run]

/-- A call that succeeds is followed by its continuation. -/
theorem run_call_of_ok {request : Call} {state after : State} {reply : Reply request}
    (next : Reply request → CallProgram Call Reply Error Result)
    (succeeds : exec request state = (.ok reply, after)) :
    (CallProgram.call request next).run exec state = (next reply).run exec after := by
  rw [run_call, succeeds]

theorem run_perform_of_ok {request : Call} {state after : State} {reply : Reply request}
    (succeeds : exec request state = (.ok reply, after))
    (next : Reply request → CallProgram Call Reply Error Result) :
    (perform request >>= next).run exec state = (next reply).run exec after :=
  run_call_of_ok exec next succeeds

theorem run_bind (program : CallProgram Call Reply Error Result)
    (next : Result → CallProgram Call Reply Error Next) (state : State) :
    (program >>= next).run exec state =
      match program.run exec state with
      | (.ok result, after) => (next result).run exec after
      | (.error error, after) => (.error error, after) := by
  induction program generalizing state with
  | done result => rfl
  | raise error => rfl
  | call request continuation ih =>
      have unfolded : (CallProgram.call request continuation >>= next) =
          .call request fun reply => continuation reply >>= next := rfl
      rw [unfolded, run_call, run_call]
      rcases exec request state with ⟨_ | reply, after⟩
      · rfl
      · exact ih reply after

variable {Progress : Type}
  (interrupted : (request : Call) → Progress → State → State)

/-- Run a program alone until the call with the given number (from zero) raises
after the given part of its effect; a program with fewer calls finishes. -/
def runUntil (fault : Error) : Option (Nat × Progress) →
    CallProgram Call Reply Error Result → State → Except Error Result × State
  | none, program, state => program.run exec state
  | some _, .done result, state => (.ok result, state)
  | some _, .raise error, state => (.error error, state)
  | some (0, progress), .call request _, state =>
      (.error fault, interrupted request progress state)
  | some (index + 1, progress), .call request next, state =>
      match exec request state with
      | (.ok reply, after) =>
          runUntil fault (some (index, progress)) (next reply) after
      | (.error error, after) => (.error error, after)

@[simp]
theorem runUntil_none (fault : Error) (program : CallProgram Call Reply Error Result)
    (state : State) :
    program.runUntil exec interrupted fault none state = program.run exec state := by
  cases program <;> rfl

@[simp]
theorem runUntil_done (fault : Error) (schedule : Option (Nat × Progress))
    (result : Result) (state : State) :
    (.done result : CallProgram Call Reply Error Result).runUntil exec interrupted fault
      schedule state = (.ok result, state) := by
  cases schedule <;> rfl

@[simp]
theorem runUntil_zero (fault : Error) (progress : Progress) (request : Call)
    (next : Reply request → CallProgram Call Reply Error Result) (state : State) :
    (CallProgram.call request next).runUntil exec interrupted fault
      (some (0, progress)) state = (.error fault, interrupted request progress state) :=
  rfl

/-- A raise at a later call leaves the first call as it is. -/
theorem runUntil_succ_of_ok (fault : Error) (index : Nat) (progress : Progress)
    {request : Call} {state after : State} {reply : Reply request}
    (next : Reply request → CallProgram Call Reply Error Result)
    (succeeds : exec request state = (.ok reply, after)) :
    (CallProgram.call request next).runUntil exec interrupted fault
        (some (index + 1, progress)) state =
      (next reply).runUntil exec interrupted fault (some (index, progress)) after := by
  simp only [runUntil, succeeds]

theorem runUntil_perform_of_ok (fault : Error) (index : Nat) (progress : Progress)
    {request : Call} {state after : State} {reply : Reply request}
    (succeeds : exec request state = (.ok reply, after))
    (next : Reply request → CallProgram Call Reply Error Result) :
    (perform request >>= next).runUntil exec interrupted fault (some (index + 1, progress))
        state =
      (next reply).runUntil exec interrupted fault (some (index, progress)) after :=
  runUntil_succ_of_ok exec interrupted fault index progress next succeeds

/-- A read leaves the state, and its continuation goes on from there. -/
theorem runUntil_read (fault : Error) (schedule : Option (Nat × Progress)) {request : Call}
    {state : State} {reply : Reply request} (succeeds : exec request state = (.ok reply, state))
    (untouched : ∀ progress, interrupted request progress state = state)
    (next : Reply request → CallProgram Call Reply Error Result) :
    ((perform request >>= next).runUntil exec interrupted fault schedule state).2 = state ∨
      ∃ later, (perform request >>= next).runUntil exec interrupted fault schedule state =
        (next reply).runUntil exec interrupted fault later state := by
  rcases schedule with _ | ⟨_ | index, progress⟩
  · refine .inr ⟨none, ?_⟩
    rw [runUntil_none, runUntil_none, run_perform_of_ok exec succeeds]
  · exact .inl (untouched progress)
  · exact .inr ⟨some (index, progress),
      runUntil_perform_of_ok exec interrupted fault index progress succeeds next⟩

/-- A program that returns was not cut short. -/
theorem run_of_runUntil (fault : Error) {schedule : Option (Nat × Progress)}
    {program : CallProgram Call Reply Error Result} {state after : State} {result : Result}
    (returned : program.runUntil exec interrupted fault schedule state = (.ok result, after)) :
    program.run exec state = (.ok result, after) := by
  induction program generalizing schedule state with
  | done other => rwa [runUntil_done] at returned
  | raise error => cases schedule <;> cases returned
  | call request next ih =>
      rcases schedule with _ | ⟨_ | index, progress⟩
      · rwa [runUntil_none] at returned
      · cases returned
      · rw [runUntil] at returned
        rw [run_call]
        rcases ended : exec request state with ⟨_ | reply, middle⟩ <;> rw [ended] at returned
        · cases returned
        · exact ih reply returned

/-- A program that only computes its result after its last call. -/
theorem runUntil_bind_done (fault : Error) (schedule : Option (Nat × Progress))
    (program : CallProgram Call Reply Error Result) (finish : Result → Next) (state : State) :
    (program >>= fun result => .done (finish result)).runUntil exec interrupted fault schedule
        state =
      ((program.runUntil exec interrupted fault schedule state).1.map finish,
        (program.runUntil exec interrupted fault schedule state).2) := by
  induction program generalizing schedule state with
  | done result =>
      rw [done_bind, runUntil_done, runUntil_done]
      rfl
  | raise error => cases schedule <;> rfl
  | call request next ih =>
      have unfolded : (CallProgram.call request next >>= fun result => .done (finish result)) =
          .call request fun reply => next reply >>= fun result => .done (finish result) := rfl
      rw [unfolded]
      rcases schedule with _ | ⟨_ | index, progress⟩
      · rcases ended : exec request state with ⟨_ | reply, after⟩
        · simp only [runUntil_none, run_call, ended]
          rfl
        · have rest := ih reply none after
          simp only [runUntil_none] at rest
          simp only [runUntil_none, run_call, ended, rest]
      · rfl
      · rcases ended : exec request state with ⟨_ | reply, after⟩
        · simp only [runUntil, ended]
          rfl
        · simp only [runUntil, ended]
          exact ih reply (some (index, progress)) after

end Sequential

/-- Every call the program can ever issue is allowed, whatever the replies. -/
def Issues (allowed : Call → Prop) : CallProgram Call Reply Error Result → Prop
  | .done _ => True
  | .raise _ => True
  | .call request next => allowed request ∧ ∀ reply, (next reply).Issues allowed

theorem Issues.mono {allowed permitted : Call → Prop}
    (weaker : ∀ request, allowed request → permitted request)
    {program : CallProgram Call Reply Error Result} (issues : program.Issues allowed) :
    program.Issues permitted := by
  induction program with
  | done result => trivial
  | raise error => trivial
  | call request next ih =>
      exact ⟨weaker request issues.1, fun reply => ih reply (issues.2 reply)⟩

theorem Issues.perform {allowed : Call → Prop} {request : Call}
    {next : Reply request → CallProgram Call Reply Error Result} (first : allowed request)
    (rest : ∀ reply, (next reply).Issues allowed) :
    (CallProgram.perform request >>= next).Issues allowed :=
  ⟨first, rest⟩

theorem Issues.bind {allowed : Call → Prop} {program : CallProgram Call Reply Error Result}
    {after : Result → CallProgram Call Reply Error Next} (first : program.Issues allowed)
    (rest : ∀ result, (after result).Issues allowed) :
    (program >>= after).Issues allowed := by
  induction program with
  | done result => exact rest result
  | raise error => trivial
  | call request next ih => exact ⟨first.1, fun reply => ih reply (first.2 reply)⟩

section Relations

variable {rel : State → State → Prop} (reflexive : ∀ state, rel state state)
  (transitive : ∀ first second third, rel first second → rel second third → rel first third)
  {allowed : Call → Prop}
  {exec : (request : Call) → State → Except Error (Reply request) × State}
  (each : ∀ request, allowed request → ∀ state, rel state (exec request state).2)

include reflexive transitive each

/-- A relation that every call respects is respected by the program. -/
theorem run_rel {program : CallProgram Call Reply Error Result}
    (issues : program.Issues allowed) (state : State) :
    rel state (program.run exec state).2 := by
  induction program generalizing state with
  | done result => exact reflexive state
  | raise error => exact reflexive state
  | call request next ih =>
      have first := each request issues.1 state
      rw [run_call]
      rcases ended : exec request state with ⟨_ | reply, after⟩ <;> rw [ended] at first
      · exact first
      · exact transitive _ _ _ first (ih reply (issues.2 reply) after)

/-- The same when a call is cut short. -/
theorem runUntil_rel {Progress : Type}
    {interrupted : (request : Call) → Progress → State → State}
    (eachPart : ∀ request, allowed request → ∀ progress state,
      rel state (interrupted request progress state))
    (fault : Error) (schedule : Option (Nat × Progress))
    {program : CallProgram Call Reply Error Result} (issues : program.Issues allowed)
    (state : State) : rel state (program.runUntil exec interrupted fault schedule state).2 := by
  rcases schedule with _ | ⟨index, progress⟩
  · rw [runUntil_none]
    exact run_rel reflexive transitive each issues state
  · induction program generalizing index state with
    | done result => exact reflexive state
    | raise error => exact reflexive state
    | call request next ih =>
        cases index with
        | zero => exact eachPart request issues.1 progress state
        | succ index =>
            have first := each request issues.1 state
            rw [runUntil]
            rcases ended : exec request state with ⟨_ | reply, after⟩ <;> rw [ended] at first
            · exact first
            · exact transitive _ _ _ first (ih reply (issues.2 reply) after index)

end Relations

end CallProgram

end DistributedComputing
