import Mathlib.Algebra.Ring.Nat
import Mathlib.Data.List.Basic
import DistributedComputing.TransitionRuns

/-!
# Bounded retries of attempts that may raise

An attempt runs on a state and either returns or raises; in both cases it leaves a
state behind.  A retry loop makes attempts until one returns.  A transaction is an
attempt whose effects appear all at once, at its commit, so it can fail in two ways:
before the commit took effect, or after, when only the acknowledgement was lost.
-/

namespace DistributedComputing

namespace RetryLoop

variable {State Error Result : Type}

/-- Make the attempts in order until one of them returns; the last error is the
loop's.  Without any attempt the loop raises `exhausted`. -/
def retry (exhausted : Error) :
    List (State → Except Error Result × State) → State → Except Error Result × State
  | [], state => (.error exhausted, state)
  | [attempt], state => attempt state
  | attempt :: attempts, state =>
      match attempt state with
      | (.ok result, after) => (.ok result, after)
      | (.error _, after) => retry exhausted attempts after

@[simp]
theorem retry_singleton (exhausted : Error) (attempt : State → Except Error Result × State)
    (state : State) : retry exhausted [attempt] state = attempt state :=
  rfl

theorem retry_cons_of_ok (exhausted : Error)
    {attempt : State → Except Error Result × State}
    (attempts : List (State → Except Error Result × State)) {state after : State}
    {result : Result} (returned : attempt state = (.ok result, after)) :
    retry exhausted (attempt :: attempts) state = (.ok result, after) := by
  cases attempts with
  | nil => exact returned
  | cons next attempts => simp only [retry, returned]

theorem retry_cons_of_error (exhausted : Error)
    {attempt : State → Except Error Result × State}
    {attempts : List (State → Except Error Result × State)} (nonempty : attempts ≠ [])
    {state after : State} {error : Error} (raised : attempt state = (.error error, after)) :
    retry exhausted (attempt :: attempts) state = retry exhausted attempts after := by
  cases attempts with
  | nil => exact (nonempty rfl).elim
  | cons next attempts => simp only [retry, raised]

/-- When attempts that raise leave the state alone, the loop is one of its attempts. -/
theorem retry_eq_attempt (exhausted : Error)
    {attempts : List (State → Except Error Result × State)} (nonempty : attempts ≠ [])
    {state : State}
    (stable : ∀ attempt ∈ attempts, ∀ error after,
      attempt state = (.error error, after) → after = state) :
    ∃ attempt ∈ attempts, retry exhausted attempts state = attempt state := by
  induction attempts with
  | nil => exact (nonempty rfl).elim
  | cons attempt attempts ih =>
      rcases ended : attempt state with ⟨_ | result, after⟩
      · rename_i error
        have same := stable attempt (by simp) error after ended
        subst same
        cases attempts with
        | nil => exact ⟨attempt, by simp, rfl⟩
        | cons next attempts =>
            rw [retry_cons_of_error exhausted (by simp) ended]
            obtain ⟨other, member, equal⟩ := ih (by simp) fun other member =>
              stable other (by simp [member])
            exact ⟨other, by simp [member], equal⟩
      · refine ⟨attempt, by simp, ?_⟩
        rw [ended]
        exact retry_cons_of_ok exhausted attempts ended

/-- A relation that every attempt respects is respected by the loop. -/
theorem retry_rel {rel : State → State → Prop} (reflexive : ∀ state, rel state state)
    (transitive : ∀ first second third, rel first second → rel second third → rel first third)
    (exhausted : Error) {attempts : List (State → Except Error Result × State)}
    (each : ∀ attempt ∈ attempts, ∀ state, rel state (attempt state).2) (state : State) :
    rel state (retry exhausted attempts state).2 := by
  induction attempts generalizing state with
  | nil => exact reflexive state
  | cons attempt attempts ih =>
      have first := each attempt (by simp) state
      cases attempts with
      | nil => exact first
      | cons next attempts =>
          rcases ended : attempt state with ⟨_ | result, after⟩
          · rw [retry_cons_of_error exhausted (by simp) ended]
            rw [ended] at first
            exact transitive _ _ _ first
              (ih (fun other member => each other (by simp [member])) after)
          · rw [retry_cons_of_ok exhausted _ ended]
            rw [ended] at first
            exact first

section Attempted

open TransitionRuns

variable {Input : Type} (fn : Input → State → Except Error Result × State)

/-- The inputs of the attempts that are made, up to the first that returns. -/
def attempted : List Input → State → List Input
  | [], _ => []
  | input :: inputs, state =>
      input ::
        match fn input state with
        | (.ok _, _) => []
        | (.error _, after) => attempted inputs after

/-- An attempt as a step, whether it returns or raises. -/
def attemptStep (state : State) (input : Input) : State :=
  (fn input state).2

theorem attempted_sublist (inputs : List Input) (state : State) :
    (attempted fn inputs state).Sublist inputs := by
  induction inputs generalizing state with
  | nil => exact List.Sublist.refl []
  | cons input inputs ih =>
      rw [attempted]
      rcases fn input state with ⟨_ | result, after⟩
      · exact (ih after).cons_cons input
      · exact (List.nil_sublist inputs).cons_cons input

/-- The loop ends as the last of the attempts that are made. -/
theorem retry_eq_last (exhausted : Error) {inputs : List Input} (nonempty : inputs ≠ [])
    (state : State) : ∃ earlier last, attempted fn inputs state = earlier ++ [last] ∧
      retry exhausted (inputs.map fn) state = fn last (run (attemptStep fn) state earlier) := by
  induction inputs generalizing state with
  | nil => exact (nonempty rfl).elim
  | cons input inputs ih =>
      rcases ended : fn input state with ⟨_ | result, after⟩
      · rcases inputs with _ | ⟨next, inputs⟩
        · exact ⟨[], input, by simp [attempted, ended], rfl⟩
        · obtain ⟨earlier, last, made, equal⟩ := ih (by simp) after
          refine ⟨input :: earlier, last, ?_, ?_⟩
          · rw [attempted, ended]
            simpa using made
          · rw [List.map_cons, retry_cons_of_error exhausted (by simp) ended, equal, run_cons,
              attemptStep, ended]
      · refine ⟨[], input, by simp [attempted, ended], ?_⟩
        rw [List.map_cons, retry_cons_of_ok exhausted _ ended]
        exact ended.symm

theorem retry_state (exhausted : Error) (inputs : List Input) (state : State) :
    (retry exhausted (inputs.map fn) state).2 =
      run (attemptStep fn) state (attempted fn inputs state) := by
  cases inputs with
  | nil => rfl
  | cons input inputs =>
      obtain ⟨earlier, last, made, equal⟩ :=
        retry_eq_last fn exhausted (List.cons_ne_nil input inputs) state
      rw [equal, made, run_append]
      rfl

/-- The attempts that are made, each with the state that it finds. -/
def made (inputs : List Input) (state : State) : List (State × Input) :=
  visits (attemptStep fn) state (attempted fn inputs state)

theorem made_of_ok {input : Input} {state after : State} {result : Result}
    (returned : fn input state = (.ok result, after)) (inputs : List Input) :
    made fn (input :: inputs) state = [(state, input)] := by
  simp [made, attempted, visits, returned]

theorem made_of_error {input : Input} {state after : State} {error : Error}
    (raised : fn input state = (.error error, after)) (inputs : List Input) :
    made fn (input :: inputs) state = (state, input) :: made fn inputs after := by
  simp [made, attempted, visits, attemptStep, raised]

/-- Only the last attempt that is made may return. -/
theorem pairwise_made (inputs : List Input) (state : State) :
    (made fn inputs state).Pairwise fun earlier _ =>
      ∃ error, (fn earlier.2 earlier.1).1 = .error error := by
  induction inputs generalizing state with
  | nil => exact List.Pairwise.nil
  | cons input inputs ih =>
      rcases ended : fn input state with ⟨error | result, after⟩
      · rw [made_of_error fn ended]
        exact List.Pairwise.cons (fun _ _ => ⟨error, by rw [ended]⟩) (ih after)
      · rw [made_of_ok fn ended]
        exact List.pairwise_singleton _ _

/-- The loop returns what one of its attempts returns. -/
theorem retry_of_returned (exhausted : Error) {inputs : List Input} {state after : State}
    {visit : State × Input} (member : visit ∈ made fn inputs state) {result : Result}
    (returned : fn visit.2 visit.1 = (.ok result, after)) :
    retry exhausted (inputs.map fn) state = (.ok result, after) := by
  induction inputs generalizing state with
  | nil => cases member
  | cons input inputs ih =>
      rcases ended : fn input state with ⟨error | other, middle⟩
      · rw [made_of_error fn ended] at member
        rcases List.mem_cons.mp member with rfl | later
        · rw [ended] at returned
          cases returned
        · have nonempty : inputs.map fn ≠ [] := by
            rintro none
            rw [List.map_eq_nil_iff.mp none] at later
            cases later
          rw [List.map_cons, retry_cons_of_error exhausted nonempty ended]
          exact ih later
      · rw [made_of_ok fn ended] at member
        rw [List.mem_singleton.mp member, ended] at returned
        rw [List.map_cons, retry_cons_of_ok exhausted _ ended, returned]

/-- A quantity grows by what the attempts add to it. -/
theorem retry_measure (exhausted : Error) (measure : State → Nat) (gain : State × Input → Nat)
    (each : ∀ input state, measure (fn input state).2 = measure state + gain (state, input))
    (inputs : List Input) (state : State) :
    measure (retry exhausted (inputs.map fn) state).2 =
      measure state + ((made fn inputs state).map gain).sum := by
  induction inputs generalizing state with
  | nil => rfl
  | cons input inputs ih =>
      have first := each input state
      rcases ended : fn input state with ⟨error | result, after⟩ <;> rw [ended] at first
      · rw [made_of_error fn ended]
        cases inputs with
        | nil => simpa [ended, made, attempted, visits] using first
        | cons next inputs =>
            rw [List.map_cons, retry_cons_of_error exhausted (by simp) ended, ih after, first]
            rw [List.map_cons, List.sum_cons, Nat.add_assoc]
      · rw [made_of_ok fn ended, List.map_cons, retry_cons_of_ok exhausted _ ended, first]
        simp

end Attempted

end RetryLoop

/-- How a transaction body ends: rolled back, or committed with its effects. -/
inductive TxEnd (State Result : Type)
  | abort (result : Result)
  | commit (result : Result) (after : State)

/-- What the database does to one transaction: nothing, an exception before the
commit took effect, or a commit that took effect but was not acknowledged. -/
inductive TxFault
  | none
  | beforeCommit
  | commitLost
  deriving DecidableEq

namespace TxEnd

variable {State Error Result : Type}

/-- Run a transaction body under a fault.  The state changes only by a commit. -/
def attempt (fault : TxFault) (raised : Error) (body : State → Except Error (TxEnd State Result))
    (state : State) : Except Error Result × State :=
  match fault, body state with
  | .beforeCommit, _ => (.error raised, state)
  | _, .error error => (.error error, state)
  | _, .ok (.abort result) => (.ok result, state)
  | .none, .ok (.commit result after) => (.ok result, after)
  | .commitLost, .ok (.commit _ after) => (.error raised, after)

@[simp]
theorem attempt_beforeCommit (raised : Error)
    (body : State → Except Error (TxEnd State Result)) (state : State) :
    attempt .beforeCommit raised body state = (.error raised, state) := by
  simp [attempt]

theorem attempt_of_error (fault : TxFault) (raised : Error)
    {body : State → Except Error (TxEnd State Result)} {state : State} {error : Error}
    (failed : body state = .error error) :
    ∃ thrown, attempt fault raised body state = (.error thrown, state) := by
  cases fault <;> simp [attempt, failed]

/-- Whatever the fault, the state is that before the transaction or that of its commit. -/
theorem attempt_rel (rel : State → State → Prop) {state : State} (reflexive : rel state state)
    (fault : TxFault) (raised : Error) {body : State → Except Error (TxEnd State Result)}
    (committed : ∀ result after, body state = .ok (.commit result after) → rel state after) :
    rel state (attempt fault raised body state).2 := by
  rcases ended : body state with error | ⟨result⟩ | ⟨result, after⟩
  · cases fault <;> simpa [attempt, ended] using reflexive
  · cases fault <;> simpa [attempt, ended] using reflexive
  · have kept := committed result after ended
    cases fault
    · simpa [attempt, ended] using kept
    · simpa [attempt, ended] using reflexive
    · simpa [attempt, ended] using kept

/-- What a transaction without a fault leaves behind. -/
def settle (state : State) : Except Error (TxEnd State Result) → Except Error Result × State
  | .error error => (.error error, state)
  | .ok (.abort result) => (.ok result, state)
  | .ok (.commit result after) => (.ok result, after)

theorem attempt_none (raised : Error)
    (body : State → Except Error (TxEnd State Result)) (state : State) :
    attempt .none raised body state = settle state (body state) := by
  cases ended : body state with
  | error error => simp [attempt, settle, ended]
  | ok ending => cases ending <;> simp [attempt, settle, ended]

theorem settle_stable {state after : State} {ended : Except Error (TxEnd State Result)}
    {error : Error} (raised : settle state ended = (.error error, after)) : after = state := by
  cases ended with
  | error other => exact (Prod.mk.inj raised).2.symm
  | ok ending => cases ending <;> simp [settle] at raised

end TxEnd

namespace RetryLoop

variable {State Error Result Input : Type}

/-- The attempt returns only what the pass returns, with the state that it leaves. -/
def ReturnsAs (attempt pass : State → Except Error Result × State) : Prop :=
  ∀ state result after, attempt state = (.ok result, after) → pass state = (.ok result, after)

/-- The attempt is the pass, or it raises after all or nothing of the effect. -/
def AllOrNothing (attempt pass : State → Except Error Result × State) : Prop :=
  ∀ state, attempt state = pass state ∨ ∃ error,
    attempt state = (.error error, state) ∨ attempt state = (.error error, (pass state).2)

theorem AllOrNothing.returnsAs {attempt pass : State → Except Error Result × State}
    (whole : AllOrNothing attempt pass) : ReturnsAs attempt pass := by
  intro state result after returned
  rcases whole state with same | ⟨error, nothing | all⟩
  · rw [← same, returned]
  · rw [nothing] at returned
    cases returned
  · rw [all] at returned
    cases returned

theorem allOrNothing_of_eq {attempt pass : State → Except Error Result × State}
    (same : ∀ state, attempt state = pass state) : AllOrNothing attempt pass :=
  fun state => .inl (same state)

/-- A transaction under any fault has the effect of its body or none. -/
theorem allOrNothing_attempt (fault : TxFault) (raised : Error)
    (body : State → Except Error (TxEnd State Result)) :
    AllOrNothing (TxEnd.attempt fault raised body) fun state =>
      TxEnd.settle state (body state) := by
  intro state
  cases fault with
  | none => exact .inl (TxEnd.attempt_none raised body state)
  | beforeCommit => exact .inr ⟨raised, .inl (TxEnd.attempt_beforeCommit raised body state)⟩
  | commitLost =>
      cases ended : body state with
      | error error => exact .inl (by simp [TxEnd.attempt, TxEnd.settle, ended])
      | ok ending =>
          cases ending with
          | abort result => exact .inl (by simp [TxEnd.attempt, TxEnd.settle, ended])
          | commit result after =>
              exact .inr ⟨raised, .inr (by simp [TxEnd.attempt, TxEnd.settle, ended])⟩

variable {fn pass : Input → State → Except Error Result × State}

/-- What the loop returns, one pass returns. -/
theorem exists_pass_of_retry (exhausted : Error) {inputs : List Input}
    (each : ∀ input ∈ inputs, ReturnsAs (fn input) (pass input)) {state after : State}
    {result : Result} (returned : retry exhausted (inputs.map fn) state = (.ok result, after)) :
    ∃ input ∈ inputs, ∃ before, pass input before = (.ok result, after) := by
  cases inputs with
  | nil => cases returned
  | cons first rest =>
      obtain ⟨earlier, last, made, equal⟩ :=
        retry_eq_last fn exhausted (List.cons_ne_nil first rest) state
      have member : last ∈ first :: rest :=
        (attempted_sublist fn (first :: rest) state).subset (by simp [made])
      rw [equal] at returned
      exact ⟨last, member, _, each last member _ _ _ returned⟩

/-- What every pass preserves, a loop of attempts that have all or nothing of its effect
preserves. -/
theorem retry_invariant (exhausted : Error) {holds : State → Prop} {inputs : List Input}
    (each : ∀ input ∈ inputs, AllOrNothing (fn input) (pass input))
    (preserved : ∀ input ∈ inputs, ∀ state, holds state → holds (pass input state).2)
    {state : State} (initially : holds state) :
    holds (retry exhausted (inputs.map fn) state).2 := by
  let follows : State → State → Prop := fun before after => holds before → holds after
  have kept : follows state (retry exhausted (inputs.map fn) state).2 := by
    apply retry_rel
    · exact fun _ held => held
    · exact fun _ _ _ start rest held => rest (start held)
    · intro attempt member before held
      obtain ⟨input, inputMember, rfl⟩ := List.mem_map.mp member
      have after := preserved input inputMember before held
      rcases each input inputMember before with same | ⟨error, nothing | all⟩
      · rwa [same]
      · rwa [nothing]
      · rwa [all]
  exact kept initially

end RetryLoop

end DistributedComputing
