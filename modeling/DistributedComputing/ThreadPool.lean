import Mathlib.Logic.Function.Basic
import DistributedComputing.CallProgram
import DistributedComputing.TransitionRuns

/-!
# Pools of threads

Any number of threads run programs over calls to one service, one call at a time in any
order, and events from outside happen in between.  A call may act in parts before it
completes.  Each thread is verified alone against what it relies on the others to do;
when what each one guarantees is what the others rely on, the whole pool is safe.
-/

namespace DistributedComputing

/-- What calls and events do to the shared state.  A choice is what the environment
contributes to a call. -/
structure Service (ThreadId Call : Type) (Reply : Call → Type)
    (Error State Choice Part Event : Type) where
  exec : ThreadId → Choice → (request : Call) → State → Except Error (Reply request) × State
  touch : ThreadId → Part → Call → State → State
  external : Event → State → State

/-- The shared state and the remaining program of every thread that was started. -/
structure ThreadPool (ThreadId Call : Type) (Reply : Call → Type)
    (Error State Result : Type) where
  state : State
  threads : ThreadId → Option (CallProgram Call Reply Error Result)

inductive PoolAction (ThreadId Call : Type) (Reply : Call → Type)
    (Error Choice Part Event Result : Type)
  | start (id : ThreadId) (program : CallProgram Call Reply Error Result)
  | call (id : ThreadId) (choice : Choice)
  | touch (id : ThreadId) (part : Part)
  | external (event : Event)

namespace ThreadPool

variable {ThreadId Call : Type} {Reply : Call → Type}
  {Error State Choice Part Event Result Next : Type}

/-- No thread yet. -/
def idle (state : State) : ThreadPool ThreadId Call Reply Error State Result where
  state := state
  threads _ := none

/-- The thread has a call to make. -/
def Running (pool : ThreadPool ThreadId Call Reply Error State Result) (id : ThreadId) : Prop :=
  ∃ request next, pool.threads id = some (.call request next)

section Steps

variable [DecidableEq ThreadId] (service : Service ThreadId Call Reply Error State Choice Part Event)

/-- One step.  A thread is started only when it has no call to make; a call or a part of
one is made only by a thread that has. -/
def step (pool : ThreadPool ThreadId Call Reply Error State Result) :
    PoolAction ThreadId Call Reply Error Choice Part Event Result →
      ThreadPool ThreadId Call Reply Error State Result
  | .start id program =>
      match pool.threads id with
      | some (.call _ _) => pool
      | _ => { pool with threads := Function.update pool.threads id (some program) }
  | .call id choice =>
      match pool.threads id with
      | some (.call request next) =>
          match service.exec id choice request pool.state with
          | (.ok reply, after) =>
              { state := after, threads := Function.update pool.threads id (some (next reply)) }
          | (.error error, after) =>
              { state := after, threads := Function.update pool.threads id (some (.raise error)) }
      | _ => pool
  | .touch id part =>
      match pool.threads id with
      | some (.call request _) =>
          { pool with state := service.touch id part request pool.state }
      | _ => pool
  | .external event => { pool with state := service.external event pool.state }

variable {service}

theorem step_start_state {pool : ThreadPool ThreadId Call Reply Error State Result} (id : ThreadId)
    (program : CallProgram Call Reply Error Result) :
    (step service pool (.start id program)).state = pool.state := by
  simp only [step]
  split <;> rfl

theorem step_call_state {pool : ThreadPool ThreadId Call Reply Error State Result} {id : ThreadId}
    {request : Call} {next : Reply request → CallProgram Call Reply Error Result}
    (found : pool.threads id = some (.call request next)) (choice : Choice) :
    (step service pool (.call id choice)).state =
      (service.exec id choice request pool.state).2 := by
  simp only [step, found]
  rcases service.exec id choice request pool.state with ⟨error | reply, after⟩ <;> rfl

theorem step_call_of_idle {pool : ThreadPool ThreadId Call Reply Error State Result} {id : ThreadId}
    (idle : ¬ pool.Running id) (choice : Choice) :
    step service pool (.call id choice) = pool := by
  simp only [step]
  split
  · rename_i request next found
    exact absurd ⟨request, next, found⟩ idle
  · rfl

end Steps

end ThreadPool

namespace CallProgram

variable {Call : Type} {Reply : Call → Type} {Error State Choice Part Result Next : Type}

section Safety

variable (permitted : Choice → Prop)
  (exec : Choice → (request : Call) → State → Except Error (Reply request) × State)
  (touch : Part → Call → State → State)
  (rely guar : State → State → Prop)

/-- From every state that the others may have left, each call keeps the guarantee, and
when the program returns, the postcondition holds. -/
def Safe (post : Result → State → Prop) :
    CallProgram Call Reply Error Result → State → Prop
  | .done result, state => post result state
  | .raise _, _ => True
  | .call request next, state => ∀ later, rely state later →
      (∀ part, guar later (touch part request later) ∧ rely later (touch part request later)) ∧
        ∀ choice, permitted choice →
          guar later (exec choice request later).2 ∧
            ∀ reply, (exec choice request later).1 = .ok reply →
              (next reply).Safe post (exec choice request later).2

variable {permitted exec touch rely guar}
  (transitive : ∀ first second third, rely first second → rely second third → rely first third)

include transitive in
/-- What the others do keeps a thread safe. -/
theorem Safe.mono {post : Result → State → Prop}
    (stable : ∀ result state later, rely state later → post result state → post result later)
    {program : CallProgram Call Reply Error Result} {state later : State}
    (relied : rely state later) (safe : program.Safe permitted exec touch rely guar post state) :
    program.Safe permitted exec touch rely guar post later := by
  cases program with
  | done result => exact stable result state later relied safe
  | raise error => trivial
  | call request next =>
      intro last reached
      exact safe last (transitive _ _ _ relied reached)

theorem Safe.weaken {post weaker : Result → State → Prop}
    (implied : ∀ result state, post result state → weaker result state)
    {program : CallProgram Call Reply Error Result} {state : State}
    (safe : program.Safe permitted exec touch rely guar post state) :
    program.Safe permitted exec touch rely guar weaker state := by
  induction program generalizing state with
  | done result => exact implied result state safe
  | raise error => trivial
  | call request next ih =>
      intro later relied
      obtain ⟨touches, calls⟩ := safe later relied
      refine ⟨touches, fun choice isPermitted => ?_⟩
      obtain ⟨guaranteed, rest⟩ := calls choice isPermitted
      exact ⟨guaranteed, fun reply returned => ih reply (rest reply returned)⟩

theorem Safe.bind {middle : Result → State → Prop} {post : Next → State → Prop}
    {program : CallProgram Call Reply Error Result}
    {after : Result → CallProgram Call Reply Error Next} {state : State}
    (safe : program.Safe permitted exec touch rely guar middle state)
    (rest : ∀ result later, middle result later →
      (after result).Safe permitted exec touch rely guar post later) :
    (program >>= after).Safe permitted exec touch rely guar post state := by
  induction program generalizing state with
  | done result => exact rest result state safe
  | raise error => trivial
  | call request next ih =>
      intro later relied
      obtain ⟨touches, calls⟩ := safe later relied
      refine ⟨touches, fun choice isPermitted => ?_⟩
      obtain ⟨guaranteed, continued⟩ := calls choice isPermitted
      exact ⟨guaranteed, fun reply returned => ih reply (continued reply returned)⟩

/-- One call followed by a program. -/
theorem Safe.perform {post : Next → State → Prop} {request : Call}
    {after : Reply request → CallProgram Call Reply Error Next} {state : State}
    (touches : ∀ later, rely state later → ∀ part,
      guar later (touch part request later) ∧ rely later (touch part request later))
    (calls : ∀ later, rely state later → ∀ choice, permitted choice →
      guar later (exec choice request later).2 ∧
        ∀ reply, (exec choice request later).1 = .ok reply →
          (after reply).Safe permitted exec touch rely guar post (exec choice request later).2) :
    (CallProgram.perform request >>= after).Safe permitted exec touch rely guar post state :=
  fun later relied => ⟨touches later relied, calls later relied⟩

/-- A program whose calls all keep the guarantee and an assertion that the others keep is
safe, and the assertion holds when it returns. -/
theorem Safe.of_issues {holds : State → Prop} {allowed : Call → Prop}
    (stable : ∀ state later, rely state later → holds state → holds later)
    (each : ∀ request, allowed request → ∀ state, holds state →
      (∀ part, guar state (touch part request state) ∧ rely state (touch part request state)) ∧
        ∀ choice, permitted choice →
          guar state (exec choice request state).2 ∧ holds (exec choice request state).2)
    {program : CallProgram Call Reply Error Result} (issues : program.Issues allowed)
    {state : State} (initially : holds state) :
    program.Safe permitted exec touch rely guar (fun _ => holds) state := by
  induction program generalizing state with
  | done result => exact initially
  | raise error => trivial
  | call request next ih =>
      intro later relied
      obtain ⟨touches, calls⟩ := each request issues.1 later (stable state later relied initially)
      refine ⟨touches, fun choice isPermitted => ?_⟩
      obtain ⟨guaranteed, kept⟩ := calls choice isPermitted
      exact ⟨guaranteed, fun reply _ => ih reply (issues.2 reply) kept⟩

end Safety

end CallProgram

/-! ## Safe pools -/

namespace ThreadPool

variable {ThreadId Call : Type} {Reply : Call → Type}
  {Error State Choice Part Event Result : Type}

/-- What a pool is verified against: an invariant of the shared state, what each thread
relies on and guarantees, and what holds when it returns. -/
structure Contract (ThreadId Call : Type) (Reply : Call → Type)
    (Error State Choice Part Event Result : Type) where
  service : Service ThreadId Call Reply Error State Choice Part Event
  permitted : Choice → Prop
  starts : ThreadId → CallProgram Call Reply Error Result → Prop
  happens : Event → State → Prop
  inv : State → Prop
  rely : ThreadId → State → State → Prop
  guar : ThreadId → State → State → Prop
  post : ThreadId → Result → State → Prop

namespace Contract

variable (contract : Contract ThreadId Call Reply Error State Choice Part Event Result)

/-- The thread is safe in a state. -/
def SafeThread (id : ThreadId) (program : CallProgram Call Reply Error Result)
    (state : State) : Prop :=
  program.Safe contract.permitted (contract.service.exec id) (contract.service.touch id)
    (contract.rely id) (contract.guar id) (contract.post id) state

/-- The obligations under which the threads fit together. -/
structure Fits : Prop where
  reflexive : ∀ id state, contract.inv state → contract.rely id state state
  transitive : ∀ id first second third, contract.rely id first second →
    contract.rely id second third → contract.rely id first third
  stable : ∀ id result state later, contract.rely id state later →
    contract.post id result state → contract.post id result later
  guarantees : ∀ id state later, contract.inv state → contract.guar id state later →
    contract.inv later ∧ ∀ other, other ≠ id → contract.rely other state later
  events : ∀ event state, contract.inv state → contract.happens event state →
    contract.inv (contract.service.external event state) ∧
      ∀ id, contract.rely id state (contract.service.external event state)
  started : ∀ id program state, contract.inv state → contract.starts id program →
    contract.SafeThread id program state

/-- The invariant holds and every thread is safe. -/
structure AllSafe (pool : ThreadPool ThreadId Call Reply Error State Result) : Prop where
  inv : contract.inv pool.state
  threads : ∀ id program, pool.threads id = some program →
    contract.SafeThread id program pool.state

/-- The actions that the contract is about. -/
def Allowed (pool : ThreadPool ThreadId Call Reply Error State Result) :
    PoolAction ThreadId Call Reply Error Choice Part Event Result → Prop
  | .start id program => contract.starts id program
  | .call _ choice => contract.permitted choice
  | .touch _ _ => True
  | .external event => contract.happens event pool.state

theorem allSafe_idle {state : State} (initially : contract.inv state) :
    contract.AllSafe (idle state) where
  inv := initially
  threads := by
    intro id program started
    cases started

variable {contract}

theorem AllSafe.threads_mono {pool : ThreadPool ThreadId Call Reply Error State Result}
    (fits : contract.Fits) (safe : contract.AllSafe pool) {later : State} {id : ThreadId}
    (relied : contract.rely id pool.state later) {program : CallProgram Call Reply Error Result}
    (found : pool.threads id = some program) : contract.SafeThread id program later :=
  CallProgram.Safe.mono (fits.transitive id) (fits.stable id) relied
    (safe.threads id program found)

variable [DecidableEq ThreadId]

/-- After a step of one thread, everything is safe if what that thread continues with is. -/
theorem AllSafe.advance {pool : ThreadPool ThreadId Call Reply Error State Result}
    (fits : contract.Fits) (safe : contract.AllSafe pool) {id : ThreadId} {later : State}
    (guaranteed : contract.guar id pool.state later)
    {program : CallProgram Call Reply Error Result}
    (continued : contract.SafeThread id program later) :
    contract.AllSafe
      { state := later, threads := Function.update pool.threads id (some program) } := by
  obtain ⟨kept, relied⟩ := fits.guarantees id pool.state later safe.inv guaranteed
  refine ⟨kept, ?_⟩
  intro other otherProgram found
  by_cases same : other = id
  · subst same
    have isProgram : program = otherProgram := by simpa using found
    rw [← isProgram]
    exact continued
  · have unchanged : pool.threads other = some otherProgram := by simpa [same] using found
    exact safe.threads_mono fits (relied other same) unchanged

theorem AllSafe.step {pool : ThreadPool ThreadId Call Reply Error State Result}
    (fits : contract.Fits) (safe : contract.AllSafe pool)
    {action : PoolAction ThreadId Call Reply Error Choice Part Event Result}
    (allowed : contract.Allowed pool action) :
    contract.AllSafe (ThreadPool.step contract.service pool action) := by
  cases action with
  | external event =>
      obtain ⟨kept, relied⟩ := fits.events event pool.state safe.inv allowed
      exact ⟨kept, fun id program found => safe.threads_mono fits (relied id) found⟩
  | start id program =>
      have fresh := fits.started id program pool.state safe.inv allowed
      have added : contract.AllSafe
          { pool with threads := Function.update pool.threads id (some program) } := by
        refine ⟨safe.inv, ?_⟩
        intro other otherProgram found
        by_cases same : other = id
        · subst same
          have isProgram : program = otherProgram := by simpa using found
          rw [← isProgram]
          exact fresh
        · exact safe.threads other otherProgram (by simpa [same] using found)
      simp only [ThreadPool.step]
      split
      · exact safe
      · exact added
  | touch id part =>
      simp only [ThreadPool.step]
      split
      · rename_i request next found
        have thread := safe.threads id _ found
        have here := fits.reflexive id pool.state safe.inv
        obtain ⟨guaranteed, relied⟩ := (thread pool.state here).1 part
        obtain ⟨kept, others⟩ := fits.guarantees id pool.state _ safe.inv guaranteed
        refine ⟨kept, ?_⟩
        intro other program otherFound
        by_cases same : other = id
        · subst same
          exact safe.threads_mono fits relied otherFound
        · exact safe.threads_mono fits (others other same) otherFound
      · exact safe
  | call id choice =>
      simp only [ThreadPool.step]
      split
      · rename_i request next found
        have thread := safe.threads id _ found
        have here := fits.reflexive id pool.state safe.inv
        obtain ⟨guaranteed, continued⟩ := (thread pool.state here).2 choice allowed
        rcases ended : contract.service.exec id choice request pool.state with
          ⟨error | reply, after⟩ <;> rw [ended] at guaranteed continued
        · exact safe.advance fits guaranteed trivial
        · exact safe.advance fits guaranteed (continued reply rfl)
      · exact safe

/-- A call leaves the shared state alone or keeps the guarantee of its thread. -/
theorem AllSafe.call_state {pool : ThreadPool ThreadId Call Reply Error State Result}
    (fits : contract.Fits) (safe : contract.AllSafe pool) (id : ThreadId) {choice : Choice}
    (isPermitted : contract.permitted choice) :
    (ThreadPool.step contract.service pool (.call id choice)).state = pool.state ∨
      contract.guar id pool.state
        (ThreadPool.step contract.service pool (.call id choice)).state := by
  simp only [ThreadPool.step]
  split
  · rename_i request next found
    have thread := safe.threads id _ found
    have guaranteed := ((thread pool.state (fits.reflexive id pool.state safe.inv)).2 choice
      isPermitted).1
    right
    rcases ended : contract.service.exec id choice request pool.state with
      ⟨error | reply, after⟩ <;> simpa [ended] using guaranteed
  · exact .inl rfl

/-- Every run of allowed actions from a safe pool stays safe. -/
theorem AllSafe.run {pool : ThreadPool ThreadId Call Reply Error State Result}
    (fits : contract.Fits) (safe : contract.AllSafe pool)
    {actions : List (PoolAction ThreadId Call Reply Error Choice Part Event Result)}
    (allowed : TransitionRuns.Along (ThreadPool.step contract.service) contract.Allowed pool
      actions) :
    contract.AllSafe (TransitionRuns.run (ThreadPool.step contract.service) pool actions) :=
  TransitionRuns.run_invariant_along (ThreadPool.step contract.service)
    (fun _ _ isAllowed isSafe => isSafe.step fits isAllowed) safe allowed

end Contract

end ThreadPool

end DistributedComputing
