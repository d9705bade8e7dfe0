import DistributedComputing.ThreadPool

/-!
# Programs that keep an order of calls

A protocol says which calls a program may make in which mode, and in which mode it is
after each of them.  A program that follows the protocol does so whatever it is answered,
so that the mode of a thread is known from the calls that it has made.
-/

namespace DistributedComputing

namespace CallProgram

variable {Call : Type} {Reply : Call → Type} {Error Result Next Mode : Type}
  {protocol : Mode → Call → Option Mode}

/-- From the mode the program makes only calls of the protocol, and it ends in a mode that
suits its result. -/
def Follows (protocol : Mode → Call → Option Mode) (post : Result → Mode → Prop) :
    CallProgram Call Reply Error Result → Mode → Prop
  | .done result, mode => post result mode
  | .raise _, _ => True
  | .call request next, mode =>
      ∃ later, protocol mode request = some later ∧
        ∀ reply, (next reply).Follows protocol post later

theorem Follows.perform {post : Next → Mode → Prop} {request : Call} {mode later : Mode}
    {after : Reply request → CallProgram Call Reply Error Next}
    (allowed : protocol mode request = some later)
    (rest : ∀ reply, (after reply).Follows protocol post later) :
    (CallProgram.perform request >>= after).Follows protocol post mode :=
  ⟨later, allowed, rest⟩

theorem Follows.bind {middle : Result → Mode → Prop} {post : Next → Mode → Prop} {mode : Mode}
    {program : CallProgram Call Reply Error Result}
    {after : Result → CallProgram Call Reply Error Next}
    (first : program.Follows protocol middle mode)
    (rest : ∀ result later, middle result later → (after result).Follows protocol post later) :
    (program >>= after).Follows protocol post mode := by
  induction program generalizing mode with
  | done result => exact rest result mode first
  | raise error => trivial
  | call request next ih =>
      obtain ⟨later, allowed, continued⟩ := first
      exact ⟨later, allowed, fun reply => ih reply (continued reply)⟩

/-- A program whose calls leave the mode as it is. -/
theorem Follows.of_issues {allowed : Call → Prop} {mode : Mode}
    (stays : ∀ request, allowed request → protocol mode request = some mode)
    {program : CallProgram Call Reply Error Result} (issues : program.Issues allowed) :
    program.Follows protocol (fun _ later => later = mode) mode := by
  induction program with
  | done result => rfl
  | raise error => trivial
  | call request next ih =>
      exact ⟨mode, stays request issues.1, fun reply => ih reply (issues.2 reply)⟩

end CallProgram

/-! ## Threads that follow a protocol -/

namespace ThreadPool

variable {ThreadId Call : Type} {Reply : Call → Type}
  {Error State Choice Part Event Result Mode : Type}

/-- The thread was started, and what is left of it follows the protocol from the mode. -/
def InMode (protocol : Mode → Call → Option Mode) (post : Result → Mode → Prop)
    (pool : ThreadPool ThreadId Call Reply Error State Result) (id : ThreadId)
    (mode : Mode) : Prop :=
  ∃ program, pool.threads id = some program ∧ program.Follows protocol post mode

/-- Every thread follows the protocol from some mode. -/
def AllFollow (protocol : Mode → Call → Option Mode) (post : Result → Mode → Prop)
    (pool : ThreadPool ThreadId Call Reply Error State Result) : Prop :=
  ∀ id program, pool.threads id = some program → ∃ mode, program.Follows protocol post mode

theorem allFollow_idle {protocol : Mode → Call → Option Mode} {post : Result → Mode → Prop}
    (state : State) :
    AllFollow protocol post
      (idle state : ThreadPool ThreadId Call Reply Error State Result) := by
  intro id program started
  cases started

/-- In a mode in which nothing may end, a thread whose calls do not raise has one to make. -/
theorem InMode.running {protocol : Mode → Call → Option Mode} {post : Result → Mode → Prop}
    {pool : ThreadPool ThreadId Call Reply Empty State Result} {id : ThreadId} {mode : Mode}
    (inMode : pool.InMode protocol post id mode) (unfinished : ∀ result, ¬ post result mode) :
    pool.Running id := by
  obtain ⟨program, found, follows⟩ := inMode
  cases program with
  | done result => exact absurd follows (unfinished result)
  | raise error => exact error.elim
  | call request next => exact ⟨request, next, found⟩

variable [DecidableEq ThreadId]
  {service : Service ThreadId Call Reply Error State Choice Part Event}
  {protocol : Mode → Call → Option Mode} {post : Result → Mode → Prop}
  {pool : ThreadPool ThreadId Call Reply Error State Result} {id : ThreadId} {mode : Mode}

/-- A call that is answered moves its thread on. -/
theorem InMode.call (inMode : pool.InMode protocol post id mode) {request : Call}
    {next : Reply request → CallProgram Call Reply Error Result}
    (found : pool.threads id = some (.call request next)) (choice : Choice) :
    ∃ later, protocol mode request = some later ∧
      (step service pool (.call id choice)).InMode protocol post id later := by
  obtain ⟨program, isProgram, follows⟩ := inMode
  rw [found, Option.some_inj] at isProgram
  subst isProgram
  obtain ⟨later, allowed, rest⟩ := follows
  refine ⟨later, allowed, ?_⟩
  simp only [step, found]
  rcases service.exec id choice request pool.state with ⟨error | reply, after⟩
  · exact ⟨_, Function.update_self .., trivial⟩
  · exact ⟨_, Function.update_self .., rest reply⟩

/-- An action of the environment or of another thread leaves the thread as it is, and a
start replaces one that has no call to make. -/
theorem threads_step_of_other
    (service : Service ThreadId Call Reply Error State Choice Part Event)
    {action : PoolAction ThreadId Call Reply Error Choice Part Event Result}
    (other : ∀ choice, action ≠ .call id choice) :
    (step service pool action).threads id = pool.threads id ∨
      ¬ pool.Running id ∧ ∃ program, action = .start id program ∧
        (step service pool action).threads id = some program := by
  cases action with
  | start starting program =>
      by_cases same : id = starting
      · subst same
        by_cases running : pool.Running id
        · obtain ⟨request, next, found⟩ := running
          exact .inl (by simp only [step, found])
        · refine .inr ⟨running, program, rfl, ?_⟩
          simp only [step]
          split
          · rename_i request next found
            exact absurd ⟨request, next, found⟩ running
          · exact Function.update_self ..
      · left
        simp only [step]
        split
        · rfl
        · exact Function.update_of_ne same ..
  | call calling choice =>
      have different : id ≠ calling := by
        rintro rfl
        exact other choice rfl
      left
      simp only [step]
      split
      · rcases service.exec calling choice _ pool.state with ⟨error | reply, after⟩ <;>
          exact Function.update_of_ne different ..
      · rfl
  | touch touching part =>
      left
      simp only [step]
      split <;> rfl
  | external event => exact .inl rfl

/-- Where every program that starts follows the protocol, all threads always do. -/
theorem AllFollow.step (follow : pool.AllFollow protocol post)
    {action : PoolAction ThreadId Call Reply Error Choice Part Event Result}
    (starts : ∀ id program, action = .start id program →
      ∃ mode, program.Follows protocol post mode) :
    (step service pool action).AllFollow protocol post := by
  have updated : ∀ (id : ThreadId) (program : CallProgram Call Reply Error Result)
      (state : State), (∃ mode, program.Follows protocol post mode) →
      AllFollow protocol post
        { state := state, threads := Function.update pool.threads id (some program) } := by
    intro id program state follows other found isFound
    by_cases same : other = id
    · subst same
      have isProgram : program = found := by simpa using isFound
      exact isProgram ▸ follows
    · have unchanged : pool.threads other = some found := by simpa [same] using isFound
      exact follow other found unchanged
  cases action with
  | start id program =>
      simp only [ThreadPool.step]
      split
      · exact follow
      · exact updated id program pool.state (starts id program rfl)
  | call id choice =>
      simp only [ThreadPool.step]
      split
      · rename_i request next found
        obtain ⟨mode, later, _, rest⟩ := follow id _ found
        rcases service.exec id choice request pool.state with ⟨error | reply, after⟩
        · exact updated id (.raise error) after ⟨mode, trivial⟩
        · exact updated id (next reply) after ⟨later, rest reply⟩
      · exact follow
  | touch id part =>
      simp only [ThreadPool.step]
      split <;> exact follow
  | external event => exact follow

end ThreadPool

end DistributedComputing
