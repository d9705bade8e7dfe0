import DistributedComputing.RowLocks

/-!
# Programs of transactions with row locks

A program of one session is verified against what the others may do, or run alone.
-/

namespace DistributedComputing

namespace RowEngine

variable {Session Database Key Change Value Error : Type}

/-! ## Programs of a session -/

section Programs

variable [DecidableEq Session] [DecidableEq Key]
  (engine : RowEngine Database Key Change Value Error)
  (good : Session → List Database → Database → Database → Prop)
  {Result Next : Type}

/-- The engine as the sessions share it. -/
def service : Service Session (SessionCall Key Change) (SessionCall.Reply Database Value) Error
    (Sessions Session Database Key Change) (CallFault Error) Empty Empty where
  exec id fault call sessions := sessions.exec engine id fault call
  touch _ part := part.elim
  external event := event.elim

/-- From the precondition a program makes only good commits, whatever the other sessions do
and whatever fails, and when it returns, the postcondition holds. -/
def Triple (id : Session) (pre : Sessions Session Database Key Change → Prop)
    (program : CallProgram (SessionCall Key Change) (SessionCall.Reply Database Value) Error Result)
    (post : Result → Sessions Session Database Key Change → Prop) : Prop :=
  ∀ sessions, pre sessions →
    program.Safe (fun _ => True) (engine.service.exec id) (engine.service.touch id)
      (engine.Relies good id) (engine.Advances good id) post sessions

/-- An assertion that the other sessions keep. -/
def Stable (id : Session) (holds : Sessions Session Database Key Change → Prop) : Prop :=
  ∀ sessions later, engine.Relies good id sessions later → holds sessions → holds later

variable {engine good} {id : Session} {pre : Sessions Session Database Key Change → Prop}

theorem Triple.done {result : Result}
    {post : Result → Sessions Session Database Key Change → Prop}
    (implied : ∀ sessions, pre sessions → post result sessions) :
    engine.Triple good id pre (.done result) post :=
  implied

theorem Triple.raise {error : Error}
    {post : Result → Sessions Session Database Key Change → Prop} :
    engine.Triple good id pre (.raise error) post :=
  fun _ _ => trivial

theorem Triple.bind
    {program : CallProgram (SessionCall Key Change) (SessionCall.Reply Database Value) Error Result}
    {after : Result →
      CallProgram (SessionCall Key Change) (SessionCall.Reply Database Value) Error Next}
    {middle : Result → Sessions Session Database Key Change → Prop}
    {post : Next → Sessions Session Database Key Change → Prop}
    (first : engine.Triple good id pre program middle)
    (rest : ∀ result, engine.Triple good id (middle result) (after result) post) :
    engine.Triple good id pre (program >>= after) post :=
  fun sessions holds => CallProgram.Safe.bind (first sessions holds)
    fun result later reached => rest result later reached

theorem Triple.imp {strong : Sessions Session Database Key Change → Prop}
    {program : CallProgram (SessionCall Key Change) (SessionCall.Reply Database Value) Error Result}
    {post weak : Result → Sessions Session Database Key Change → Prop}
    (triple : engine.Triple good id pre program post)
    (before : ∀ sessions, strong sessions → pre sessions)
    (after : ∀ result sessions, post result sessions → weak result sessions) :
    engine.Triple good id strong program weak :=
  fun sessions holds => CallProgram.Safe.weaken after (triple sessions (before sessions holds))

/-- A call returns only when nothing goes wrong with it. -/
theorem exec_of_returned {fault : CallFault Error} {call : SessionCall Key Change}
    {sessions : Sessions Session Database Key Change} {reply : call.Reply Database Value}
    (returned : (sessions.exec engine id fault call).1 = .ok reply) :
    sessions.exec engine id fault call = sessions.exec engine id .none call := by
  cases fault with
  | none => rfl
  | failed error => cases returned
  | unacknowledged error => cases call <;> cases returned

theorem Triple.perform {call : SessionCall Key Change} (stable : engine.Stable good id pre)
    (isGood : call = .commit → ∀ sessions, pre sessions →
      good id (sessions.reads id) sessions.committed (sessions.view engine id))
    {post : call.Reply Database Value → Sessions Session Database Key Change → Prop}
    (returns : ∀ sessions, pre sessions → ∀ reply after,
      sessions.exec engine id .none call = (.ok reply, after) → post reply after) :
    engine.Triple good id pre (CallProgram.perform call) post := by
  intro sessions holds later relied
  have held := stable sessions later relied holds
  refine ⟨fun part => part.elim, fun fault _ => ⟨?_, ?_⟩⟩
  · exact advances_exec id later fault call fun isCommit => isGood isCommit later held
  · intro reply returned
    have plain := exec_of_returned returned
    have same : later.exec engine id .none call =
        (.ok reply, (later.exec engine id fault call).2) := by
      rw [← plain]
      exact Prod.ext returned rfl
    exact returns later held reply _ same

/-- What a transaction has read it has read until another one begins. -/
theorem mem_reads_exec {seen : Database} {sessions : Sessions Session Database Key Change}
    (isRead : seen ∈ sessions.reads id) (fault : CallFault Error)
    {call : SessionCall Key Change} (sameTransaction : call ≠ .start) :
    seen ∈ (sessions.exec engine id fault call).2.reads id := by
  cases fault with
  | failed error => exact isRead
  | unacknowledged error => cases call <;> exact isRead
  | none =>
      cases call with
      | start => exact absurd rfl sameTransaction
      | view => simp [Sessions.exec, Sessions.read, isRead]
      | commit => exact isRead
      | rollback => exact isRead
      | lock key =>
          rw [Sessions.exec_lock]
          split <;> exact isRead
      | tryLock key =>
          rw [Sessions.exec_tryLock]
          split <;> exact isRead
      | write change =>
          rw [Sessions.exec_write]
          split <;> exact isRead
      | draw =>
          rw [Sessions.exec_draw]
          split <;> exact isRead

/-- A program within a transaction remembers what was read before it. -/
theorem Triple.remember
    {program : CallProgram (SessionCall Key Change) (SessionCall.Reply Database Value) Error Result}
    {post : Result → Sessions Session Database Key Change → Prop}
    (triple : engine.Triple good id pre program post)
    (issues : program.Issues fun call => call ≠ .start) (seen : List Database) :
    engine.Triple good id (fun sessions => seen ⊆ sessions.reads id ∧ pre sessions) program
      fun result sessions => seen ⊆ sessions.reads id ∧ post result sessions := by
  rintro sessions ⟨isRead, holds⟩
  have safe := triple sessions holds
  clear triple holds
  induction program generalizing sessions with
  | done result => exact ⟨isRead, safe⟩
  | raise error => trivial
  | call request next ih =>
      intro later relied
      have stillRead : seen ⊆ later.reads id := relied.reads.symm ▸ isRead
      refine ⟨fun part => part.elim, fun fault isPermitted => ?_⟩
      obtain ⟨advances, continued⟩ := (safe later relied).2 fault isPermitted
      refine ⟨advances, fun reply returned => ?_⟩
      exact ih reply (issues.2 reply) _
        (fun _ member => mem_reads_exec (stillRead member) fault issues.1)
        (continued reply returned)

section Calls

variable (stable : engine.Stable good id pre)

include stable

theorem triple_start {post : Unit → Sessions Session Database Key Change → Prop}
    (started : ∀ sessions, pre sessions → post () (sessions.start id)) :
    engine.Triple good id pre (CallProgram.perform .start) post := by
  refine .perform stable (by simp) ?_
  rintro sessions holds reply after ⟨⟩
  exact started sessions holds

theorem triple_rollback {post : Unit → Sessions Session Database Key Change → Prop}
    (closed : ∀ sessions, pre sessions → post () (sessions.close id)) :
    engine.Triple good id pre (CallProgram.perform .rollback) post := by
  refine .perform stable (by simp) ?_
  rintro sessions holds reply after ⟨⟩
  exact closed sessions holds

theorem triple_view {post : Database → Sessions Session Database Key Change → Prop}
    (viewed : ∀ sessions, pre sessions →
      post (sessions.view engine id) (sessions.read engine id)) :
    engine.Triple good id pre (CallProgram.perform .view) post := by
  refine .perform stable (by simp) ?_
  rintro sessions holds reply after ⟨⟩
  exact viewed sessions holds

theorem triple_lock {key : Key} {post : Database → Sessions Session Database Key Change → Prop}
    (acquired : ∀ sessions, pre sessions →
      post (sessions.view engine id) (sessions.acquire id key)) :
    engine.Triple good id pre (CallProgram.perform (.lock key)) post := by
  refine .perform stable (by simp) ?_
  intro sessions holds reply after made
  rw [Sessions.exec_lock] at made
  split at made <;> cases made
  exact acquired sessions holds

theorem triple_tryLock {key : Key}
    {post : Option Database → Sessions Session Database Key Change → Prop}
    (acquired : ∀ sessions, pre sessions →
      post (some (sessions.view engine id)) (sessions.acquire id key))
    (skipped : ∀ sessions, pre sessions → post none sessions) :
    engine.Triple good id pre (CallProgram.perform (.tryLock key)) post := by
  refine .perform stable (by simp) ?_
  intro sessions holds reply after made
  rw [Sessions.exec_tryLock] at made
  split at made <;> cases made
  · exact acquired sessions holds
  · exact skipped sessions holds

theorem triple_write {change : Change}
    {post : Unit → Sessions Session Database Key Change → Prop}
    (written : ∀ sessions, pre sessions → post () (sessions.append id change)) :
    engine.Triple good id pre (CallProgram.perform (.write change)) post := by
  refine .perform stable (by simp) ?_
  intro sessions holds reply after made
  rw [Sessions.exec_write] at made
  split at made <;> cases made
  exact written sessions holds

theorem triple_draw {post : Value → Sessions Session Database Key Change → Prop}
    (drawn : ∀ sessions, pre sessions → ∀ value after,
      engine.draw sessions.committed = .ok (value, after) →
        post value { sessions with committed := after }) :
    engine.Triple good id pre (CallProgram.perform .draw) post := by
  refine .perform stable (by simp) ?_
  intro sessions holds reply after made
  rw [Sessions.exec_draw] at made
  split at made <;> cases made
  rename_i database isDrawn
  exact drawn sessions holds reply database isDrawn

theorem triple_commit {post : Unit → Sessions Session Database Key Change → Prop}
    (isGood : ∀ sessions, pre sessions →
      good id (sessions.reads id) sessions.committed (sessions.view engine id))
    (committed : ∀ sessions, pre sessions → post () (sessions.commit engine id)) :
    engine.Triple good id pre (CallProgram.perform .commit) post := by
  refine .perform stable (fun _ => isGood) ?_
  rintro sessions holds reply after ⟨⟩
  exact committed sessions holds

end Calls

/-! ## A session without others -/

section Alone

variable (engine) (id)

/-- No other session holds a row, and this one sees a view of the database. -/
structure Alone (committed view : Database) (held : List Key)
    (sessions : Sessions Session Database Key Change) : Prop where
  committed : sessions.committed = committed
  view : sessions.view engine id = view
  free : ∀ key, sessions.Free id key
  held : ∀ key ∈ held, sessions.holder key = some id

/-- The program returns when it runs alone, and the session sees another view then. -/
def Returns
    (program : CallProgram (SessionCall Key Change) (SessionCall.Reply Database Value) Error Result)
    (view : Database) (held : List Key) (result : Result) (later : Database)
    (kept : List Key) : Prop :=
  ∀ committed sessions, engine.Alone id committed view held sessions →
    ∃ after, program.run (fun call sessions => sessions.exec engine id .none call) sessions =
        (.ok result, after) ∧ engine.Alone id committed later kept after

variable {engine id} {view : Database} {held : List Key}

omit [DecidableEq Session] [DecidableEq Key] in
theorem alone_start (committed : Database) :
    engine.Alone id committed committed []
      ({ committed := committed } : Sessions Session Database Key Change) where
  committed := rfl
  view := rfl
  free _ := .inl rfl
  held := by simp

omit [DecidableEq Key] in
theorem Alone.close {committed : Database}
    {sessions : Sessions Session Database Key Change}
    (alone : engine.Alone id committed view held sessions) :
    engine.Alone id committed committed [] (sessions.close id) where
  committed := alone.committed
  view := by
    rw [Sessions.view]
    simpa [Sessions.close] using alone.committed
  free key := by
    rcases alone.free key with free | mine
    · exact .inl (by simp [Sessions.close, free])
    · exact .inl (by simp [Sessions.close, mine])
  held := by simp

omit [DecidableEq Key] in
theorem Alone.start {committed : Database}
    {sessions : Sessions Session Database Key Change}
    (alone : engine.Alone id committed view held sessions) :
    engine.Alone id committed committed [] (sessions.start id) :=
  ⟨alone.close.committed, alone.close.view, alone.close.free, alone.close.held⟩

theorem Returns.done (result : Result) : engine.Returns id (.done result) view held result view
    held :=
  fun _ sessions alone => ⟨sessions, rfl, alone⟩

theorem Returns.bind
    {program : CallProgram (SessionCall Key Change) (SessionCall.Reply Database Value) Error Result}
    {next : Result →
      CallProgram (SessionCall Key Change) (SessionCall.Reply Database Value) Error Next}
    {result : Result} {final : Next} {middle last : Database} {kept rest : List Key}
    (first : engine.Returns id program view held result middle kept)
    (second : engine.Returns id (next result) middle kept final last rest) :
    engine.Returns id (program >>= next) view held final last rest := by
  intro committed sessions alone
  obtain ⟨between, ran, stillAlone⟩ := first committed sessions alone
  obtain ⟨after, ranOn, finallyAlone⟩ := second committed between stillAlone
  refine ⟨after, ?_, finallyAlone⟩
  rw [CallProgram.run_bind, ran]
  exact ranOn

theorem Returns.keep
    {program : CallProgram (SessionCall Key Change) (SessionCall.Reply Database Value) Error Result}
    {result : Result} {later : Database} {kept fewer : List Key}
    (returns : engine.Returns id program view held result later kept)
    (subset : ∀ key ∈ fewer, key ∈ kept) :
    engine.Returns id program view held result later fewer := by
  intro committed sessions alone
  obtain ⟨after, ran, stillAlone⟩ := returns committed sessions alone
  exact ⟨after, ran, { stillAlone with
    held := fun key member => stillAlone.held key (subset key member) }⟩

theorem returns_view : engine.Returns id (CallProgram.perform .view) view held view view held := by
  intro committed sessions alone
  refine ⟨sessions.read engine id, ?_, alone.committed, alone.view, alone.free, alone.held⟩
  rw [← alone.view]
  rfl

omit [DecidableEq Session] in
theorem Alone.acquire {committed : Database} {sessions : Sessions Session Database Key Change}
    (alone : engine.Alone id committed view held sessions) (key : Key) :
    engine.Alone id committed view (key :: held) (sessions.acquire id key) where
  committed := alone.committed
  view := alone.view
  free other := by
    by_cases same : other = key
    · exact .inr (by simp [Sessions.acquire, same])
    · simpa [Sessions.Free, Sessions.acquire, same] using alone.free other
  held other member := by
    by_cases same : other = key
    · simp [Sessions.acquire, same]
    · have old : other ∈ held := by simpa [same] using member
      simpa [Sessions.acquire, same] using alone.held other old

theorem returns_lock (key : Key) :
    engine.Returns id (CallProgram.perform (.lock key)) view held view view (key :: held) := by
  intro committed sessions alone
  refine ⟨sessions.acquire id key, ?_, alone.acquire key⟩
  have made : sessions.exec engine id .none (.lock key) =
      (.ok (sessions.view engine id), sessions.acquire id key) := by
    rw [Sessions.exec_lock, if_pos (alone.free key)]
  rw [← alone.view]
  exact CallProgram.run_call_of_ok _ _ made

theorem returns_tryLock (key : Key) :
    engine.Returns id (CallProgram.perform (.tryLock key)) view held (some view) view
      (key :: held) := by
  intro committed sessions alone
  refine ⟨sessions.acquire id key, ?_, alone.acquire key⟩
  have made : sessions.exec engine id .none (.tryLock key) =
      (.ok (some (sessions.view engine id)), sessions.acquire id key) := by
    rw [Sessions.exec_tryLock, if_pos (alone.free key)]
  rw [← alone.view]
  exact CallProgram.run_call_of_ok _ _ made

theorem returns_write {change : Change} (holds : ∀ key ∈ engine.locks change, key ∈ held) :
    engine.Returns id (CallProgram.perform (.write change)) view held ()
      (engine.apply view change) held := by
  intro committed sessions alone
  refine ⟨sessions.append id change, ?_, ?_⟩
  · have mine : (engine.locks change).all fun key => decide (sessions.holder key = some id) := by
      rw [List.all_eq_true]
      intro key member
      exact decide_eq_true (alone.held key (holds key member))
    have made : sessions.exec engine id .none (.write change) =
        (.ok (), sessions.append id change) := by
      rw [Sessions.exec_write, if_pos mine]
    exact CallProgram.run_call_of_ok _ _ made
  · refine ⟨alone.committed, ?_, alone.free, alone.held⟩
    rw [← alone.view]
    simp [Sessions.view, Sessions.append]

variable {committed after : Database} {ended : Except Error Result}

variable (engine id) in
/-- The program ends with a result or an exception and leaves this database. -/
def Leaves
    (program : CallProgram (SessionCall Key Change) (SessionCall.Reply Database Value) Error Result)
    (committed view : Database) (held : List Key) (ended : Except Error Result)
    (after : Database) : Prop :=
  ∀ sessions, engine.Alone id committed view held sessions →
    ∃ final, program.run (fun call sessions => sessions.exec engine id .none call) sessions =
        (ended, final) ∧ final.committed = after

theorem Leaves.bind
    {program : CallProgram (SessionCall Key Change) (SessionCall.Reply Database Value) Error Next}
    {next : Next →
      CallProgram (SessionCall Key Change) (SessionCall.Reply Database Value) Error Result}
    {result : Next} {middle : Database} {kept : List Key}
    (first : engine.Returns id program view held result middle kept)
    (rest : engine.Leaves id (next result) committed middle kept ended after) :
    engine.Leaves id (program >>= next) committed view held ended after := by
  intro sessions alone
  obtain ⟨between, ran, stillAlone⟩ := first committed sessions alone
  obtain ⟨final, ranOn, left⟩ := rest between stillAlone
  refine ⟨final, ?_, left⟩
  rw [CallProgram.run_bind, ran]
  exact ranOn

theorem leaves_start
    {next : Unit →
      CallProgram (SessionCall Key Change) (SessionCall.Reply Database Value) Error Result}
    (rest : engine.Leaves id (next ()) committed committed [] ended after) :
    engine.Leaves id (CallProgram.perform .start >>= next) committed view held ended after := by
  intro sessions alone
  exact rest (sessions.start id) alone.start

/-- A value is drawn before anything is locked or written. -/
theorem leaves_start_draw {value : Value} {drawn : Database} (isDrawn : engine.draw committed =
      .ok (value, drawn))
    {next : Value →
      CallProgram (SessionCall Key Change) (SessionCall.Reply Database Value) Error Result}
    (rest : engine.Leaves id (next value) drawn drawn [] ended after) :
    engine.Leaves id (CallProgram.perform .start >>= fun _ => CallProgram.perform .draw >>= next)
      committed view held ended after := by
  intro sessions alone
  have started := alone.start
  have made : (sessions.start id).exec engine id .none .draw =
      (.ok value, { sessions.start id with committed := drawn }) := by
    rw [Sessions.exec_draw, started.committed, isDrawn]
  have later : engine.Alone id drawn drawn [] { sessions.start id with committed := drawn } := by
    refine ⟨rfl, ?_, started.free, by simp⟩
    simp [Sessions.view, Sessions.start, Sessions.close]
  obtain ⟨final, ran, left⟩ := rest _ later
  refine ⟨final, ?_, left⟩
  rw [← ran]
  exact CallProgram.run_call_of_ok _ _ made

theorem leaves_start_draw_of_error {error : Error}
    (exhausted : engine.draw committed = .error error)
    {next : Value →
      CallProgram (SessionCall Key Change) (SessionCall.Reply Database Value) Error Result} :
    engine.Leaves id (CallProgram.perform .start >>= fun _ => CallProgram.perform .draw >>= next)
      committed view held (.error error) committed := by
  intro sessions alone
  have started := alone.start
  have made : (sessions.start id).exec engine id .none .draw =
      (.error error, (sessions.start id).close id) := by
    rw [Sessions.exec_draw, started.committed, exhausted]
  refine ⟨(sessions.start id).close id, ?_, started.committed⟩
  have unfolded : (CallProgram.perform .start >>= fun _ => CallProgram.perform .draw >>= next).run
      (fun call sessions => sessions.exec engine id .none call) sessions =
      (CallProgram.call .draw next).run (fun call sessions => sessions.exec engine id .none call)
        (sessions.start id) := rfl
  rw [unfolded, CallProgram.run_call, made]

theorem leaves_commit (result : Result) :
    engine.Leaves id (CallProgram.perform .commit >>= fun _ => .done result) committed view held
      (.ok result) view := by
  intro sessions alone
  exact ⟨sessions.commit engine id, rfl, alone.view⟩

theorem leaves_rollback (result : Result) :
    engine.Leaves id (CallProgram.perform .rollback >>= fun _ => .done result) committed view held
      (.ok result) committed := by
  intro sessions alone
  exact ⟨sessions.close id, rfl, alone.committed⟩

theorem leaves_raise (error : Error) :
    engine.Leaves id (CallProgram.perform .rollback >>= fun _ =>
        (.raise error : CallProgram _ _ Error Result)) committed view held
      (.error error) committed := by
  intro sessions alone
  exact ⟨sessions.close id, rfl, alone.committed⟩

end Alone

/-! ## All sessions together -/

variable (engine good) (start : Database)
  (starts : Session →
    CallProgram (SessionCall Key Change) (SessionCall.Reply Database Value) Error Result → Prop)
  (post : Session → Result → Sessions Session Database Key Change → Prop)

def contract : ThreadPool.Contract Session (SessionCall Key Change)
    (SessionCall.Reply Database Value) Error (Sessions Session Database Key Change)
    (CallFault Error) Empty Empty Result where
  service := engine.service
  permitted _ := True
  starts := starts
  happens event _ := event.elim
  inv sessions := engine.Locked sessions ∧
    engine.Trail good start sessions.commits sessions.committed
  rely := engine.Relies good
  guar := engine.Advances good
  post := post

variable {engine good start starts post} {holds : Database → Prop}

/-- Programs that are safe alone are safe together. -/
theorem contract_fits (stable : ∀ id result, engine.Stable good id (post id result))
    (preserves : engine.Preserves good holds) (initially : holds start)
    (safe : ∀ id program, starts id program →
      engine.Triple good id (fun sessions => holds sessions.committed) program (post id)) :
    (engine.contract good start starts post).Fits where
  reflexive id sessions _ := .refl id sessions
  transitive _ _ _ _ first rest := first.trans rest
  stable id result sessions later relied := stable id result sessions later relied
  guarantees := by
    rintro id sessions later ⟨locked, trail⟩ advances
    exact ⟨⟨advances.locked_later locked, advances.trail trail⟩,
      fun other different => advances.relies locked different⟩
  events event := event.elim
  started := by
    rintro id program sessions ⟨_, trail⟩ isStart
    exact safe id program isStart sessions (preserves.of_trail engine trail initially)

theorem contract_idle :
    (engine.contract good start starts post).inv
      ({ committed := start } : Sessions Session Database Key Change) :=
  ⟨by simp [Locked], .nil⟩

end Programs

end RowEngine

end DistributedComputing
