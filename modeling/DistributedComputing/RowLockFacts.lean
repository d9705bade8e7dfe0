import DistributedComputing.RowLockPrograms

/-!
# What a session knows in a transaction

A session knows what it has written, which rows it holds, and a fact about the committed
database that the others keep as long as it holds those rows.  What it reads adds to the
fact, and the commit is good if the fact makes it so.
-/

namespace DistributedComputing

namespace RowEngine

variable {Session Database Key Change Value Error : Type} [DecidableEq Session] [DecidableEq Key]
  (engine : RowEngine Database Key Change Value Error)
  (good : Session → List Database → Database → Database → Prop)

/-! ## Facts -/

section Persistence

variable (id : Session)

/-- A fact about the committed database that the others keep while the rows are held. -/
def Persists (held : List Key) (fact : Database → Prop) : Prop :=
  ∀ sessions later : Sessions Session Database Key Change,
    engine.Relies good id sessions later → (∀ key ∈ held, sessions.holder key = some id) →
      fact sessions.committed → fact later.committed

variable {engine good id} {held more : List Key} {fact other : Database → Prop}

omit [DecidableEq Session] [DecidableEq Key]

theorem Guarded.persists (guarded : engine.Guarded held fact) :
    engine.Persists good id held fact :=
  fun _ _ relied isHeld holds => relied.facts held fact guarded isHeld holds

theorem Preserves.persists (preserves : engine.Preserves good fact) :
    engine.Persists good id held fact := by
  intro sessions later relied _ holds
  obtain ⟨between, _, trail⟩ := relied.history
  exact preserves.of_trail engine trail holds

theorem persists_const (statement : Prop) :
    engine.Persists good id held fun _ => statement :=
  fun _ _ _ _ holds => holds

theorem Persists.mono (persists : engine.Persists good id held fact) (subset : held ⊆ more) :
    engine.Persists good id more fact :=
  fun sessions later relied isHeld holds =>
    persists sessions later relied (fun key member => isHeld key (subset member)) holds

theorem Persists.and (first : engine.Persists good id held fact)
    (second : engine.Persists good id held other) :
    engine.Persists good id held fun database => fact database ∧ other database :=
  fun sessions later relied isHeld holds =>
    ⟨first sessions later relied isHeld holds.1, second sessions later relied isHeld holds.2⟩

theorem Persists.of_mem {Item : Type} {items : List Item} {facts : Item → Database → Prop}
    (each : ∀ item ∈ items, engine.Persists good id held (facts item)) :
    engine.Persists good id held fun database => ∀ item ∈ items, facts item database :=
  fun sessions later relied isHeld holds item member =>
    each item member sessions later relied isHeld (holds item member)

end Persistence

/-! ## Knowledge -/

section Knowledge

variable (id : Session)

structure Knows (writes : List Change) (held : List Key) (fact : Database → Prop)
    (sessions : Sessions Session Database Key Change) : Prop where
  writes : sessions.writes id = writes
  held : ∀ key ∈ held, sessions.holder key = some id
  fact : fact sessions.committed

/-- A commit of the session was made where the fact held, after these had been read. -/
def HasCommitted (seen : List Database) (writes : List Change) (fact : Database → Prop)
    (sessions : Sessions Session Database Key Change) : Prop :=
  ∃ commit ∈ sessions.commits, commit.session = id ∧ seen ⊆ commit.reads ∧
    fact commit.before ∧ commit.after = writes.foldl engine.apply commit.before

variable {engine good id} {writes : List Change} {held : List Key} {fact : Database → Prop}

omit [DecidableEq Session] [DecidableEq Key]

theorem Knows.view {sessions : Sessions Session Database Key Change}
    (knows : Knows id writes held fact sessions) :
    sessions.view engine id = writes.foldl engine.apply sessions.committed := by
  rw [Sessions.view, knows.writes]

theorem Knows.imp {fewer : List Key} {weaker : Database → Prop}
    {sessions : Sessions Session Database Key Change}
    (knows : Knows id writes held fact sessions) (subset : fewer ⊆ held)
    (implied : ∀ database, fact database → weaker database) :
    Knows id writes fewer weaker sessions :=
  ⟨knows.writes, fun key member => knows.held key (subset member),
    implied _ knows.fact⟩

theorem Persists.stable (persists : engine.Persists good id held fact) :
    engine.Stable good id (Knows id writes held fact) := by
  intro sessions later relied knows
  refine ⟨relied.writes.trans knows.writes, ?_, ?_⟩
  · exact fun key member => relied.holder key (knows.held key member)
  · exact persists sessions later relied knows.held knows.fact

end Knowledge

/-! ## Rules -/

section Rules

variable {engine good} {id : Session} {writes : List Change} {held : List Key}
  {fact : Database → Prop} {Result : Type}

/-- What is proved for each case holds for the cases together. -/
theorem Triple.cases {Item : Type} {pre : Item → Sessions Session Database Key Change → Prop}
    {program : CallProgram (SessionCall Key Change) (SessionCall.Reply Database Value) Error Result}
    {post : Result → Sessions Session Database Key Change → Prop}
    (each : ∀ item, engine.Triple good id (pre item) program post) :
    engine.Triple good id (fun sessions => ∃ item, pre item sessions) program post := by
  rintro sessions ⟨item, holds⟩
  exact each item sessions holds

/-- A condition that does not depend on the sessions. -/
theorem Triple.given {condition : Prop} {pre : Sessions Session Database Key Change → Prop}
    {program : CallProgram (SessionCall Key Change) (SessionCall.Reply Database Value) Error Result}
    {post : Result → Sessions Session Database Key Change → Prop}
    (triple : condition → engine.Triple good id pre program post) :
    engine.Triple good id (fun sessions => condition ∧ pre sessions) program post := by
  rintro sessions ⟨condition, holds⟩
  exact triple condition sessions holds

/-- Less knowledge is enough. -/
theorem Triple.forget {weaker : Database → Prop}
    {program : CallProgram (SessionCall Key Change) (SessionCall.Reply Database Value) Error Result}
    {post : Result → Sessions Session Database Key Change → Prop}
    (triple : engine.Triple good id (Knows id writes held weaker) program post)
    (implied : ∀ database, fact database → weaker database) :
    engine.Triple good id (Knows id writes held fact) program post :=
  triple.imp (fun _ knows => knows.imp (List.Subset.refl held) implied) fun _ _ reached => reached

variable (persists : engine.Persists good id held fact)

include persists

/-- A reading that is remembered. -/
theorem knows_recall {seen : List Database} {learned : Database → Database → Prop}
    (learns : ∀ database, fact database →
      learned (writes.foldl engine.apply database) database) :
    engine.Triple good id
      (fun sessions => seen ⊆ sessions.reads id ∧ Knows id writes held fact sessions)
      (CallProgram.perform .view)
      fun (database : Database) sessions => database :: seen ⊆ sessions.reads id ∧
        Knows id writes held (learned database) sessions := by
  refine triple_view ?_ ?_
  · rintro sessions later relied ⟨isRead, knows⟩
    exact ⟨relied.reads.symm ▸ isRead, persists.stable sessions later relied knows⟩
  · rintro sessions ⟨isRead, knows⟩
    constructor
    · intro database member
      rcases List.mem_cons.mp member with rfl | old
      · simp [Sessions.read]
      · simp [Sessions.read, isRead old]
    · rw [knows.view]
      exact ⟨knows.writes, knows.held, learns _ knows.fact⟩

theorem knows_view {learned : Database → Database → Prop}
    (learns : ∀ database, fact database →
      learned (writes.foldl engine.apply database) database) :
    engine.Triple good id (Knows id writes held fact) (CallProgram.perform .view)
      fun seen => Knows id writes held (learned seen) :=
  (knows_recall persists learns).imp (fun _ knows => ⟨List.nil_subset _, knows⟩)
    fun _ _ reached => reached.2

theorem knows_lock {key : Key} {learned : Database → Database → Prop}
    (learns : ∀ database, fact database →
      learned (writes.foldl engine.apply database) database) :
    engine.Triple good id (Knows id writes held fact) (CallProgram.perform (.lock key))
      fun seen => Knows id writes (key :: held) (learned seen) := by
  refine triple_lock persists.stable ?_
  intro sessions knows
  rw [knows.view]
  refine ⟨knows.writes, ?_, learns _ knows.fact⟩
  intro other member
  by_cases same : other = key
  · simp [Sessions.acquire, same]
  · simpa [Sessions.acquire, same] using knows.held other (by simpa [same] using member)

/-- A row that is locked for what is known already. -/
theorem knows_hold {key : Key} :
    engine.Triple good id (Knows id writes held fact) (CallProgram.perform (.lock key))
      fun _ => Knows id writes (key :: held) fact :=
  knows_lock persists fun _ holds => holds

/-- A row that is skipped teaches nothing. -/
theorem knows_tryLock {key : Key} {learned : Database → Database → Prop}
    (learns : ∀ database, fact database →
      learned (writes.foldl engine.apply database) database) :
    engine.Triple good id (Knows id writes held fact) (CallProgram.perform (.tryLock key))
      fun reply sessions =>
        (reply = none ∧ Knows id writes held fact sessions) ∨
          ∃ seen, reply = some seen ∧ Knows id writes (key :: held) (learned seen) sessions := by
  refine triple_tryLock persists.stable ?_ ?_
  · intro sessions knows
    refine .inr ⟨_, rfl, ?_⟩
    rw [knows.view]
    refine ⟨knows.writes, ?_, learns _ knows.fact⟩
    intro other member
    by_cases same : other = key
    · simp [Sessions.acquire, same]
    · simpa [Sessions.acquire, same] using knows.held other (by simpa [same] using member)
  · exact fun sessions knows => .inl ⟨rfl, knows⟩

theorem knows_write (writes : List Change) {change : Change} :
    engine.Triple good id (Knows id writes held fact) (CallProgram.perform (.write change))
      fun _ => Knows id (writes ++ [change]) held fact := by
  refine triple_write persists.stable ?_
  intro sessions knows
  refine ⟨?_, knows.held, knows.fact⟩
  simp [Sessions.append, knows.writes]

theorem knows_draw {learned : Value → Database → Prop}
    (learns : ∀ before value after, fact before → engine.draw before = .ok (value, after) →
      learned value after) :
    engine.Triple good id (Knows id writes held fact) (CallProgram.perform .draw)
      fun value => Knows id writes held (learned value) := by
  refine triple_draw persists.stable ?_
  intro sessions knows value after drawn
  exact ⟨knows.writes, knows.held, learns _ value after knows.fact drawn⟩

/-- What was read and what is known at the commit make it good. -/
theorem knows_commit {seen : List Database}
    (isGood : ∀ reads, seen ⊆ reads → ∀ database, fact database →
      good id reads database (writes.foldl engine.apply database)) :
    engine.Triple good id
      (fun sessions => seen ⊆ sessions.reads id ∧ Knows id writes held fact sessions)
      (CallProgram.perform .commit) fun _ => engine.HasCommitted id seen writes fact := by
  refine triple_commit ?_ ?_ ?_
  · rintro sessions later relied ⟨isRead, knows⟩
    exact ⟨relied.reads.symm ▸ isRead, persists.stable sessions later relied knows⟩
  · rintro sessions ⟨isRead, knows⟩
    rw [knows.view]
    exact isGood _ isRead _ knows.fact
  · rintro sessions ⟨isRead, knows⟩
    refine ⟨⟨id, sessions.reads id, sessions.committed, sessions.view engine id⟩, ?_, rfl,
      isRead, knows.fact, knows.view⟩
    simp [Sessions.commit]

omit persists in
theorem knows_start (persists : engine.Persists good id [] fact) :
    engine.Triple good id (fun sessions => fact sessions.committed)
      (CallProgram.perform .start) fun _ => Knows id [] [] fact := by
  refine triple_start ?_ ?_
  · intro sessions later relied holds
    exact persists sessions later relied (by simp) holds
  · intro sessions holds
    exact ⟨by simp [Sessions.start, Sessions.close], by simp, holds⟩

theorem knows_rollback :
    engine.Triple good id (Knows id writes held fact) (CallProgram.perform .rollback)
      fun _ _ => True :=
  triple_rollback persists.stable fun _ _ => trivial

end Rules

end RowEngine

end DistributedComputing
