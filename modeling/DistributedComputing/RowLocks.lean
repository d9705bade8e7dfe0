import DistributedComputing.ThreadPool

/-!
# Transactions with row locks

Any number of sessions share one database.  A statement sees what was committed when it
began and what its own session has written.  A change locks the rows it depends on until
its session ends the transaction, so what is guarded by locks of a session stays true
until that session commits.
-/

namespace DistributedComputing

/-- How an engine applies a change, which rows a change has to hold, and what it draws
from its sequences.  A drawn value is not returned when the transaction rolls back. -/
structure RowEngine (Database Key Change Value Error : Type) where
  apply : Database → Change → Database
  locks : Change → List Key
  draw : Database → Except Error (Value × Database)
  deadlock : Error

/-- A transaction that took effect, with the databases that its readings have found. -/
structure Commit (Session Database : Type) where
  session : Session
  reads : List Database
  before : Database
  after : Database

/-- The committed database, the locked rows, and what the open transactions have written and
read. -/
structure Sessions (Session Database Key Change : Type) where
  committed : Database
  holder : Key → Option Session := fun _ => none
  writes : Session → List Change := fun _ => []
  reads : Session → List Database := fun _ => []
  commits : List (Commit Session Database) := []

/-- What a session asks of the engine.  `lock` waits for the row, `tryLock` skips it. -/
inductive SessionCall (Key Change : Type)
  | start
  | view
  | lock (key : Key)
  | tryLock (key : Key)
  | write (change : Change)
  | draw
  | commit
  | rollback

abbrev SessionCall.Reply {Key Change : Type} (Database Value : Type) :
    SessionCall Key Change → Type
  | .start => Unit
  | .view => Database
  | .lock _ => Database
  | .tryLock _ => Option Database
  | .write _ => Unit
  | .draw => Value
  | .commit => Unit
  | .rollback => Unit

/-- What goes wrong with a call: nothing, an exception that ends the transaction, or a
commit that took effect but was not acknowledged. -/
inductive CallFault (Error : Type)
  | none
  | failed (error : Error)
  | unacknowledged (error : Error)

namespace Sessions

variable {Session Database Key Change Value Error : Type} [DecidableEq Session]

/-- End the transaction of a session without its effect. -/
def close (sessions : Sessions Session Database Key Change) (id : Session) :
    Sessions Session Database Key Change :=
  { sessions with
    holder := fun key => if sessions.holder key = some id then none else sessions.holder key
    writes := Function.update sessions.writes id [] }

/-- Begin a transaction, which has read nothing yet. -/
def start (sessions : Sessions Session Database Key Change) (id : Session) :
    Sessions Session Database Key Change :=
  { sessions.close id with reads := Function.update sessions.reads id [] }

section Engine

variable [DecidableEq Key] (engine : RowEngine Database Key Change Value Error)

/-- The database as a session sees it. -/
def view (sessions : Sessions Session Database Key Change) (id : Session) : Database :=
  (sessions.writes id).foldl engine.apply sessions.committed

/-- Remember what a reading has found. -/
def read (sessions : Sessions Session Database Key Change) (id : Session) :
    Sessions Session Database Key Change :=
  { sessions with
    reads := Function.update sessions.reads id (sessions.reads id ++ [sessions.view engine id]) }

def commit (sessions : Sessions Session Database Key Change) (id : Session) :
    Sessions Session Database Key Change :=
  { sessions.close id with
    committed := sessions.view engine id
    commits := sessions.commits ++
      [⟨id, sessions.reads id, sessions.committed, sessions.view engine id⟩] }

/-- No other session holds the row. -/
def Free (sessions : Sessions Session Database Key Change) (id : Session) (key : Key) : Prop :=
  sessions.holder key = none ∨ sessions.holder key = some id

instance (sessions : Sessions Session Database Key Change) (id : Session) (key : Key) :
    Decidable (sessions.Free id key) :=
  inferInstanceAs (Decidable (_ ∨ _))

def acquire (sessions : Sessions Session Database Key Change) (id : Session) (key : Key) :
    Sessions Session Database Key Change :=
  { sessions with holder := Function.update sessions.holder key (some id) }

def append (sessions : Sessions Session Database Key Change) (id : Session) (change : Change) :
    Sessions Session Database Key Change :=
  { sessions with
    writes := Function.update sessions.writes id (sessions.writes id ++ [change]) }

/-- One call of a session.  A session that waits for a row is not scheduled until the row
is free; if it is called before, the engine has chosen it to resolve a deadlock. -/
def exec (id : Session) : CallFault Error → (call : SessionCall Key Change) →
    Sessions Session Database Key Change →
      Except Error (call.Reply Database Value) × Sessions Session Database Key Change
  | .failed error, _, sessions => (.error error, sessions.close id)
  | .unacknowledged error, .commit, sessions => (.error error, sessions.commit engine id)
  | .unacknowledged error, _, sessions => (.error error, sessions.close id)
  | .none, .start, sessions => (.ok (), sessions.start id)
  | .none, .view, sessions => (.ok (sessions.view engine id), sessions.read engine id)
  | .none, .lock key, sessions =>
      if sessions.Free id key then
        (.ok (sessions.view engine id), sessions.acquire id key)
      else (.error engine.deadlock, sessions.close id)
  | .none, .tryLock key, sessions =>
      if sessions.Free id key then
        (.ok (some (sessions.view engine id)), sessions.acquire id key)
      else (.ok none, sessions)
  | .none, .write change, sessions =>
      if (engine.locks change).all fun key => decide (sessions.holder key = some id) then
        (.ok (), sessions.append id change)
      else (.error engine.deadlock, sessions.close id)
  | .none, .draw, sessions =>
      match engine.draw sessions.committed with
      | .error error => (.error error, sessions.close id)
      | .ok (value, after) => (.ok value, { sessions with committed := after })
  | .none, .commit, sessions => (.ok (), sessions.commit engine id)
  | .none, .rollback, sessions => (.ok (), sessions.close id)

section Calls

variable (id : Session) (key : Key) (change : Change)
  (sessions : Sessions Session Database Key Change)

theorem exec_lock : sessions.exec engine id .none (.lock key) =
    if sessions.Free id key then (.ok (sessions.view engine id), sessions.acquire id key)
    else (.error engine.deadlock, sessions.close id) :=
  rfl

theorem exec_tryLock : sessions.exec engine id .none (.tryLock key) =
    if sessions.Free id key then (.ok (some (sessions.view engine id)), sessions.acquire id key)
    else (.ok none, sessions) :=
  rfl

theorem exec_write : sessions.exec engine id .none (.write change) =
    if (engine.locks change).all fun key => decide (sessions.holder key = some id) then
      (.ok (), sessions.append id change)
    else (.error engine.deadlock, sessions.close id) :=
  rfl

theorem exec_draw : sessions.exec engine id .none .draw =
    match engine.draw sessions.committed with
    | .error error => (.error error, sessions.close id)
    | .ok (value, after) => (.ok value, { sessions with committed := after }) :=
  rfl

end Calls

end Engine

end Sessions

/-- Of two entries of a history one comes first. -/
theorem TransitionRuns.ordered_of_mem {Entry : Type} {history : List Entry} {one two : Entry}
    (different : one ≠ two) (member : one ∈ history) (otherMember : two ∈ history) :
    ∃ first middle last, history = first ++ one :: middle ++ two :: last ∨
      history = first ++ two :: middle ++ one :: last := by
  obtain ⟨earlier, later, rfl⟩ := List.append_of_mem member
  rcases List.mem_append.mp otherMember with before | rest
  · obtain ⟨first, middle, rfl⟩ := List.append_of_mem before
    exact ⟨first, middle, later, .inr rfl⟩
  · rcases List.mem_cons.mp rest with same | after
    · exact absurd same.symm different
    · obtain ⟨middle, last, rfl⟩ := List.append_of_mem after
      exact ⟨earlier, middle, last, .inl (by simp)⟩

/-! ## What the locks protect -/

namespace RowEngine

variable {Session Database Key Change Value Error : Type}

section Facts

variable (engine : RowEngine Database Key Change Value Error)

/-- A fact that only a change holding one of the rows can end. -/
structure Guarded (guards : List Key) (fact : Database → Prop) : Prop where
  apply : ∀ database change, (∀ key ∈ engine.locks change, key ∉ guards) →
    fact database → fact (engine.apply database change)
  draw : ∀ database value after, engine.draw database = .ok (value, after) →
    fact database → fact after

theorem Guarded.foldl {guards : List Key} {fact : Database → Prop}
    (guarded : engine.Guarded guards fact) {changes : List Change}
    (apart : ∀ change ∈ changes, ∀ key ∈ engine.locks change, key ∉ guards)
    {database : Database} (holds : fact database) :
    fact (changes.foldl engine.apply database) := by
  induction changes generalizing database with
  | nil => exact holds
  | cons change changes ih =>
      have first := guarded.apply database change (apart change (by simp)) holds
      exact ih (fun other member => apart other (by simp [member])) first

/-- Every change that was written holds its rows. -/
def Locked (sessions : Sessions Session Database Key Change) : Prop :=
  ∀ id, ∀ change ∈ sessions.writes id, ∀ key ∈ engine.locks change,
    sessions.holder key = some id

/-- The commits so far lead from one database to the other, and each of them is good. -/
inductive Trail (good : Session → List Database → Database → Database → Prop) (start : Database) :
    List (Commit Session Database) → Database → Prop
  | nil : Trail good start [] start
  | draw {commits : List (Commit Session Database)} {database after : Database} {value : Value}
      (before : Trail good start commits database)
      (drawn : engine.draw database = .ok (value, after)) : Trail good start commits after
  | commit {commits : List (Commit Session Database)} {database after : Database} {id : Session}
      {reads : List Database} (before : Trail good start commits database)
      (isGood : good id reads database after) :
      Trail good start (commits ++ [⟨id, reads, database, after⟩]) after

/-- What every good commit and every draw preserves. -/
structure Preserves (good : Session → List Database → Database → Database → Prop)
    (holds : Database → Prop) : Prop where
  drawn : ∀ database value after, engine.draw database = .ok (value, after) →
    holds database → holds after
  committed : ∀ id reads database after, good id reads database after → holds database →
    holds after

theorem Preserves.of_trail {good : Session → List Database → Database → Database → Prop}
    {holds : Database → Prop}
    (preserves : engine.Preserves good holds) {start final : Database}
    {commits : List (Commit Session Database)} (trail : engine.Trail good start commits final)
    (initially : holds start) : holds final := by
  induction trail with
  | nil => exact initially
  | draw before isDrawn ih => exact preserves.drawn _ _ _ isDrawn ih
  | commit before isGood ih => exact preserves.committed _ _ _ _ isGood ih

theorem Trail.append {good : Session → List Database → Database → Database → Prop}
    {start middle final : Database} {earlier later : List (Commit Session Database)}
    (first : engine.Trail good start earlier middle)
    (second : engine.Trail good middle later final) :
    engine.Trail good start (earlier ++ later) final := by
  induction second with
  | nil =>
      rw [List.append_nil]
      exact first
  | draw before isDrawn ih => exact .draw ih isDrawn
  | commit before isGood ih =>
      rw [← List.append_assoc]
      exact .commit ih isGood

theorem Trail.good_of_mem {good : Session → List Database → Database → Database → Prop}
    {start final : Database}
    {commits : List (Commit Session Database)} (trail : engine.Trail good start commits final)
    {commit : Commit Session Database} (member : commit ∈ commits) :
    good commit.session commit.reads commit.before commit.after := by
  induction trail with
  | nil => cases member
  | draw before isDrawn ih => exact ih member
  | commit before isGood ih =>
      rcases List.mem_append.mp member with old | new
      · exact ih old
      · rw [List.mem_singleton.mp new]
        exact isGood

/-- The commits up to one of them lead to the database that it found. -/
theorem Trail.before {good : Session → List Database → Database → Database → Prop}
    {start final : Database}
    {commits : List (Commit Session Database)} (trail : engine.Trail good start commits final)
    {earlier later : List (Commit Session Database)} {commit : Commit Session Database}
    (split : commits = earlier ++ commit :: later) :
    engine.Trail good start earlier commit.before := by
  induction trail generalizing later with
  | nil => simp at split
  | draw before isDrawn ih => exact ih split
  | commit before isGood ih =>
      rcases TransitionRuns.split_concat split with ⟨rfl, rfl, rfl⟩ | ⟨between, rfl, inner⟩
      · exact before
      · exact ih inner

/-- The commits after one of them lead on from the database that it left. -/
theorem Trail.after {good : Session → List Database → Database → Database → Prop}
    {start final : Database}
    {commits : List (Commit Session Database)} (trail : engine.Trail good start commits final)
    {earlier later : List (Commit Session Database)} {commit : Commit Session Database}
    (split : commits = earlier ++ commit :: later) :
    engine.Trail good commit.after later final := by
  induction trail generalizing later with
  | nil => simp at split
  | draw before isDrawn ih => exact .draw (ih split) isDrawn
  | commit before isGood ih =>
      rcases TransitionRuns.split_concat split with ⟨rfl, rfl, rfl⟩ | ⟨between, rfl, inner⟩
      · exact .nil
      · exact .commit (ih inner) isGood

/-- A property that is lost between two commits is lost by a commit between them. -/
theorem Trail.exists_breaking {good : Session → List Database → Database → Database → Prop}
    {start final : Database} {commits : List (Commit Session Database)}
    (trail : engine.Trail good start commits final) {holds : Database → Prop}
    (drawn : ∀ database value after, engine.draw database = .ok (value, after) →
      holds database → holds after) (initially : holds start) (lost : ¬ holds final) :
    ∃ commit ∈ commits, holds commit.before ∧ ¬ holds commit.after := by
  induction trail with
  | nil => exact absurd initially lost
  | draw before isDrawn ih =>
      exact ih fun held => lost (drawn _ _ _ isDrawn held)
  | @commit commits database after id reads before isGood ih =>
      by_cases held : holds database
      · exact ⟨⟨id, reads, database, after⟩, by simp, held, lost⟩
      · obtain ⟨commit, member, broken⟩ := ih held
        exact ⟨commit, by simp [member], broken⟩

end Facts

/-! ## Steps of a session -/

section Steps

variable (engine : RowEngine Database Key Change Value Error)
  (good : Session → List Database → Database → Database → Prop)

/-- What the other sessions may do to a session: they only add good commits, and none that
ends what its locks guard. -/
structure Relies (id : Session) (sessions later : Sessions Session Database Key Change) :
    Prop where
  holder : ∀ key, sessions.holder key = some id → later.holder key = some id
  writes : later.writes id = sessions.writes id
  reads : later.reads id = sessions.reads id
  history : ∃ between, later.commits = sessions.commits ++ between ∧
    engine.Trail good sessions.committed between later.committed
  facts : ∀ guards fact, engine.Guarded guards fact →
    (∀ key ∈ guards, sessions.holder key = some id) →
      fact sessions.committed → fact later.committed

/-- What a session may do: nothing to the others, and to the database only good commits. -/
structure Advances (id : Session) (sessions later : Sessions Session Database Key Change) :
    Prop where
  holder : ∀ key other, other ≠ id →
    (later.holder key = some other ↔ sessions.holder key = some other)
  writes : ∀ other, other ≠ id → later.writes other = sessions.writes other
  reads : ∀ other, other ≠ id → later.reads other = sessions.reads other
  locked : (∀ change ∈ sessions.writes id, ∀ key ∈ engine.locks change,
      sessions.holder key = some id) →
    ∀ change ∈ later.writes id, ∀ key ∈ engine.locks change, later.holder key = some id
  outcome : later.commits = sessions.commits ∧
      (later.committed = sessions.committed ∨
        ∃ value, engine.draw sessions.committed = .ok (value, later.committed)) ∨
    later.committed = sessions.view engine id ∧
      later.commits = sessions.commits ++
        [⟨id, sessions.reads id, sessions.committed, later.committed⟩] ∧
      good id (sessions.reads id) sessions.committed later.committed

variable {engine good}

theorem Relies.refl (id : Session) (sessions : Sessions Session Database Key Change) :
    engine.Relies good id sessions sessions where
  holder _ held := held
  writes := rfl
  reads := rfl
  history := ⟨[], (List.append_nil _).symm, .nil⟩
  facts _ _ _ _ holds := holds

theorem Relies.trans {id : Session} {first second third : Sessions Session Database Key Change}
    (start : engine.Relies good id first second) (rest : engine.Relies good id second third) :
    engine.Relies good id first third where
  holder key held := rest.holder key (start.holder key held)
  writes := rest.writes.trans start.writes
  reads := rest.reads.trans start.reads
  history := by
    obtain ⟨earlier, extended, trail⟩ := start.history
    obtain ⟨later, extendedOn, trailOn⟩ := rest.history
    refine ⟨earlier ++ later, ?_, trail.append engine trailOn⟩
    rw [extendedOn, extended, List.append_assoc]
  facts guards fact guarded held holds :=
    rest.facts guards fact guarded (fun key member => start.holder key (held key member))
      (start.facts guards fact guarded held holds)

/-- A session only ever does what the others rely on. -/
theorem Advances.relies {id other : Session}
    {sessions later : Sessions Session Database Key Change} (locked : engine.Locked sessions)
    (advances : engine.Advances good id sessions later) (different : other ≠ id) :
    engine.Relies good other sessions later where
  holder key held := (advances.holder key other different).mpr held
  writes := advances.writes other different
  reads := advances.reads other different
  history := by
    rcases advances.outcome with ⟨same, unchanged | ⟨value, drawn⟩⟩ | ⟨_, extended, isGood⟩
    · refine ⟨[], by rw [List.append_nil, same], ?_⟩
      rw [unchanged]
      exact .nil
    · exact ⟨[], by rw [List.append_nil, same], .draw .nil drawn⟩
    · exact ⟨_, extended, .commit .nil isGood⟩
  facts := by
    intro guards fact guarded held holds
    rcases advances.outcome with ⟨_, same | ⟨value, drawn⟩⟩ | ⟨viewed, _, _⟩
    · rw [same]
      exact holds
    · exact guarded.draw _ value _ drawn holds
    · rw [viewed]
      refine guarded.foldl engine ?_ holds
      intro change member key needed inGuards
      have mine := locked id change member key needed
      rw [held key inGuards] at mine
      exact different (Option.some.inj mine)

theorem Advances.locked_later [DecidableEq Session] {id : Session}
    {sessions later : Sessions Session Database Key Change} (locked : engine.Locked sessions)
    (advances : engine.Advances good id sessions later) : engine.Locked later := by
  intro other change member key needed
  by_cases same : other = id
  · subst same
    exact advances.locked (locked other) change member key needed
  · rw [advances.writes other same] at member
    exact (advances.holder key other same).mpr (locked other change member key needed)

/-- What good commits and draws preserve, a step of a session does. -/
theorem Advances.preserves {id : Session}
    {sessions later : Sessions Session Database Key Change}
    (advances : engine.Advances good id sessions later) {holds : Database → Prop}
    (preserves : engine.Preserves good holds) (held : holds sessions.committed) :
    holds later.committed := by
  rcases advances.outcome with ⟨_, same | ⟨value, drawn⟩⟩ | ⟨_, _, isGood⟩
  · exact same.symm ▸ held
  · exact preserves.drawn _ value _ drawn held
  · exact preserves.committed _ _ _ _ isGood held

theorem Advances.trail {start : Database} {id : Session}
    {sessions later : Sessions Session Database Key Change}
    (trail : engine.Trail good start sessions.commits sessions.committed)
    (advances : engine.Advances good id sessions later) :
    engine.Trail good start later.commits later.committed := by
  rcases advances.outcome with ⟨same, unchanged | ⟨value, drawn⟩⟩ | ⟨_, extended, isGood⟩
  · rw [same, unchanged]
    exact trail
  · rw [same]
    exact .draw trail drawn
  · rw [extended]
    exact .commit trail isGood

variable (id : Session) (sessions : Sessions Session Database Key Change)

theorem advances_refl : engine.Advances good id sessions sessions where
  holder _ _ _ := Iff.rfl
  writes _ _ := rfl
  reads _ _ := rfl
  locked held := held
  outcome := .inl ⟨rfl, .inl rfl⟩

section

variable [DecidableEq Session]

theorem holder_close (key : Key) {other : Session} (different : other ≠ id) :
    (sessions.close id).holder key = some other ↔ sessions.holder key = some other := by
  unfold Sessions.close
  dsimp only
  split
  · rename_i mine
    rw [mine]
    simp [Ne.symm different]
  · rfl

theorem advances_close : engine.Advances good id sessions (sessions.close id) where
  holder key _ different := holder_close id sessions key different
  writes other different := by simp [Sessions.close, different]
  reads _ _ := rfl
  locked := by simp [Sessions.close]
  outcome := .inl ⟨rfl, .inl rfl⟩

theorem advances_start : engine.Advances good id sessions (sessions.start id) where
  holder key _ different := holder_close id sessions key different
  writes other different := by simp [Sessions.start, Sessions.close, different]
  reads other different := by simp [Sessions.start, different]
  locked := by simp [Sessions.start, Sessions.close]
  outcome := .inl ⟨rfl, .inl rfl⟩

theorem advances_read : engine.Advances good id sessions (sessions.read engine id) where
  holder _ _ _ := Iff.rfl
  writes _ _ := rfl
  reads other different := by simp [Sessions.read, different]
  locked held := held
  outcome := .inl ⟨rfl, .inl rfl⟩

theorem advances_commit
    (isGood : good id (sessions.reads id) sessions.committed (sessions.view engine id)) :
    engine.Advances good id sessions (sessions.commit engine id) where
  holder key _ different := holder_close id sessions key different
  writes other different := by simp [Sessions.commit, Sessions.close, different]
  reads _ _ := rfl
  locked := by simp [Sessions.commit, Sessions.close]
  outcome := .inr ⟨rfl, rfl, isGood⟩

end

theorem advances_acquire [DecidableEq Key] {key : Key} (free : sessions.Free id key) :
    engine.Advances good id sessions (sessions.acquire id key) where
  holder other session different := by
    by_cases same : other = key
    · subst same
      rcases free with unheld | mine
      · simp [Sessions.acquire, unheld, Ne.symm different]
      · simp [Sessions.acquire, mine]
    · simp [Sessions.acquire, same]
  writes _ _ := rfl
  reads _ _ := rfl
  locked held := by
    intro change member other needed
    have mine := held change member other needed
    by_cases same : other = key
    · simp [Sessions.acquire, same]
    · simpa [Sessions.acquire, same] using mine
  outcome := .inl ⟨rfl, .inl rfl⟩

theorem advances_append [DecidableEq Session] {change : Change}
    (holds : ∀ key ∈ engine.locks change, sessions.holder key = some id) :
    engine.Advances good id sessions (sessions.append id change) where
  holder _ _ _ := Iff.rfl
  writes other different := by simp [Sessions.append, different]
  reads _ _ := rfl
  locked held := by
    intro other member
    have inWrites : other ∈ sessions.writes id ++ [change] := by
      simpa [Sessions.append] using member
    rcases List.mem_append.mp inWrites with old | new
    · exact held other old
    · rw [List.mem_singleton.mp new]
      exact holds
  outcome := .inl ⟨rfl, .inl rfl⟩

theorem advances_draw {value : Value} {after : Database}
    (drawn : engine.draw sessions.committed = .ok (value, after)) :
    engine.Advances good id sessions { sessions with committed := after } where
  holder _ _ _ := Iff.rfl
  writes _ _ := rfl
  reads _ _ := rfl
  locked held := held
  outcome := .inl ⟨rfl, .inr ⟨value, drawn⟩⟩

/-- A call that is no commit advances whatever happens to it. -/
theorem advances_exec [DecidableEq Session] [DecidableEq Key] (fault : CallFault Error)
    (call : SessionCall Key Change)
    (isGood : call = .commit →
      good id (sessions.reads id) sessions.committed (sessions.view engine id)) :
    engine.Advances good id sessions (sessions.exec engine id fault call).2 := by
  cases fault with
  | failed error => exact advances_close id sessions
  | unacknowledged error =>
      cases call with
      | commit => exact advances_commit id sessions (isGood rfl)
      | _ => exact advances_close id sessions
  | none =>
      cases call with
      | start => exact advances_start id sessions
      | view => exact advances_read id sessions
      | commit => exact advances_commit id sessions (isGood rfl)
      | rollback => exact advances_close id sessions
      | lock key =>
          rw [Sessions.exec_lock]
          split
          · rename_i free
            exact advances_acquire id sessions free
          · exact advances_close id sessions
      | tryLock key =>
          rw [Sessions.exec_tryLock]
          split
          · rename_i free
            exact advances_acquire id sessions free
          · exact advances_refl id sessions
      | write change =>
          rw [Sessions.exec_write]
          split
          · rename_i holds
            exact advances_append id sessions (by simpa using holds)
          · exact advances_close id sessions
      | draw =>
          rw [Sessions.exec_draw]
          split
          · exact advances_close id sessions
          · rename_i value after drawn
            exact advances_draw id sessions drawn

end Steps

end RowEngine

end DistributedComputing
