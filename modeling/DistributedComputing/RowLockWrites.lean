import DistributedComputing.RowLockPrograms

/-!
# What transactions with row locks write

Programs that write only changes of one kind commit only such changes, in whatever order
their calls are made.  What these changes and the draws preserve holds in every run.
-/

namespace DistributedComputing

namespace RowEngine

variable {Session Database Key Change Value Error : Type}

/-- Within a transaction, the call writes an allowed change, or it writes nothing. -/
def WritesOnly (allowed : Change → Prop) : SessionCall Key Change → Prop
  | .start => False
  | .write change => allowed change
  | _ => True

theorem WritesOnly.ne_start {allowed : Change → Prop} (call : SessionCall Key Change)
    (writes : WritesOnly allowed call) : call ≠ .start := by
  rintro rfl
  exact writes

variable (engine : RowEngine Database Key Change Value Error)

/-- The commit applies allowed changes. -/
def AppliesOnly (allowed : Session → Change → Prop) (id : Session) (_ : List Database)
    (before after : Database) : Prop :=
  ∃ changes : List Change, (∀ change ∈ changes, allowed id change) ∧
    after = changes.foldl engine.apply before

/-- What every allowed change and every draw preserves, every commit of them does. -/
theorem preserves_appliesOnly {allowed : Session → Change → Prop} {holds : Database → Prop}
    (drawn : ∀ database value after, engine.draw database = .ok (value, after) →
      holds database → holds after)
    (applied : ∀ id change, allowed id change → ∀ database, holds database →
      holds (engine.apply database change)) :
    engine.Preserves (engine.AppliesOnly allowed) holds where
  drawn := drawn
  committed := by
    rintro id _ before after ⟨changes, all, rfl⟩ initially
    induction changes generalizing before with
    | nil => exact initially
    | cons change changes ih =>
        have first := applied id change (all change (by simp)) before initially
        exact ih _ (fun other member => all other (by simp [member])) first

section Programs

variable [DecidableEq Session] [DecidableEq Key] {Result : Type}

/-- A call adds at most its own change to what its session has written. -/
theorem writes_exec (id : Session) (fault : CallFault Error) (call : SessionCall Key Change)
    (sessions : Sessions Session Database Key Change) {change : Change}
    (member : change ∈ (sessions.exec engine id fault call).2.writes id) :
    change ∈ sessions.writes id ∨ call = .write change := by
  have closed : ∀ {other : Sessions Session Database Key Change}, other.writes id = [] →
      change ∉ other.writes id := fun none isIn => by simp [none] at isIn
  cases fault with
  | failed error => exact absurd member (closed (by simp [Sessions.exec, Sessions.close]))
  | unacknowledged error =>
      cases call <;>
        exact absurd member (closed (by simp [Sessions.exec, Sessions.commit, Sessions.close]))
  | none =>
      cases call with
      | start =>
          exact absurd member (closed (by simp [Sessions.exec, Sessions.start, Sessions.close]))
      | view => exact .inl member
      | commit =>
          exact absurd member (closed (by simp [Sessions.exec, Sessions.commit, Sessions.close]))
      | rollback => exact absurd member (closed (by simp [Sessions.exec, Sessions.close]))
      | lock key =>
          rw [Sessions.exec_lock] at member
          split at member
          · exact .inl member
          · exact absurd member (closed (by simp [Sessions.close]))
      | tryLock key =>
          rw [Sessions.exec_tryLock] at member
          split at member <;> exact .inl member
      | write written =>
          rw [Sessions.exec_write] at member
          split at member
          · have added : change ∈ sessions.writes id ∨ change = written := by
              simpa [Sessions.append] using member
            rcases added with old | rfl
            · exact .inl old
            · exact .inr rfl
          · exact absurd member (closed (by simp [Sessions.close]))
      | draw =>
          rw [Sessions.exec_draw] at member
          split at member
          · exact absurd member (closed (by simp [Sessions.close]))
          · exact .inl member

variable {engine} {allowed : Session → Change → Prop} {id : Session}

theorem triple_of_issues
    {program : CallProgram (SessionCall Key Change) (SessionCall.Reply Database Value) Error Result}
    (issues : program.Issues (WritesOnly (allowed id))) :
    engine.Triple (engine.AppliesOnly allowed) id
      (fun sessions => ∀ change ∈ sessions.writes id, allowed id change) program
      fun _ _ => True := by
  intro sessions initially
  have safe : program.Safe (fun _ => True) (engine.service.exec id) (engine.service.touch id)
      (engine.Relies (engine.AppliesOnly allowed) id)
      (engine.Advances (engine.AppliesOnly allowed) id)
      (fun _ sessions => ∀ change ∈ sessions.writes id, allowed id change) sessions := by
    refine CallProgram.Safe.of_issues ?_ ?_ issues initially
    · intro sessions later relied holds
      rw [relied.writes]
      exact holds
    · intro call isAllowed sessions holds
      refine ⟨fun part => part.elim, fun fault _ => ⟨?_, ?_⟩⟩
      · exact advances_exec id sessions fault call fun _ => ⟨sessions.writes id, holds, rfl⟩
      · intro change member
        rcases writes_exec engine id fault call sessions member with old | rfl
        · exact holds change old
        · exact isAllowed
  exact safe.weaken fun _ _ _ => trivial

/-- A transaction forgets what its session has written before. -/
theorem triple_transaction
    {next : Unit → CallProgram (SessionCall Key Change) (SessionCall.Reply Database Value) Error
      Result} (issues : (next ()).Issues (WritesOnly (allowed id))) :
    engine.Triple (engine.AppliesOnly allowed) id (fun _ => True)
      (CallProgram.perform .start >>= next) fun _ _ => True := by
  have started : engine.Triple (engine.AppliesOnly allowed) id (fun _ => True)
      (CallProgram.perform .start)
      fun _ sessions => ∀ change ∈ sessions.writes id, allowed id change :=
    triple_start (fun _ _ _ holds => holds) fun sessions _ => by
      simp [Sessions.start, Sessions.close]
  exact .bind started fun _ => triple_of_issues issues

end Programs

end RowEngine

end DistributedComputing
