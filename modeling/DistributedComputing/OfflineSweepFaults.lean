import DistributedComputing.InterruptedSweep
import DistributedComputing.MasterRuns

/-!
# The sweep without transactions when it fails midway

The sweep makes three writes for each agent that it finds: the agent goes offline, its
assignment rows are closed, its tasks are queued again.  Only the first is visible to the
query of a later attempt, so an exception between the first write and the end of the
third leaves an agent that no sweep finds again.
-/

namespace DistributedComputing

open TransitionRuns

namespace MongoBroker

open MongoCall Store

/-! ## One attempt -/

/-- The deployment rejects transactions; before it does, the connection may fail. -/
def Standalone (attempt : Attempt) : Prop :=
  attempt.transaction = none ∨ attempt.transaction = some .beforeCommit

/-- One pass through the lambda of the sweep. -/
def sweepOnce (offlineAfterSec : Int) (attempt : Attempt) : DbAction Int :=
  withTransaction attempt (markOfflineAgentsAndRequeueTransaction attempt offlineAfterSec)
    (markOfflineAgentsAndRequeueNoTransaction attempt offlineAfterSec)

/-- The attempt as a step, whether it returns or raises. -/
abbrev sweepStep (offlineAfterSec : Int) : Store → Attempt → Store :=
  RetryLoop.attemptStep (sweepOnce offlineAfterSec)

/-- The attempt finds the agent at the given position and takes it offline.  Its calls are
the query and then three for each agent. -/
def TakesOffline (offlineAfterSec : Int) (attempt : Attempt) (store : Store) (agentId : String)
    (position : Nat) : Prop :=
  attempt.transaction = none ∧
    (store.staleAgents attempt.now offlineAfterSec)[position]? = some agentId ∧
    reaches attempt.raisingCall (3 * position + 1) 0 = true

/-- The attempt takes the agent offline and raises before it has closed all its open
assignments and queued all its active tasks. -/
def Abandons (offlineAfterSec : Int) (attempt : Attempt) (store : Store) (agentId : String) :
    Prop :=
  ∃ position, TakesOffline offlineAfterSec attempt store agentId position ∧
    ((∃ row, store.OpenAt agentId row ∧
        reaches attempt.raisingCall (3 * position + 2) row = false) ∨
      ∃ taskId : Int, store.ledger.Holds agentId taskId ∧
        reaches attempt.raisingCall (3 * position + 3) taskId.toNat = false)

/-- With nobody to sweep, the loop makes no call. -/
theorem markOfflineAgentsAndRequeueNoTransaction_eq (attempt : Attempt)
    (offlineAfterSec : Int) :
    markOfflineAgentsAndRequeueNoTransaction attempt offlineAfterSec =
      (issue (.agentsFind (staleFilter attempt.now offlineAfterSec)) >>= fun candidates =>
        requeueLoop attempt.later ((candidates : List AgentRow).map AgentRow.agentId) >>= fun _ =>
          .done (((candidates : List AgentRow).map AgentRow.agentId).length : Int)) := by
  rw [markOfflineAgentsAndRequeueNoTransaction, CallProgram.perform_bind,
    CallProgram.perform_bind]
  congr 1
  funext candidates
  dsimp only
  split
  · rename_i nobody
    rw [List.isEmpty_iff.mp nobody]
    rfl
  · rfl

/-- An attempt without a transaction fails at its query, or is its loop. -/
theorem sweepOnce_cases {attempt : Attempt} (rejected : attempt.transaction = none)
    (offlineAfterSec : Int) (store : Store) :
    (∃ progress, attempt.raisingCall = some (0, progress) ∧
      sweepOnce offlineAfterSec attempt store = (.error attempt.error, store)) ∨
    ∃ raising, (∀ call element,
        reaches attempt.raisingCall (call + 1) element = reaches raising call element) ∧
      ∃ looped : Except DbError Unit × Store,
        looped = (requeueLoop attempt.later
          (store.staleAgents attempt.now offlineAfterSec)).runUntil (exec attempt.rank)
            (interrupted attempt.rank) attempt.error raising store ∧
        (sweepOnce offlineAfterSec attempt store).2 = looped.2 ∧
        ∀ count, (sweepOnce offlineAfterSec attempt store).1 = .ok count → looped.1 = .ok () := by
  have found := exec_agentsFind attempt.rank (staleFilter attempt.now offlineAfterSec) store
  have rest := fun raising => CallProgram.runUntil_bind_done (exec attempt.rank)
    (interrupted attempt.rank) attempt.error raising
    (requeueLoop attempt.later (store.staleAgents attempt.now offlineAfterSec))
    (fun _ => ((store.staleAgents attempt.now offlineAfterSec).length : Int)) store
  simp only [sweepOnce, withTransaction, rejected, runCalls,
    markOfflineAgentsAndRequeueNoTransaction_eq]
  have returned : ∀ {ended : Except DbError Unit} {count : Int},
      ended.map (fun _ => ((store.staleAgents attempt.now offlineAfterSec).length : Int)) =
        .ok count → ended = .ok () := by
    intro ended count mapped
    cases ended with
    | error error => cases mapped
    | ok result => rfl
  rcases attempt.raisingCall with _ | ⟨_ | index, progress⟩
  · refine .inr ⟨none, fun _ _ => rfl, _, rfl, ?_⟩
    rw [CallProgram.runUntil_none, CallProgram.run_perform_of_ok _ found, staleFilter_matches,
      ← CallProgram.runUntil_none _ (interrupted attempt.rank) attempt.error, rest none]
    exact ⟨rfl, fun _ => returned⟩
  · refine .inl ⟨progress, rfl, ?_⟩
    rw [CallProgram.perform_bind, CallProgram.runUntil_zero, interrupted]
    · rw [found, ite_self]
    all_goals intros; contradiction
  · refine .inr ⟨some (index, progress), fun call element =>
      reaches_succ index progress call element 1, _, rfl, ?_⟩
    rw [CallProgram.runUntil_perform_of_ok _ _ _ _ _ found, staleFilter_matches,
      rest (some (index, progress))]
    exact ⟨rfl, fun _ => returned⟩

theorem TakesOffline.unique {offlineAfterSec : Int} {attempt : Attempt} {store : Store}
    {agentId : String} {position other : Nat}
    (takes : TakesOffline offlineAfterSec attempt store agentId position)
    (takesToo : TakesOffline offlineAfterSec attempt store agentId other) : other = position := by
  have distinct := store.nodup_staleAgents attempt.now offlineAfterSec
  have inBounds := (List.getElem?_eq_some_iff.mp takesToo.2.1).1
  exact (List.getElem?_inj inBounds distinct).mp (takesToo.2.1.trans takes.2.1.symm)

theorem TakesOffline.online {offlineAfterSec : Int} {attempt : Attempt} {store : Store}
    {agentId : String} {position : Nat}
    (takes : TakesOffline offlineAfterSec attempt store agentId position) :
    store.ledger.status agentId ≠ some .offline := by
  obtain ⟨row, found, online⟩ := expirable_of_stale (List.mem_of_getElem? takes.2.1)
  rw [status_of_agent found]
  exact fun offline => online (Option.some.inj offline)

/-- One attempt leaves the agent alone, or takes it offline and gets as far as its calls. -/
theorem sweepOnce_view {attempt : Attempt} (standalone : Standalone attempt)
    (offlineAfterSec : Int) (store : Store) (agentId : String) :
    (∃ position, TakesOffline offlineAfterSec attempt store agentId position ∧
      SweptFor agentId (fun row => reaches attempt.raisingCall (3 * position + 2) row)
        (fun taskId => reaches attempt.raisingCall (3 * position + 3) taskId.toNat) store
        (sweepStep offlineAfterSec store attempt)) ∨
    (∀ position, ¬ TakesOffline offlineAfterSec attempt store agentId position) ∧
      SameFor agentId store (sweepStep offlineAfterSec store attempt) := by
  unfold sweepStep RetryLoop.attemptStep
  rcases standalone with rejected | disconnected
  · rcases sweepOnce_cases rejected offlineAfterSec store with
      ⟨progress, raising, failed⟩ | ⟨raising, shift, _, rfl, afterEq, _⟩
    · refine .inr ⟨?_, by rw [failed]; exact SameFor.refl agentId store⟩
      rintro position ⟨_, _, started⟩
      simp [raising, reaches] at started
    · rw [afterEq]
      have distinct := store.nodup_staleAgents attempt.now offlineAfterSec
      by_cases stale : agentId ∈ store.staleAgents attempt.now offlineAfterSec
      · obtain ⟨position, visited⟩ := List.mem_iff_getElem?.mp stale
        obtain ⟨row, found, _⟩ := expirable_of_stale stale
        have view := requeueLoop_view attempt.rank attempt.error attempt.later distinct visited
          raising (by rw [found]; simp)
        simp only [← shift] at view
        split at view
        · rename_i started
          exact .inl ⟨position, ⟨rejected, visited, started⟩, view⟩
        · rename_i late
          refine .inr ⟨?_, view⟩
          rintro other ⟨_, visitedToo, started⟩
          have inBounds := (List.getElem?_eq_some_iff.mp visitedToo).1
          have same : other = position :=
            (List.getElem?_inj inBounds distinct).mp (visitedToo.trans visited.symm)
          rw [same] at started
          exact late started
      · refine .inr ⟨?_, sameFor_requeueLoop _ _ _ stale _ _⟩
        rintro position ⟨_, visited, _⟩
        exact stale (List.mem_of_getElem? visited)
  · refine .inr ⟨?_, ?_⟩
    · rintro position ⟨rejected, _⟩
      rw [disconnected] at rejected
      cases rejected
    · simp only [sweepOnce, withTransaction, disconnected, TxEnd.attempt_beforeCommit]
      exact SameFor.refl agentId store

/-- An attempt that returns has taken every agent offline that it found. -/
theorem takesOffline_of_ok {attempt : Attempt} (standalone : Standalone attempt)
    {offlineAfterSec : Int} {store : Store} {count : Int}
    (returned : (sweepOnce offlineAfterSec attempt store).1 = .ok count) {agentId : String}
    (stale : agentId ∈ store.staleAgents attempt.now offlineAfterSec) :
    ∃ position, TakesOffline offlineAfterSec attempt store agentId position := by
  rcases standalone with rejected | disconnected
  · rcases sweepOnce_cases rejected offlineAfterSec store with
      ⟨progress, raising, failed⟩ | ⟨raising, shift, _, rfl, _, okEq⟩
    · rw [failed] at returned
      cases returned
    · obtain ⟨position, visited⟩ := List.mem_iff_getElem?.mp stale
      obtain ⟨inBounds, _⟩ := List.getElem?_eq_some_iff.mp visited
      refine ⟨position, rejected, visited, ?_⟩
      rw [shift]
      exact reaches_of_requeueLoop_ok _ _ _ (okEq count returned) (by omega) 0
  · simp only [sweepOnce, withTransaction, disconnected, TxEnd.attempt_beforeCommit] at returned
    cases returned

/-! ## Runs of attempts -/

section Runs

variable (offlineAfterSec : Int) (agentId : String) {store : Store}

/-- After an attempt that took the agent offline, the agent holds nothing unless the attempt
abandoned it. -/
theorem holdsNothing_of_takesOffline {attempt : Attempt} {store : Store} {position : Nat}
    (takes : TakesOffline offlineAfterSec attempt store agentId position)
    (swept : SweptFor agentId (fun row => reaches attempt.raisingCall (3 * position + 2) row)
      (fun taskId => reaches attempt.raisingCall (3 * position + 3) taskId.toNat) store
      (sweepStep offlineAfterSec store attempt)) :
    (sweepStep offlineAfterSec store attempt).HoldsNothing agentId ↔
      ¬ Abandons offlineAfterSec attempt store agentId := by
  rw [swept.holdsNothing, not_iff_not]
  constructor
  · exact fun left => ⟨position, takes, left⟩
  · rintro ⟨other, takesToo, left⟩
    rwa [takes.unique takesToo] at left

/-- An agent that is offline stays so, and no later attempt takes it offline again. -/
theorem offline_stays {made : List Attempt} (standalone : ∀ attempt ∈ made, Standalone attempt)
    {store : Store} (offline : store.ledger.status agentId = some .offline) :
    (∀ visit ∈ visits (sweepStep offlineAfterSec) store made, ∀ position,
      ¬ TakesOffline offlineAfterSec visit.2 visit.1 agentId position) ∧
      ((run (sweepStep offlineAfterSec) store made).HoldsNothing agentId ↔
        store.HoldsNothing agentId) := by
  induction made generalizing store with
  | nil => exact ⟨by simp [visits], Iff.rfl⟩
  | cons attempt made ih =>
      have untouched : ∀ position, ¬ TakesOffline offlineAfterSec attempt store agentId position :=
        fun _ takes => takes.online offline
      rcases sweepOnce_view (standalone attempt (by simp)) offlineAfterSec store agentId with
        ⟨position, takes, _⟩ | ⟨_, same⟩
      · exact (untouched position takes).elim
      · have stillOffline :
            (sweepStep offlineAfterSec store attempt).ledger.status agentId = some .offline := by
          rw [ledger_status] at offline ⊢
          exact (congrArg (Option.map AgentRow.status) same.agent).trans offline
        obtain ⟨later, kept⟩ := ih (fun other member => standalone other (by simp [member]))
          stillOffline
        refine ⟨?_, kept.trans same.holdsNothing⟩
        rintro visit (_ | ⟨_, member⟩)
        · exact untouched
        · exact later visit member

/-- What an agent holds after a sequence of attempts. -/
theorem holdsNothing_run_iff {made : List Attempt}
    (standalone : ∀ attempt ∈ made, Standalone attempt) (store : Store) :
    (run (sweepStep offlineAfterSec) store made).HoldsNothing agentId ↔
      store.HoldsNothing agentId ∨
        (∃ visit ∈ visits (sweepStep offlineAfterSec) store made, ∃ position,
          TakesOffline offlineAfterSec visit.2 visit.1 agentId position) ∧
        ∀ visit ∈ visits (sweepStep offlineAfterSec) store made,
          ¬ Abandons offlineAfterSec visit.2 visit.1 agentId := by
  induction made generalizing store with
  | nil => simp [visits]
  | cons attempt made ih =>
      have rest := fun other member => standalone other (List.mem_cons_of_mem attempt member)
      simp only [visits, List.mem_cons, exists_eq_or_imp, forall_eq_or_imp]
      rcases sweepOnce_view (standalone attempt (by simp)) offlineAfterSec store agentId with
        ⟨position, takes, swept⟩ | ⟨untouched, same⟩
      · have isTaken : ∃ position, TakesOffline offlineAfterSec attempt store agentId position :=
          ⟨position, takes⟩
        obtain ⟨later, kept⟩ := offline_stays offlineAfterSec agentId rest swept.offline
        have laterSpared : ∀ visit ∈ visits (sweepStep offlineAfterSec)
            (sweepStep offlineAfterSec store attempt) made,
            ¬ Abandons offlineAfterSec visit.2 visit.1 agentId := by
          rintro visit member ⟨other, takesToo, _⟩
          exact later visit member other takesToo
        rw [run_cons, kept, holdsNothing_of_takesOffline offlineAfterSec agentId takes swept]
        constructor
        · exact fun spared => .inr ⟨.inl isTaken, spared, laterSpared⟩
        · rintro (nothing | ⟨_, spared, _⟩)
          · rintro ⟨_, _, ⟨row, isOpen, _⟩ | ⟨taskId, held, _⟩⟩
            · exact nothing.2 row isOpen
            · exact nothing.1 taskId held
          · exact spared
      · have notTaken :
            ¬ ∃ position, TakesOffline offlineAfterSec attempt store agentId position := by
          rintro ⟨position, takes⟩
          exact untouched position takes
        have spared : ¬ Abandons offlineAfterSec attempt store agentId := by
          rintro ⟨position, takes, _⟩
          exact untouched position takes
        rw [run_cons, ih rest, same.holdsNothing]
        simp only [notTaken, false_or, spared, not_false_eq_true, true_and]

/-- An agent that no attempt took offline was left alone. -/
theorem sameFor_run {made : List Attempt} (standalone : ∀ attempt ∈ made, Standalone attempt)
    {store : Store}
    (untouched : ∀ visit ∈ visits (sweepStep offlineAfterSec) store made, ∀ position,
      ¬ TakesOffline offlineAfterSec visit.2 visit.1 agentId position) :
    SameFor agentId store (run (sweepStep offlineAfterSec) store made) := by
  induction made generalizing store with
  | nil => exact SameFor.refl agentId store
  | cons attempt made ih =>
      simp only [visits, List.mem_cons, forall_eq_or_imp] at untouched
      rcases sweepOnce_view (standalone attempt (by simp)) offlineAfterSec store agentId with
        ⟨position, takes, _⟩ | ⟨_, same⟩
      · exact (untouched.1 position takes).elim
      · exact same.trans
          (ih (fun other member => standalone other (List.mem_cons_of_mem attempt member))
            untouched.2)

/-- One pass of the maintenance thread on the Mongo broker. -/
def sweep (store : Store) (attempts : List Attempt) : Store :=
  (mongoBroker.markOfflineAgentsAndRequeue attempts offlineAfterSec store).2

/-- The attempts that a series of sweeps makes. -/
def attemptsMade : List (List Attempt) → Store → List Attempt
  | [], _ => []
  | attempts :: sweeps, store =>
      RetryLoop.attempted (sweepOnce offlineAfterSec) attempts store ++
        attemptsMade sweeps (sweep offlineAfterSec store attempts)

theorem sweep_eq_run (store : Store) (attempts : List Attempt) :
    sweep offlineAfterSec store attempts = run (sweepStep offlineAfterSec) store
      (RetryLoop.attempted (sweepOnce offlineAfterSec) attempts store) := by
  rw [← RetryLoop.retry_state]
  exact orElse_store 0 _ store

theorem run_sweep (sweeps : List (List Attempt)) (store : Store) :
    run (sweep offlineAfterSec) store sweeps =
      run (sweepStep offlineAfterSec) store (attemptsMade offlineAfterSec sweeps store) := by
  induction sweeps generalizing store with
  | nil => rfl
  | cons attempts sweeps ih =>
      rw [run_cons, ih, attemptsMade, run_append, ← sweep_eq_run]

theorem attemptsMade_append (sweeps later : List (List Attempt)) (store : Store) :
    attemptsMade offlineAfterSec (sweeps ++ later) store =
      attemptsMade offlineAfterSec sweeps store ++
        attemptsMade offlineAfterSec later (run (sweep offlineAfterSec) store sweeps) := by
  induction sweeps generalizing store with
  | nil => rfl
  | cons attempts sweeps ih => simp [attemptsMade, ih]

theorem mem_attemptsMade {sweeps : List (List Attempt)} {store : Store} {attempt : Attempt}
    (member : attempt ∈ attemptsMade offlineAfterSec sweeps store) :
    ∃ attempts ∈ sweeps, attempt ∈ attempts := by
  induction sweeps generalizing store with
  | nil => cases member
  | cons attempts sweeps ih =>
      rcases List.mem_append.mp member with first | later
      · exact ⟨attempts, by simp, (RetryLoop.attempted_sublist _ attempts store).subset first⟩
      · obtain ⟨others, othersMember, inOthers⟩ := ih later
        exact ⟨others, by simp [othersMember], inOthers⟩

/-- The attempt that returns is the last one made. -/
theorem exists_final_attempt {sweeps : List (List Attempt)} {last : List Attempt}
    {store : Store} {count : Int}
    (returned : (executeWithRetry last (sweepOnce offlineAfterSec)
      (run (sweep offlineAfterSec) store sweeps)).1 = .ok count) :
    ∃ before final, attemptsMade offlineAfterSec (sweeps ++ [last]) store = before ++ [final] ∧
      (sweepOnce offlineAfterSec final (run (sweepStep offlineAfterSec) store before)).1 =
        .ok count := by
  have nonempty : last ≠ [] := by
    rintro rfl
    cases returned
  obtain ⟨earlier, final, attempted, ends⟩ := RetryLoop.retry_eq_last
    (sweepOnce offlineAfterSec) ⟨"Retry loop exhausted unexpectedly"⟩ nonempty
    (run (sweep offlineAfterSec) store sweeps)
  refine ⟨attemptsMade offlineAfterSec sweeps store ++ earlier, final, ?_, ?_⟩
  · rw [List.append_assoc, ← attempted]
    simp [attemptsMade_append, attemptsMade]
  · rwa [executeWithRetry, ends, run_sweep, ← run_append] at returned

/-- An agent that is still stale when a sweep returns was taken offline by some attempt. -/
theorem exists_takesOffline {sweeps : List (List Attempt)} {last : List Attempt}
    (standalone : ∀ attempt ∈ attemptsMade offlineAfterSec (sweeps ++ [last]) store,
      Standalone attempt)
    {count : Int}
    (returned : (executeWithRetry last (sweepOnce offlineAfterSec)
      (run (sweep offlineAfterSec) store sweeps)).1 = .ok count)
    {agent : AgentRow} (found : store.agent agentId = some agent)
    (online : agent.status ≠ .offline)
    (stale : ∀ attempt ∈ attemptsMade offlineAfterSec (sweeps ++ [last]) store,
      agent.lastHeartbeat < attempt.now - offlineAfterSec * 1000) :
    ∃ visit ∈ visits (sweepStep offlineAfterSec) store
        (attemptsMade offlineAfterSec (sweeps ++ [last]) store), ∃ position,
      TakesOffline offlineAfterSec visit.2 visit.1 agentId position := by
  obtain ⟨before, final, madeEq, finished⟩ := exists_final_attempt offlineAfterSec returned
  rw [madeEq] at standalone stale ⊢
  rw [visits_append]
  by_cases earlier : ∃ visit ∈ visits (sweepStep offlineAfterSec) store before, ∃ position,
      TakesOffline offlineAfterSec visit.2 visit.1 agentId position
  · obtain ⟨visit, member, takes⟩ := earlier
    exact ⟨visit, List.mem_append_left _ member, takes⟩
  · have same := sameFor_run offlineAfterSec agentId
      (fun attempt member => standalone attempt (List.mem_append_left _ member))
      (fun visit member position takes => earlier ⟨visit, member, position, takes⟩)
    have staleAtLast : agentId ∈ (run (sweepStep offlineAfterSec) store before).staleAgents
        final.now offlineAfterSec := by
      refine List.mem_map.mpr ⟨agent, ?_, KeyedTable.key_of_lookup found⟩
      rw [List.mem_filter]
      exact ⟨KeyedTable.mem_of_lookup (same.agent.trans found),
        by simp [online, stale final (by simp)]⟩
    have taken := takesOffline_of_ok (standalone final (by simp)) finished staleAtLast
    exact ⟨(run (sweepStep offlineAfterSec) store before, final), by simp [visits], taken⟩

end Runs

theorem sweeps_release_iff (offlineAfterSec : Int) (sweeps : List (List Attempt))
    (last : List Attempt)
    (standalone : ∀ attempts ∈ sweeps ++ [last], ∀ attempt ∈ attempts, Standalone attempt)
    (store : Store)
    (completed : ∃ count, (executeWithRetry last (sweepOnce offlineAfterSec)
      (run (sweep offlineAfterSec) store sweeps)).1 = .ok count) (agentId : String) :
    let made := attemptsMade offlineAfterSec (sweeps ++ [last]) store
    let visited := visits (sweepStep offlineAfterSec) store made
    ((run (sweep offlineAfterSec) store (sweeps ++ [last])).HoldsNothing agentId ↔
      store.HoldsNothing agentId ∨
        (∃ visit ∈ visited, ∃ position,
          TakesOffline offlineAfterSec visit.2 visit.1 agentId position) ∧
        ∀ visit ∈ visited, ¬ Abandons offlineAfterSec visit.2 visit.1 agentId) ∧
      ∀ agent, store.agent agentId = some agent → agent.status ≠ .offline →
        (∀ attempt ∈ made, agent.lastHeartbeat < attempt.now - offlineAfterSec * 1000) →
        ∃ visit ∈ visited, ∃ position,
          TakesOffline offlineAfterSec visit.2 visit.1 agentId position := by
  intro made visited
  have allStandalone : ∀ attempt ∈ made, Standalone attempt := by
    intro attempt member
    obtain ⟨attempts, attemptsMember, inAttempts⟩ := mem_attemptsMade offlineAfterSec member
    exact standalone attempts attemptsMember attempt inAttempts
  constructor
  · rw [run_sweep]
    exact holdsNothing_run_iff offlineAfterSec agentId allStandalone store
  · intro agent found online stale
    obtain ⟨count, returned⟩ := completed
    exact exists_takesOffline offlineAfterSec agentId allStandalone returned found online stale

/-- The connection is lost at the first write of a sweep, with or without effect, and is
back for the next attempt. -/
def lostAtFirstWrite (effect : Bool) : List Attempt :=
  [{ now := 500000, transaction := none, raisingCall := some (1, fun _ => effect) },
    { now := 502000, transaction := none }]

theorem standalone_lostAtFirstWrite (effect : Bool) :
    ∀ attempt ∈ lostAtFirstWrite effect, Standalone attempt := by
  intro attempt member
  rcases List.mem_pair.mp member with rfl | rfl
  · exact .inl rfl
  · exact .inl rfl

/-- The agent polled task 1 and is silent since. -/
def silentAgent : Store :=
  run (masterStep .mongoStandalone {}) Store.empty (firstPoll .mongoStandalone)

theorem sweeps_release_iff_lostAtFirstWrite :
    let visited := visits (sweepStep 120) silentAgent
      (attemptsMade 120 ([] ++ [lostAtFirstWrite false]) silentAgent)
    ((run (sweep 120) silentAgent ([] ++ [lostAtFirstWrite false])).HoldsNothing "agent-1" ↔
      silentAgent.HoldsNothing "agent-1" ∨
        (∃ visit ∈ visited, ∃ position, TakesOffline 120 visit.2 visit.1 "agent-1" position) ∧
        ∀ visit ∈ visited, ¬ Abandons 120 visit.2 visit.1 "agent-1") :=
  (sweeps_release_iff 120 [] (lostAtFirstWrite false)
    (fun attempts member => by
      rw [List.mem_singleton.mp member]
      exact standalone_lostAtFirstWrite false)
    silentAgent ⟨1, rfl⟩ "agent-1").1

theorem abandoned_agent :
    (∀ attempt ∈ lostAtFirstWrite true, Standalone attempt) ∧
      (∃ agent, silentAgent.agent "agent-1" = some agent ∧ ∀ attempt ∈ lostAtFirstWrite true,
        agent.lastHeartbeat < attempt.now - 120 * 1000) ∧
      (∃ count, (executeWithRetry (lostAtFirstWrite true) (sweepOnce 120) silentAgent).1 =
        .ok count) ∧
      ¬ (run (sweep 120) silentAgent [lostAtFirstWrite true]).HoldsNothing "agent-1" := by
  refine ⟨standalone_lostAtFirstWrite true, ⟨_, rfl, by decide⟩, ⟨0, rfl⟩, ?_⟩
  intro nothing
  exact nothing.1 1 ⟨rfl, .inl rfl⟩

end MongoBroker

end DistributedComputing
