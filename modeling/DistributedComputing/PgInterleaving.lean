import DistributedComputing.AssignmentConsistency
import DistributedComputing.PgPolls
import DistributedComputing.PgSweeps

/-!
# Interleaved transactions of the PostgreSQL broker

Any number of sessions run the transactions of the broker at once, statement by statement,
with deadlocks, lost connections and lost acknowledgements.  Every commit is what its
operation does to the database it commits to, no task ever has two open assignments, and a
task that was given to an agent is given again only after a sweep has returned it.
-/

namespace DistributedComputing

open TransitionRuns PgSessions RowEngine

/-- One step of the sessions: a transaction begins, or the next call of one is made. -/
inductive SessionStep
  | start (id : Nat) (attempt : Attempt)
  | call (id : Nat) (fault : CallFault DbError)

abbrev PgPool :=
  ThreadPool Nat (SessionCall RowKey RowChange) (SessionCall.Reply Store Int) DbError
    (Sessions Nat Store RowKey RowChange) PgResult

section Sessions

variable (timestamptz : Time → String → Option Time) (operation : Nat → PgOperation)

def SessionStep.action : SessionStep →
    PoolAction Nat (SessionCall RowKey RowChange) (SessionCall.Reply Store Int) DbError
      (CallFault DbError) Empty Empty PgResult
  | start id attempt => .start id ((operation id).program timestamptz attempt)
  | call id fault => .call id fault

def pgRun (store : Store) (steps : List SessionStep) : PgPool :=
  run (ThreadPool.step pgEngine.service) (.idle { committed := store })
    (steps.map (SessionStep.action timestamptz operation))

/-- What the sessions of a run do. -/
def pgWork (steps : List SessionStep) : Workload where
  timestamptz := timestamptz
  operation := operation
  started id attempt := .start id attempt ∈ steps

/-! ## Every transaction is safe -/

theorem triple_program {work : Workload} {id : Nat} {attempt : Attempt}
    (isStarted : work.started id attempt) :
    pgEngine.Triple (Good work) id (fun sessions => sessions.committed.ledger.Exclusive)
      ((work.operation id).program work.timestamptz attempt) (Answered work id) := by
  cases isOperation : work.operation id with
  | upsertAgent agent =>
      exact .bind (triple_upsertAgent isStarted isOperation) fun _ =>
        .done fun _ answered => answered
  | updateHeartbeat heartbeat =>
      exact .bind (triple_updateHeartbeat isStarted isOperation) fun _ =>
        .done fun _ answered => answered
  | createTask task =>
      exact .bind (triple_createTask isStarted isOperation) fun _ =>
        .done fun _ answered => answered
  | pollTasksForAgent agentId freeSlots =>
      exact .bind (triple_pollTasksForAgent isStarted isOperation) fun _ =>
        .done fun _ answered => answered
  | updateTaskStatus taskId update =>
      exact .bind (triple_updateTaskStatus isStarted isOperation) fun _ =>
        .done fun _ answered => answered
  | cancelTask taskId =>
      exact .bind (triple_cancelTask isStarted isOperation) fun _ =>
        .done fun _ answered => answered
  | markOfflineAgentsAndRequeue offlineAfterSec =>
      exact .bind (triple_markOfflineAgentsAndRequeue isStarted isOperation) fun _ =>
        .done fun _ answered => answered

abbrev pgContract (work : Workload) (store : Store) : ThreadPool.Contract Nat
    (SessionCall RowKey RowChange) (SessionCall.Reply Store Int) DbError
    (Sessions Nat Store RowKey RowChange) (CallFault DbError) Empty Empty PgResult :=
  pgEngine.contract (Good work) store
    (fun id program => ∃ attempt, work.started id attempt ∧
      program = (work.operation id).program work.timestamptz attempt)
    (Answered work)

variable {operation} {store : Store} (exclusive : store.ledger.Exclusive)

include exclusive

theorem pgContract_fits (work : Workload) : (pgContract work store).Fits := by
  refine contract_fits (fun id result => stable_answered result) preserves_exclusive exclusive ?_
  rintro id program ⟨attempt, isStarted, rfl⟩
  exact triple_program isStarted

theorem pgRun_safe (steps : List SessionStep) :
    (pgContract (pgWork timestamptz operation steps) store).AllSafe
      (pgRun timestamptz operation store steps) := by
  have fits : (pgContract (pgWork timestamptz operation steps) store).Fits :=
    pgContract_fits exclusive _
  refine (ThreadPool.Contract.allSafe_idle _ contract_idle).run fits ?_
  rw [along_iff]
  intro before action after split
  have member : action ∈ steps.map (SessionStep.action timestamptz operation) := by simp [split]
  obtain ⟨step, isStep, rfl⟩ := List.mem_map.mp member
  cases step with
  | start id attempt => exact ⟨attempt, isStep, rfl⟩
  | call id fault => trivial

/-- The commits of a run lead to its database. -/
theorem pgRun_trail (steps : List SessionStep) :
    pgEngine.Trail (Good (pgWork timestamptz operation steps)) store
      (pgRun timestamptz operation store steps).state.commits
      (pgRun timestamptz operation store steps).state.committed :=
  (pgRun_safe timestamptz exclusive steps).inv.2

theorem pgRun_exclusive (steps : List SessionStep) :
    (pgRun timestamptz operation store steps).state.committed.ledger.Exclusive :=
  preserves_exclusive.of_trail pgEngine (pgRun_trail timestamptz exclusive steps) exclusive

end Sessions

/-! ## Who is given a task -/

section Given

/-- A commit after which the agent has the task, and before which it did not. -/
def Gives (agentId : String) (taskId : Int) (commit : Commit Nat Store) : Prop :=
  commit.before.ledger.assignee taskId ≠ some agentId ∧
    commit.after.ledger.assignee taskId = some agentId

variable (work : Workload)

/-- A sweep takes the task from the agent that holds it, which is past the threshold by the
clock of the sweep when it commits, and returns it to the queue. -/
def TakesBack (agentId : String) (taskId : Int) (commit : Commit Nat Store) : Prop :=
  (∃ offlineAfterSec attempt,
      work.operation commit.session = .markOfflineAgentsAndRequeue offlineAfterSec ∧
        work.started commit.session attempt ∧
        commit.before.StaleAgent attempt.now offlineAfterSec agentId) ∧
    commit.before.ledger.Holds agentId taskId ∧ commit.after.ledger.Returned taskId

variable {work}

theorem separated_of_trail {store final : Store} {commits : List (Commit Nat Store)}
    (trail : pgEngine.Trail (Good work) store commits final)
    {first middle last : List (Commit Nat Store)} {one two : Commit Nat Store}
    (split : commits = first ++ one :: middle ++ two :: last) {agentId other : String}
    {taskId : Int} (gives : Gives agentId taskId one) (givesAgain : Gives other taskId two) :
    ∃ commit ∈ middle, TakesBack work agentId taskId commit := by
  have between : pgEngine.Trail (Good work) one.after middle two.before :=
    (trail.before pgEngine split).after pgEngine rfl
  obtain ⟨newly, given⟩ := givesAgain
  have lost : two.before.ledger.assignee taskId ≠ some agentId := by
    intro assigned
    have member : two ∈ commits := by simp [split]
    obtain ⟨attempt, result, _, commit⟩ := trail.good_of_mem pgEngine member
    rcases commit.assignee assigned with kept | ⟨_, _, returned⟩
    · rw [given, Option.some.injEq] at kept
      exact newly (kept ▸ assigned)
    · rw [returned.2] at given
      cases given
  have drawn : ∀ before value after, pgEngine.draw before = .ok (value, after) →
      before.ledger.assignee taskId = some agentId →
        after.ledger.assignee taskId = some agentId := by
    intro before value after isDrawn held
    rwa [nextval_ledger isDrawn]
  obtain ⟨commit, member, held, ended⟩ := between.exists_breaking pgEngine drawn gives.2 lost
  refine ⟨commit, member, ?_⟩
  obtain ⟨attempt, result, isStarted, made⟩ := between.good_of_mem pgEngine member
  rcases made.assignee held with kept | ⟨⟨offlineAfterSec, isSweep, stale⟩, took⟩
  · exact absurd kept ended
  · exact ⟨⟨offlineAfterSec, attempt, isSweep, isStarted, stale⟩, took⟩

theorem gives_of_polled {commit : Commit Nat Store} {agentId : String} {freeSlots : Int}
    {dispatches : List TaskDispatch}
    (isPoll : work.operation commit.session = .pollTasksForAgent agentId freeSlots)
    {attempt : Attempt}
    (made : CommitOf work.timestamptz attempt commit.reads (work.operation commit.session)
      (.polled (some dispatches)) commit.before commit.after) {taskId : Int}
    (handed : taskId ∈ dispatches.map TaskDispatch.taskId) : Gives agentId taskId commit := by
  rw [isPoll] at made
  obtain ⟨free, given⟩ := made.assignee_of_handed handed
  exact ⟨by simp [free], given⟩

end Given

/-! ## A run -/

/-- A poll, a sweep and a poll of another agent. -/
def pollThenSweep : Nat → PgOperation
  | 0 => .pollTasksForAgent "agent-1" 1
  | 1 => .markOfflineAgentsAndRequeue 120
  | _ => .pollTasksForAgent "agent-2" 1

def noTimestamps (_ : Time) (_ : String) : Option Time := none

/-- Two agents, the second of which registers late, and a queued task. -/
def agentsAndTask : Store :=
  run (masterStep (.pgsql noTimestamps) {}) Store.empty
    [.calm (.pgsql noTimestamps) 0 (AgentClient.registerAgent
        { agentId := "agent-1", os := "linux", version := "dev", cpuCores := 4 }),
      .calm (.pgsql noTimestamps) 400000 (AgentClient.registerAgent
        { agentId := "agent-2", os := "linux", version := "dev", cpuCores := 4 }),
      .calm (.pgsql noTimestamps) 0 (.createTask (.json (.object [("command", .string "true")])))]

theorem agentsAndTask_exclusive : agentsAndTask.ledger.Exclusive :=
  fun _ => .inl rfl

/-- The sweep begins while the first poll runs, and has to wait for its locks. -/
def pollThenSweepSteps : List SessionStep :=
  let calls := fun (id count : Nat) => List.replicate count (SessionStep.call id .none)
  .start 0 { now := 1000 } :: calls 0 6 ++
    .start 1 { now := 400000 } :: calls 1 1 ++ calls 0 9 ++ calls 1 12 ++
    .start 2 { now := 401000 } :: calls 2 15

/-! ## What holds in every run -/

/-- The database of a run is reached by commits that each do what their operation does, with
the clock of an attempt that the session was started with, and a transaction that returns has
committed its result or changes nothing. -/
theorem pgRun_commits (timestamptz : Time → String → Option Time)
    (operation : Nat → PgOperation) {store : Store} (exclusive : store.ledger.Exclusive)
    (steps : List SessionStep) :
    let pool := pgRun timestamptz operation store steps
    pgEngine.Trail (fun id reads before after => ∃ attempt result,
        .start id attempt ∈ steps ∧
          CommitOf timestamptz attempt reads (operation id) result before after)
        store pool.state.commits pool.state.committed ∧
      ∀ id result, pool.threads id = some (.done result) → result.Silent ∨
        ∃ commit ∈ pool.state.commits, commit.session = id ∧ ∃ attempt,
          .start id attempt ∈ steps ∧
            CommitOf timestamptz attempt commit.reads (operation id) result commit.before
              commit.after := by
  intro pool
  have safe : (pgContract (pgWork timestamptz operation steps) store).AllSafe pool :=
    pgRun_safe timestamptz exclusive steps
  exact ⟨safe.inv.2, fun id result finished => safe.threads id _ finished⟩

theorem pgRun_commits_pollThenSweep :
    ∃ commit ∈ (pgRun noTimestamps pollThenSweep agentsAndTask pollThenSweepSteps).state.commits,
      commit.session = 1 ∧ ∃ attempt, .start 1 attempt ∈ pollThenSweepSteps ∧
        CommitOf noTimestamps attempt commit.reads (.markOfflineAgentsAndRequeue 120)
          (.requeued 1) commit.before commit.after :=
  ((pgRun_commits noTimestamps pollThenSweep agentsAndTask_exclusive pollThenSweepSteps).2 1
    (.requeued 1) rfl).resolve_left (by simp [PgResult.Silent])

/-- In every state of a run a task has at most one open assignment, and its agent has the
task. -/
theorem pgRun_open_assignments (timestamptz : Time → String → Option Time)
    (operation : Nat → PgOperation) {store : Store} (exclusive : store.ledger.Exclusive)
    (steps : List SessionStep) :
    let reached := (pgRun timestamptz operation store steps).state.committed
    (∀ taskId,
      reached.taskAssignments.countP (fun row => decide (Store.OpenRow taskId row)) ≤ 1) ∧
      ∀ row ∈ reached.taskAssignments, row.unassignedAt = none →
        ∃ task, reached.task row.taskId = some task ∧ task.assignedAgent = some row.agentId ∧
          (task.state = .running ∨ task.state = .queued) := by
  intro reached
  have kept : reached.ledger.Exclusive := pgRun_exclusive timestamptz exclusive steps
  constructor
  · intro taskId
    rw [Store.countP_openRow]
    rcases kept taskId with nothing | ⟨agent, only, _⟩
    · simp [nothing]
    · simp [only]
  · intro row member stillOpen
    have leased := (reached.mem_openHolders row.taskId row.agentId).mpr
      ⟨row, member, rfl, rfl, stillOpen⟩
    obtain ⟨assigned, active⟩ := kept.holds leased
    cases found : reached.task row.taskId with
    | none => simp [Store.ledger_assignee, found] at assigned
    | some task =>
        rw [Store.assignee_of_task found] at assigned
        simp only [Store.state_of_task found, Option.some.injEq] at active
        exact ⟨task, rfl, assigned, active⟩

theorem pgRun_open_assignments_pollThenSweep :
    ∃ task, (pgRun noTimestamps pollThenSweep agentsAndTask
        pollThenSweepSteps).state.committed.task 1 = some task ∧
      task.assignedAgent = some "agent-2" ∧ (task.state = .running ∨ task.state = .queued) :=
  (pgRun_open_assignments noTimestamps pollThenSweep agentsAndTask_exclusive
    pollThenSweepSteps).2 { taskId := 1, agentId := "agent-2", assignedAt := 401000 }
      (List.mem_cons_of_mem _ List.mem_cons_self) rfl

/-- Only polls of an agent give it a task.  A task is given again, to whichever agent, only
after a sweep has taken it from the agent that had it, and two polls that return the same
task are such a pair. -/
theorem pgRun_gives_separated (timestamptz : Time → String → Option Time)
    (operation : Nat → PgOperation) {store : Store} (exclusive : store.ledger.Exclusive)
    (steps : List SessionStep) :
    let pool := pgRun timestamptz operation store steps
    (∀ commit ∈ pool.state.commits, ∀ agentId taskId, Gives agentId taskId commit →
      ∃ freeSlots, operation commit.session = .pollTasksForAgent agentId freeSlots) ∧
    (∀ first one middle two last agentId other taskId,
      pool.state.commits = first ++ one :: middle ++ two :: last →
        Gives agentId taskId one → Gives other taskId two →
          ∃ commit ∈ middle,
            TakesBack (pgWork timestamptz operation steps) agentId taskId commit) ∧
    ∀ id otherId agentId other freeSlots otherSlots dispatches otherDispatches taskId,
      id ≠ otherId → operation id = .pollTasksForAgent agentId freeSlots →
      operation otherId = .pollTasksForAgent other otherSlots →
      pool.threads id = some (.done (.polled (some dispatches))) →
      pool.threads otherId = some (.done (.polled (some otherDispatches))) →
      taskId ∈ dispatches.map TaskDispatch.taskId →
      taskId ∈ otherDispatches.map TaskDispatch.taskId →
        ∃ first one middle two last holder,
          pool.state.commits = first ++ one :: middle ++ two :: last ∧
          (one.session = id ∧ two.session = otherId ∨
            one.session = otherId ∧ two.session = id) ∧
          Gives holder taskId one ∧
          ∃ commit ∈ middle,
            TakesBack (pgWork timestamptz operation steps) holder taskId commit := by
  intro pool
  have safe : (pgContract (pgWork timestamptz operation steps) store).AllSafe pool :=
    pgRun_safe timestamptz exclusive steps
  have trail : pgEngine.Trail (Good (pgWork timestamptz operation steps)) store
      pool.state.commits pool.state.committed := safe.inv.2
  refine ⟨?_, fun first one middle two last agentId other taskId split =>
    separated_of_trail trail split, ?_⟩
  · intro commit member agentId taskId gives
    obtain ⟨attempt, result, _, made⟩ := trail.good_of_mem pgEngine member
    exact made.isPoll gives.1 gives.2
  · intro id otherId agentId other freeSlots otherSlots dispatches otherDispatches taskId
      different isPoll isOtherPoll finished otherFinished member otherMember
    have answered : Answered (pgWork timestamptz operation steps) id
        (.polled (some dispatches)) pool.state := safe.threads id _ finished
    have otherAnswered : Answered (pgWork timestamptz operation steps) otherId
        (.polled (some otherDispatches)) pool.state := safe.threads otherId _ otherFinished
    obtain ⟨commit, inHistory, rfl, _, _, made⟩ :=
      answered.resolve_left (by simp [PgResult.Silent])
    obtain ⟨otherCommit, alsoInHistory, rfl, _, _, otherMade⟩ :=
      otherAnswered.resolve_left (by simp [PgResult.Silent])
    have gives := gives_of_polled isPoll made member
    have otherGives := gives_of_polled isOtherPoll otherMade otherMember
    have distinct : commit ≠ otherCommit := by
      rintro rfl
      exact different rfl
    obtain ⟨first, middle, last, split | split⟩ :=
      ordered_of_mem distinct inHistory alsoInHistory
    · exact ⟨first, commit, middle, otherCommit, last, agentId, split, .inl ⟨rfl, rfl⟩, gives,
        separated_of_trail trail split gives otherGives⟩
    · exact ⟨first, otherCommit, middle, commit, last, other, split, .inr ⟨rfl, rfl⟩, otherGives,
        separated_of_trail trail split otherGives gives⟩

theorem pgRun_gives_separated_pollThenSweep :
    ∃ one commit two,
      (pgRun noTimestamps pollThenSweep agentsAndTask pollThenSweepSteps).state.commits =
          [one, commit, two] ∧
        TakesBack (pgWork noTimestamps pollThenSweep pollThenSweepSteps) "agent-1" 1 commit := by
  obtain ⟨commit, member, takesBack⟩ :=
    (pgRun_gives_separated noTimestamps pollThenSweep agentsAndTask_exclusive
      pollThenSweepSteps).2.1 [] _ [_] _ [] "agent-1" "agent-2" 1 rfl ⟨by decide, rfl⟩
        ⟨by decide, rfl⟩
  rw [List.mem_singleton] at member
  subst member
  exact ⟨_, _, _, rfl, takesBack⟩

end DistributedComputing
