import DistributedComputing.PgTransactions

/-!
# Sweeps among other sessions

A sweep locks its agents first, so no poll gives them tasks before it commits.  What other
sessions have finished in the meantime it leaves alone.
-/

namespace DistributedComputing

namespace PgSessions

open RowEngine

variable {work : Workload} {id : Nat} {writes : List RowChange}
  {held : List RowKey} {fact : Store → Prop} {now : Time} {agents : List String}
  {places : List Nat} {tasks : List Int} {offlineAfterSec : Int}

/-! ## What a sweep writes -/

/-- The changes set these agents offline, end the assignments at these places and return
these tasks. -/
structure Swept (now : Time) (agents : List String) (places : List Nat) (tasks : List Int)
    (writes : List RowChange) : Prop where
  updates : ∀ change ∈ writes, change.addsRow = false
  agent : ∀ store agentId, (writes.foldl RowChange.apply store).agent agentId =
    (store.agent agentId).map fun row => if agentId ∈ agents then withStatus .offline row else row
  task : ∀ store taskId, (writes.foldl RowChange.apply store).task taskId =
    (store.task taskId).map fun row => if taskId ∈ tasks then requeuedTask row else row
  assignment : ∀ store position,
    (writes.foldl RowChange.apply store).taskAssignments[position]? =
      (store.taskAssignments[position]?).map fun row =>
        if position ∈ places then offlineAssignment now row else row

theorem swept_nil : Swept now [] [] [] [] where
  updates := by simp
  agent store agentId := by simp
  task store taskId := by simp
  assignment store position := by simp

theorem requeuedTask_requeuedTask (row : TaskRow) :
    requeuedTask (requeuedTask row) = requeuedTask row := by
  cases message : row.errorMessage <;> simp [requeuedTask, message]

theorem Swept.addAgent (swept : Swept now agents places tasks writes) (agentId : String)
    (keeps : ∀ row, (withStatus .offline row).agentId = row.agentId) :
    Swept now (agents ++ [agentId]) places tasks
      (writes ++ [.agent agentId (withStatus .offline) keeps]) where
  updates := updates_append (fun _ : Unit => .agent agentId (withStatus .offline) keeps) [()]
    swept.updates fun _ => rfl
  agent store other := by
    rw [List.foldl_append]
    by_cases same : other = agentId
    · subst same
      simp only [List.foldl_cons, List.foldl_nil, RowChange.apply, Store.agent_updateAgent,
        swept.agent, if_true, Option.map_map]
      congr 1
      funext row
      by_cases before : other ∈ agents <;> simp [before, withStatus]
    · simp [RowChange.apply, same, swept.agent]
  task store taskId := by
    rw [List.foldl_append]
    exact swept.task store taskId
  assignment store position := by
    rw [List.foldl_append]
    exact swept.assignment store position

theorem Swept.addPlaces (swept : Swept now agents places tasks writes) {more : List Nat}
    (distinct : more.Nodup)
    (ends : ∀ row, (offlineAssignment now row).unassignedAt.isSome = true) :
    Swept now agents (places ++ more) tasks
      (writes ++ more.map fun place => .assignment place (offlineAssignment now) ends) where
  updates := updates_append _ _ swept.updates fun _ => rfl
  agent store agentId := by
    rw [List.foldl_append, Store.agent, (foldl_assignments ends distinct _).1]
    exact swept.agent store agentId
  task store taskId := by
    rw [List.foldl_append, Store.task, (foldl_assignments ends distinct _).2.1]
    exact swept.task store taskId
  assignment store position := by
    rw [List.foldl_append, (foldl_assignments ends distinct _).2.2.2, swept.assignment,
      Option.map_map]
    congr 1
    funext row
    by_cases before : position ∈ places <;> by_cases now : position ∈ more <;>
      simp [before, now, offlineAssignment]

theorem Swept.addTasks (swept : Swept now agents places tasks writes) (more : List Int)
    (keeps : ∀ row, (requeuedTask row).taskId = row.taskId) :
    Swept now agents places (tasks ++ more)
      (writes ++ more.map fun taskId => .task taskId requeuedTask keeps) := by
  induction more generalizing tasks writes with
  | nil => simpa using swept
  | cons first more ih =>
      have one : Swept now agents places (tasks ++ [first])
          (writes ++ [.task first requeuedTask keeps]) := by
        refine ⟨?_, ?_, ?_, ?_⟩
        · exact updates_append (fun taskId => .task taskId requeuedTask keeps) [first]
            swept.updates fun _ => rfl
        · intro store agentId
          rw [List.foldl_append]
          exact swept.agent store agentId
        · intro store taskId
          rw [List.foldl_append]
          by_cases same : taskId = first
          · subst same
            simp only [List.foldl_cons, List.foldl_nil, RowChange.apply, Store.task_updateTask,
              swept.task, if_true, Option.map_map]
            congr 1
            funext row
            by_cases before : taskId ∈ tasks <;>
              simp [before, requeuedTask_requeuedTask]
          · simp [RowChange.apply, same, swept.task]
        · intro store position
          rw [List.foldl_append]
          exact swept.assignment store position
      simpa using ih one

/-! ## What a sweep knows -/

/-- What the sweep has found and locked is still so, and all open assignments of its
agents are among it. -/
structure SweepFacts (agents : List String) (places : List Nat) (tasks : List Int)
    (store : Store) : Prop where
  exclusive : store.ledger.Exclusive
  wasOpen : ∀ position ∈ places, ∃ row, store.taskAssignments[position]? = some row ∧
    row.unassignedAt = none ∧ row.agentId ∈ agents
  wasActive : ∀ taskId ∈ tasks, ∃ row, store.task taskId = some row ∧
    ∃ agentId ∈ agents, row.assignedAgent = some agentId ∧
      (row.state = .running ∨ row.state = .queued)
  ended : ∀ (position : Nat) (row : AssignmentRow),
    store.taskAssignments[position]? = some row → row.unassignedAt = none → row.agentId ∈ agents →
      position ∈ places ∧ row.taskId ∈ tasks

theorem sweepFacts_nil {store : Store} (exclusive : store.ledger.Exclusive) :
    SweepFacts [] [] [] store where
  exclusive := exclusive
  wasOpen := by simp
  wasActive := by simp
  ended := by simp

theorem persists_sweepFacts (agentsHeld : ∀ agentId ∈ agents, .agent agentId ∈ held)
    (placesHeld : ∀ position ∈ places, .assignment position ∈ held)
    (tasksHeld : ∀ taskId ∈ tasks, .task taskId ∈ held) :
    pgEngine.Persists (Good work) id held (SweepFacts agents places tasks) := by
  have found : pgEngine.Persists (Good work) id held fun store =>
      ∀ position ∈ places, ∃ row, store.taskAssignments[position]? = some row ∧
        row.unassignedAt = none ∧ row.agentId ∈ agents :=
    .of_mem fun position member => (guarded_assignment position _).persists.mono
      (by simpa using placesHeld position member)
  have active : pgEngine.Persists (Good work) id held fun store =>
      ∀ taskId ∈ tasks, ∃ row, store.task taskId = some row ∧
        ∃ agentId ∈ agents, row.assignedAgent = some agentId ∧
          (row.state = .running ∨ row.state = .queued) :=
    .of_mem fun taskId member => (guarded_task taskId fun found => ∃ row, found = some row ∧
      ∃ agentId ∈ agents, row.assignedAgent = some agentId ∧
        (row.state = .running ∨ row.state = .queued)).persists.mono
          (by simpa using tasksHeld taskId member)
  have noOther : pgEngine.Persists (Good work) id held fun store =>
      ∀ (position : Nat) (row : AssignmentRow), store.taskAssignments[position]? = some row →
        row.unassignedAt = none → row.agentId ∈ agents →
          position ∈ places ∧ row.taskId ∈ tasks :=
    (guarded_open (fun row => row.agentId ∈ agents) (fun row owned => .inr (agentsHeld _ owned))
      fun position row => position ∈ places ∧ row.taskId ∈ tasks).persists
  intro sessions later relied isHeld facts
  exact ⟨persists_exclusive sessions later relied isHeld facts.exclusive,
    found sessions later relied isHeld facts.wasOpen,
    active sessions later relied isHeld facts.wasActive,
    noOther sessions later relied isHeld facts.ended⟩

/-! ## One agent -/

/-- The test of the statement that returns tasks. -/
def activeTaskOf (agentId : String) (row : TaskRow) : Bool :=
  decide (row.assignedAgent = some agentId) &&
    (decide (row.state = .running) || decide (row.state = .queued))

/-- An open assignment of the agent is for the task. -/
def LeasedTo (agentId : String) (taskId : Int) (store : Store) : Prop :=
  ∃ (position : Nat) (row : AssignmentRow), store.taskAssignments[position]? = some row ∧
    row.unassignedAt = none ∧ row.agentId = agentId ∧ row.taskId = taskId

theorem persists_leasedTo {agentId : String} (locked : .agent agentId ∈ held)
    (listed : Int → Prop) :
    pgEngine.Persists (Good work) id held fun store =>
      ∀ taskId, LeasedTo agentId taskId store → listed taskId := by
  have guarded : pgEngine.Guarded held fun store => ∀ (position : Nat) (row : AssignmentRow),
      store.taskAssignments[position]? = some row → row.unassignedAt = none →
        row.agentId = agentId → listed row.taskId :=
    guarded_open _ (fun row owned => .inr (owned ▸ locked)) fun _ row => listed row.taskId
  intro sessions later relied isHeld holds taskId
  rintro ⟨position, row, found, stillOpen, owned, rfl⟩
  refine guarded.persists sessions later relied isHeld ?_ position row found stillOpen owned
  exact fun position row found stillOpen owned =>
    holds row.taskId ⟨position, row, found, stillOpen, owned, rfl⟩

section OneAgent

variable {agentId : String} {store : Store} (fresh : agentId ∉ agents)
  (facts : SweepFacts agents places tasks store)

include fresh facts

/-- The assignments that were ended for other agents are none of this one. -/
theorem Swept.openAt_iff {more : List String} (swept : Swept now more places tasks writes)
    (position : Nat) :
    OpenAt (fun row => decide (row.agentId = agentId)) position
        (writes.foldl RowChange.apply store) ↔
      OpenAt (fun row => decide (row.agentId = agentId)) position store := by
  unfold OpenAt
  rw [swept.assignment]
  by_cases ended : position ∈ places
  · obtain ⟨row, found, _, other⟩ := facts.wasOpen position ended
    have different : row.agentId ≠ agentId := fun same => fresh (same ▸ other)
    simp [ended, found, offlineAssignment, different]
  · simp [ended]

/-- A task with an open assignment of the agent passes the test. -/
theorem Swept.passes {more : List String} {all : List Nat}
    (swept : Swept now more all tasks writes) {taskId : Int}
    (leased : LeasedTo agentId taskId store) :
    ((writes.foldl RowChange.apply store).task taskId).any (activeTaskOf agentId) = true := by
  obtain ⟨position, assignment, found, stillOpen, owned, isTask⟩ := leased
  have holds := facts.exclusive.holds ((store.mem_openHolders taskId agentId).mpr
    ⟨assignment, List.mem_of_getElem? found, isTask, owned, stillOpen⟩)
  obtain ⟨assigned, active⟩ := holds
  cases held : store.task taskId with
  | none => simp [Store.ledger_assignee, held] at assigned
  | some row =>
      rw [Store.assignee_of_task held] at assigned
      simp only [Store.state_of_task held, Option.some.injEq] at active
      have untouched : taskId ∉ tasks := by
        intro member
        obtain ⟨other, foundToo, otherAgent, isSwept, assignedToo, _⟩ :=
          facts.wasActive taskId member
        rw [held, Option.some.injEq] at foundToo
        rw [← foundToo, assigned, Option.some.injEq] at assignedToo
        exact fresh (assignedToo ▸ isSwept)
      rw [swept.task, held]
      simpa [untouched, activeTaskOf, assigned] using active

omit fresh facts in
/-- A task that passes the test has not been returned yet. -/
theorem Swept.sees {more : List String} {all : List Nat}
    (swept : Swept now more all tasks writes) {taskId : Int} {row : TaskRow}
    (found : (writes.foldl RowChange.apply store).task taskId = some row)
    (passing : activeTaskOf agentId row = true) : store.task taskId = some row := by
  rw [swept.task] at found
  obtain ⟨old, held, isRow⟩ := Option.map_eq_some_iff.mp found
  by_cases returned : taskId ∈ tasks
  · rw [if_pos returned] at isRow
    rw [← isRow] at passing
    simp [activeTaskOf, requeuedTask] at passing
  · rw [if_neg returned] at isRow
    rw [held, isRow]

omit fresh in
/-- What is known once the agent is done. -/
theorem SweepFacts.addAgent {more : List Nat} {returned : List Int}
    (ended : ∀ position, position ∈ more ↔
      OpenAt (fun row => decide (row.agentId = agentId)) position store)
    (active : ∀ taskId ∈ returned, ∃ row, store.task taskId = some row ∧
      activeTaskOf agentId row = true)
    (all : ∀ taskId, LeasedTo agentId taskId store → taskId ∈ returned) :
    SweepFacts (agents ++ [agentId]) (places ++ more) (tasks ++ returned) store where
  exclusive := facts.exclusive
  wasOpen position member := by
    rcases List.mem_append.mp member with old | new
    · obtain ⟨row, found, stillOpen, owned⟩ := facts.wasOpen position old
      exact ⟨row, found, stillOpen, List.mem_append_left _ owned⟩
    · obtain ⟨row, found, stillOpen, owned⟩ := (ended position).mp new
      exact ⟨row, found, stillOpen, by simpa using .inr (of_decide_eq_true owned)⟩
  wasActive taskId member := by
    rcases List.mem_append.mp member with old | new
    · obtain ⟨row, found, other, isSwept, assigned⟩ := facts.wasActive taskId old
      exact ⟨row, found, other, List.mem_append_left _ isSwept, assigned⟩
    · obtain ⟨row, found, passing⟩ := active taskId new
      refine ⟨row, found, agentId, by simp, ?_⟩
      simpa [activeTaskOf] using passing
  ended position row found stillOpen owned := by
    rcases List.mem_append.mp owned with old | new
    · obtain ⟨isPlace, isTask⟩ := facts.ended position row found stillOpen old
      exact ⟨List.mem_append_left _ isPlace, List.mem_append_left _ isTask⟩
    · have isAgent : row.agentId = agentId := List.mem_singleton.mp new
      constructor
      · exact List.mem_append_right _ ((ended position).mpr
          ⟨row, found, stillOpen, decide_eq_true isAgent⟩)
      · exact List.mem_append_right _ (all row.taskId
          ⟨position, row, found, stillOpen, isAgent, rfl⟩)

end OneAgent

/-- Of the agents that were found these are the ones past the threshold. -/
def Chosen (now : Time) (offlineAfterSec : Int) (found all : List String) (store : Store) :
    Prop :=
  ∀ agentId ∈ found, agentId ∈ all ↔ store.StaleAgent now offlineAfterSec agentId

/-- The sweep has locked the agents that it found and is done with some of those past the
threshold. -/
def SweepKnows (now : Time) (offlineAfterSec : Int) (id : Nat) (found all agents : List String)
    (sessions : Sessions Nat Store RowKey RowChange) : Prop :=
  ∃ places tasks writes, Swept now agents places tasks writes ∧
    Knows id writes (places.map .assignment ++ (tasks.map .task ++ found.map .agent))
      (fun store => SweepFacts agents places tasks store ∧
        Chosen now offlineAfterSec found all store) sessions

theorem persists_chosen (now : Time) (offlineAfterSec : Int) {found : List String}
    (all : List String) (isHeld : ∀ agentId ∈ found, .agent agentId ∈ held) :
    pgEngine.Persists (Good work) id held (Chosen now offlineAfterSec found all) :=
  .of_mem fun agentId member => (guarded_agent agentId fun row => agentId ∈ all ↔
    ∃ current, row = some current ∧ isStale now offlineAfterSec current = true).persists.mono
      (by simpa using isHeld agentId member)

variable (work id places tasks now offlineAfterSec) in
theorem persists_swept {found : List String} (all : List String) (subset : agents ⊆ found) :
    pgEngine.Persists (Good work) id
      (places.map .assignment ++ (tasks.map .task ++ found.map .agent)) fun store =>
        SweepFacts agents places tasks store ∧ Chosen now offlineAfterSec found all store := by
  refine (persists_sweepFacts ?_ ?_ ?_).and (persists_chosen now offlineAfterSec all (by simp))
  · intro agentId isSwept
    simpa using subset isSwept
  · intro position isPlace
    simpa using isPlace
  · intro taskId isTask
    simpa using isTask

section Statements

variable {found all : List String} {agentId : String} (member : agentId ∈ all)
  (inFound : all ⊆ found) (fresh : agentId ∉ agents) (subset : agents ⊆ all)

include member inFound fresh subset

/-- The statements for assignments and tasks, after the one for the agent. -/
theorem triple_returnTasks (swept : Swept now (agents ++ [agentId]) places tasks writes)
    {ends : ∀ row, (offlineAssignment now row).unassignedAt.isSome = true}
    {keeps : ∀ row, (requeuedTask row).taskId = row.taskId} :
    pgEngine.Triple (Good work) id
      (Knows id writes (places.map .assignment ++ (tasks.map .task ++ found.map .agent))
        fun store => SweepFacts agents places tasks store ∧
          Chosen now offlineAfterSec found all store)
      (updateAssignments (fun row => decide (row.agentId = agentId) && row.unassignedAt.isNone)
        (offlineAssignment now) ends >>= fun _ =>
          updateTasks (activeTaskOf agentId) requeuedTask keeps >>= fun _ => .done ())
      fun _ => SweepKnows now offlineAfterSec id found all (agents ++ [agentId]) := by
  have isHeld : RowKey.agent agentId ∈
      places.map .assignment ++ (tasks.map .task ++ found.map .agent) := by
    simpa using inFound member
  have locked : ∀ row : AssignmentRow, decide (row.agentId = agentId) = true →
      RowKey.task row.taskId ∈ places.map .assignment ++ (tasks.map .task ++ found.map .agent) ∨
        RowKey.agent row.agentId ∈
          places.map .assignment ++ (tasks.map .task ++ found.map .agent) := by
    intro row owned
    rw [of_decide_eq_true owned]
    exact .inr isHeld
  have factsPersist := persists_swept work id now places tasks offlineAfterSec all
    fun _ isSwept => inFound (subset isSwept)
  refine .bind (triple_updateAssignments factsPersist
    (fun store holds => swept.openAt_iff fresh holds.1) locked) fun _ => ?_
  refine Triple.cases fun more => Triple.given fun distinct => ?_
  have sweptToo := swept.addPlaces distinct ends
  have endedPersist := (factsPersist.mono (List.subset_append_right (more.map .assignment) _)).and
    (persists_ended locked more)
  refine .bind (triple_updateTasks endedPersist
    (persists_leasedTo (List.mem_append_right _ isHeld)) ?_ ?_) fun _ => ?_
  · exact fun store _ taskId row found passing => sweptToo.sees found passing
  · exact fun store holds taskId leased => sweptToo.passes fresh holds.1.1 leased
  · refine .done ?_
    rintro sessions ⟨returned, knows⟩
    refine ⟨places ++ more, tasks ++ returned, _, sweptToo.addTasks returned keeps,
      knows.imp ?_ ?_⟩
    · intro key isKey
      simp only [List.map_append, List.mem_append] at isKey ⊢
      tauto
    · rintro store ⟨⟨⟨facts, chosen⟩, ended⟩, active, leases⟩
      exact ⟨facts.addAgent ended active leases, chosen⟩

/-- One agent is taken offline. -/
theorem triple_takeOffline :
    pgEngine.Triple (Good work) id (SweepKnows now offlineAfterSec id found all agents)
      (takeOffline now agentId)
      fun _ => SweepKnows now offlineAfterSec id found all (agents ++ [agentId]) := by
  refine Triple.cases fun places => Triple.cases fun tasks => Triple.cases fun writes =>
    Triple.given fun swept => ?_
  have factsPersist := persists_swept work id now places tasks offlineAfterSec all
    fun _ isSwept => inFound (subset isSwept)
  refine .bind (triple_updateAgent factsPersist swept.updates _ _ _) fun _ => ?_
  rintro sessions (⟨_, ⟨store, holds, absent⟩, _⟩ | ⟨_, knows⟩)
  · exact absurd absent ((holds.2 agentId (inFound member)).mp member).known
  · exact triple_returnTasks member inFound fresh subset (swept.addAgent agentId _) sessions
      (knows.imp (List.subset_cons_self _ _) fun _ holds => holds.1)

end Statements

theorem triple_takeAllOffline {found all rest : List String} (inFound : all ⊆ found)
    (subset : rest ⊆ all) (done : agents ⊆ all) (distinct : (agents ++ rest).Nodup) :
    pgEngine.Triple (Good work) id (SweepKnows now offlineAfterSec id found all agents)
      (takeAllOffline now rest)
      fun _ => SweepKnows now offlineAfterSec id found all (agents ++ rest) := by
  induction rest generalizing agents with
  | nil =>
      rw [List.append_nil]
      exact .done fun _ knows => knows
  | cons agentId rest ih =>
      rw [List.cons_subset] at subset
      have fresh : agentId ∉ agents := fun member =>
        (List.nodup_append.mp distinct).2.2 _ member _ List.mem_cons_self rfl
      refine .bind (triple_takeOffline subset.1 inFound fresh done) fun _ => ?_
      have started : agents ++ [agentId] ⊆ all :=
        List.append_subset.mpr ⟨done, by simpa using subset.1⟩
      have others := ih subset.2 started (by simpa using distinct)
      simpa using others

/-! ## The sweep -/

/-- Of the agents that are locked those past the threshold are kept. -/
theorem triple_lockStale (offlineAfterSec : Int) {agentIds : List String}
    (persists : pgEngine.Persists (Good work) id held fact) :
    pgEngine.Triple (Good work) id (Knows id [] held fact)
      (lockStale now offlineAfterSec agentIds)
      fun kept sessions => kept.Sublist agentIds ∧ Knows id [] (agentIds.map .agent ++ held)
        (fun store => fact store ∧ Chosen now offlineAfterSec agentIds kept store) sessions := by
  induction agentIds generalizing held fact with
  | nil => exact .done fun sessions knows => ⟨.refl _, by simpa [Chosen] using knows⟩
  | cons agentId agentIds ih =>
      have locked : pgEngine.Triple (Good work) id (Knows id [] held fact)
          (ask (.lock (.agent agentId))) fun current => Knows id [] (.agent agentId :: held)
            fun store => fact store ∧ current.agent agentId = store.agent agentId :=
        knows_lock persists fun store holds => ⟨holds, rfl⟩
      refine .bind locked fun current => ?_
      have same : pgEngine.Persists (Good work) id (.agent agentId :: held) fun store =>
          current.agent agentId = store.agent agentId :=
        (guarded_agent agentId fun row => current.agent agentId = row).persists.mono (by simp)
      refine .bind (ih ((persists.mono (List.subset_cons_self _ _)).and same)) fun others => ?_
      refine .done ?_
      rintro sessions ⟨sublist, knows⟩
      have moreHeld : ∀ key ∈ (agentId :: agentIds).map RowKey.agent ++ held,
          key ∈ agentIds.map RowKey.agent ++ .agent agentId :: held := by
        intro key isKey
        simpa [or_left_comm] using isKey
      split
      · rename_i stale
        refine ⟨sublist.cons_cons _, knows.imp moreHeld ?_⟩
        rintro store ⟨⟨holds, seen⟩, chosen⟩
        have isStale : store.StaleAgent now offlineAfterSec agentId := by
          rw [seen] at stale
          exact (Option.any_eq_true _ _).mp stale
        refine ⟨holds, List.forall_mem_cons.mpr ⟨by simp [isStale], fun other member => ?_⟩⟩
        by_cases isFirst : other = agentId
        · simp [isFirst, isStale]
        · simpa [isFirst] using chosen other member
      · rename_i notStale
        refine ⟨sublist.cons _, knows.imp moreHeld ?_⟩
        rintro store ⟨⟨holds, seen⟩, chosen⟩
        have isRecent : ¬ store.StaleAgent now offlineAfterSec agentId := by
          rw [seen] at notStale
          exact fun stale => notStale ((Option.any_eq_true _ _).mpr stale)
        refine ⟨holds, List.forall_mem_cons.mpr ⟨?_, chosen⟩⟩
        constructor
        · exact fun isKept => (chosen agentId (sublist.subset isKept)).mp isKept
        · exact fun stale => absurd stale isRecent

/-- The assignments that the sweep has ended are the open ones of its agents. -/
theorem Swept.taskAssignments (swept : Swept now agents places tasks writes) {store : Store}
    (facts : SweepFacts agents places tasks store) :
    (writes.foldl RowChange.apply store).taskAssignments =
      (store.updateAssignments
        (fun row => decide (row.agentId ∈ agents) && row.unassignedAt.isNone)
        (offlineAssignment now)).taskAssignments := by
  apply List.ext_getElem?
  intro position
  rw [swept.assignment]
  simp only [Store.updateAssignments, List.getElem?_map]
  cases found : store.taskAssignments[position]? with
  | none => rfl
  | some row =>
      have listed : position ∈ places ↔
          (decide (row.agentId ∈ agents) && row.unassignedAt.isNone) = true := by
        rw [Bool.and_eq_true, decide_eq_true_eq, Option.isNone_iff_eq_none]
        constructor
        · intro isPlace
          obtain ⟨other, foundToo, stillOpen, owned⟩ := facts.wasOpen position isPlace
          rw [found, Option.some.injEq] at foundToo
          exact foundToo ▸ ⟨owned, stillOpen⟩
        · rintro ⟨owned, stillOpen⟩
          exact (facts.ended position row found stillOpen owned).1
      simp only [Option.map_some, listed]

/-- What the sweep commits. -/
theorem Swept.tables (swept : Swept now agents places tasks writes) {store : Store}
    (facts : SweepFacts agents places tasks store) :
    SweptTables now agents tasks store (writes.foldl RowChange.apply store) where
  agent := swept.agent store
  task := swept.task store
  taskAssignments := swept.taskAssignments facts
  active := facts.wasActive
  leased row member stillOpen isSwept := by
    obtain ⟨position, found⟩ := List.mem_iff_getElem?.mp member
    exact (facts.ended position row found stillOpen isSwept).2

theorem mem_stale (store : Store) (now : Time) (offlineAfterSec : Int) (agentId : String) :
    agentId ∈ (store.agents.rows.filter (isStale now offlineAfterSec)).map AgentRow.agentId ↔
      store.StaleAgent now offlineAfterSec agentId := by
  constructor
  · intro member
    obtain ⟨row, inRows, rfl⟩ := List.mem_map.mp member
    obtain ⟨inTable, stale⟩ := List.mem_filter.mp inRows
    exact ⟨row, KeyedTable.lookup_of_mem inTable, stale⟩
  · rintro ⟨row, found, stale⟩
    exact List.mem_map.mpr ⟨row, List.mem_filter.mpr ⟨KeyedTable.mem_of_lookup found, stale⟩,
      KeyedTable.key_of_lookup found⟩

theorem triple_markOfflineAgentsAndRequeue {attempt : Attempt}
    (isStarted : work.started id attempt) {offlineAfterSec : Int}
    (isSweep : work.operation id = .markOfflineAgentsAndRequeue offlineAfterSec) :
    pgEngine.Triple (Good work) id (fun sessions => sessions.committed.ledger.Exclusive)
      (markOfflineAgentsAndRequeue attempt offlineAfterSec)
      fun count => Answered work id (.requeued count) := by
  refine .bind triple_begin fun _ => ?_
  have viewed : pgEngine.Triple (Good work) id
      (Knows id [] [] fun store => store.ledger.Exclusive) (ask .view)
      fun seen sessions => [seen] ⊆ sessions.reads id ∧
        Knows id [] [] (fun store => store.ledger.Exclusive) sessions :=
    (knows_recall persists_exclusive fun _ holds => holds).imp
      (fun _ knows => ⟨List.nil_subset _, knows⟩) fun _ _ reached => reached
  refine .bind viewed fun seen => ?_
  dsimp only
  have distinct : ((seen.agents.rows.filter (isStale attempt.now offlineAfterSec)).map
      AgentRow.agentId).Nodup :=
    seen.agents.unique.sublist (List.filter_sublist.map AgentRow.agentId)
  have isFound := fun agentId => mem_stale seen attempt.now offlineAfterSec agentId
  generalize (seen.agents.rows.filter (isStale attempt.now offlineAfterSec)).map
    AgentRow.agentId = found at distinct isFound
  refine .bind (triple_remember (triple_lockStale offlineAfterSec persists_exclusive)
    (keepsRows_lockStale _ _ _) [seen]) fun kept => ?_
  rintro sessions ⟨isRead, sublist, knows⟩
  have persists : pgEngine.Persists (Good work) id (found.map .agent ++ [])
      fun store => store.ledger.Exclusive ∧ Chosen attempt.now offlineAfterSec found kept store :=
    persists_exclusive.and (persists_chosen attempt.now offlineAfterSec kept (by simp))
  by_cases nobody : kept.isEmpty = true
  · rw [if_pos nobody]
    exact triple_rollbackWith .requeued persists rfl sessions knows
  · rw [if_neg nobody]
    have start : SweepKnows attempt.now offlineAfterSec id found kept [] sessions :=
      ⟨[], [], [], swept_nil, knows.imp (by simp) fun store holds =>
        ⟨sweepFacts_nil holds.1, holds.2⟩⟩
    refine Triple.bind (triple_remember (triple_takeAllOffline sublist.subset
      (List.Subset.refl kept) (List.nil_subset kept) (distinct.sublist sublist))
      (keepsRows_takeAllOffline _ _) [seen]) (fun _ => ?_) sessions ⟨isRead, start⟩
    rintro later ⟨stillRead, places, tasks, writes, swept, reached⟩
    refine triple_commitAfter .requeued (persists_swept work id attempt.now places tasks
      offlineAfterSec kept sublist.subset) isStarted (fun reads included => ?_) later
      ⟨stillRead, reached⟩
    rintro store ⟨facts, chosen⟩
    rw [isSweep]
    refine ⟨kept, distinct.sublist sublist, rfl, ⟨seen, included (by simp), fun agentId => ?_⟩,
      tasks, swept.tables facts⟩
    rw [← isFound]
    constructor
    · exact fun isKept => ⟨sublist.subset isKept,
        (chosen agentId (sublist.subset isKept)).mp isKept⟩
    · rintro ⟨wasFound, stale⟩
      exact (chosen agentId wasFound).mpr stale

end PgSessions

end DistributedComputing
