import DistributedComputing.PgCommits
import DistributedComputing.PgSessionsAlone
import DistributedComputing.RowLockFacts

/-!
# Statements among other sessions

What a session knows after each statement of the PostgreSQL broker, whatever the other
sessions do.  A row that was found is locked and looked at again, so what was seen of it
stays true until the commit, and no row that should have been found can appear meanwhile.
-/

namespace DistributedComputing

theorem Store.tryInsertTask_cases (store : Store) (row : TaskRow) :
    store.tryInsertTask row = store ∨
      ∃ fresh bounds, store.tryInsertTask row = store.insertTask row fresh bounds := by
  unfold tryInsertTask
  split
  · rename_i fresh
    exact .inr ⟨fresh.1, fresh.2, rfl⟩
  · exact .inl rfl

namespace RowChange

/-- The change may add an agent or a task. -/
def addsRow : RowChange → Bool
  | upsertAgent _ _ _ => true
  | insertTask _ => true
  | _ => false

theorem task_apply {change : RowChange} {taskId : Int} (apart : .task taskId ∉ change.locks)
    (store : Store) : (change.apply store).task taskId = store.task taskId := by
  cases change with
  | agent agentId change keeps => rfl
  | upsertAgent row change keeps => simp [apply, Store.task]
  | insertTask row =>
      have different : row.taskId ≠ taskId := fun same => apart (by simp [locks, same])
      change (store.tryInsertTask row).task taskId = _
      rcases store.tryInsertTask_cases row with same | ⟨fresh, bounds, same⟩ <;> rw [same]
      simp [different]
  | task other change keeps =>
      have different : taskId ≠ other := fun same => apart (by simp [locks, same])
      simp [apply, different]
  | insertAssignment row => rfl
  | assignment position change ends => rfl

theorem agent_apply {change : RowChange} {agentId : String}
    (apart : .agent agentId ∉ change.locks) (store : Store) :
    (change.apply store).agent agentId = store.agent agentId := by
  cases change with
  | agent other change keeps =>
      have different : agentId ≠ other := fun same => apart (by simp [locks, same])
      simp [apply, different]
  | upsertAgent row change keeps =>
      have different : agentId ≠ row.agentId := fun same => apart (by simp [locks, same])
      simp [apply, Store.agent_upsertAgent, different]
  | insertTask row =>
      change (store.tryInsertTask row).agent agentId = _
      rcases store.tryInsertTask_cases row with same | ⟨fresh, bounds, same⟩ <;> rw [same]
      rfl
  | task taskId change keeps => rfl
  | insertAssignment row => rfl
  | assignment position change ends => rfl

/-- Agents are never removed. -/
theorem agent_apply_ne_none (change : RowChange) {store : Store} {agentId : String}
    (known : store.agent agentId ≠ none) : (change.apply store).agent agentId ≠ none := by
  cases change with
  | agent other change keeps =>
      by_cases same : agentId = other
      · subst same
        simpa [apply] using known
      · simpa [apply, same] using known
  | upsertAgent row change keeps =>
      by_cases same : agentId = row.agentId
      · simp [apply, Store.agent_upsertAgent, same]
      · simpa [apply, Store.agent_upsertAgent, same] using known
  | insertTask row =>
      change (store.tryInsertTask row).agent agentId ≠ none
      rcases store.tryInsertTask_cases row with same | ⟨fresh, bounds, same⟩ <;> rw [same] <;>
        exact known
  | task taskId change keeps => exact known
  | insertAssignment row => exact known
  | assignment position change ends => exact known

/-- Tasks are never removed. -/
theorem task_apply_ne_none (change : RowChange) {store : Store} {taskId : Int}
    (known : store.task taskId ≠ none) : (change.apply store).task taskId ≠ none := by
  cases change with
  | agent agentId change keeps => exact known
  | upsertAgent row change keeps => simpa [apply, Store.task] using known
  | insertTask row =>
      change (store.tryInsertTask row).task taskId ≠ none
      rcases store.tryInsertTask_cases row with same | ⟨fresh, bounds, same⟩ <;> rw [same]
      · exact known
      · by_cases isRow : row.taskId = taskId <;> simp [isRow, known]
  | task other change keeps =>
      by_cases same : taskId = other
      · subst same
        simpa [apply] using known
      · simpa [apply, same] using known
  | insertAssignment row => exact known
  | assignment position change ends => exact known

/-- Assignments keep their places, and only their own lock lets them change. -/
theorem getElem?_apply {change : RowChange} {position : Nat}
    (apart : .assignment position ∉ change.locks) {store : Store} {row : AssignmentRow}
    (found : store.taskAssignments[position]? = some row) :
    (change.apply store).taskAssignments[position]? = some row := by
  cases change with
  | agent agentId change keeps => exact found
  | upsertAgent row change keeps => simpa [apply] using found
  | insertTask row =>
      change (store.tryInsertTask row).taskAssignments[position]? = _
      rcases store.tryInsertTask_cases row with same | ⟨fresh, bounds, same⟩ <;> rw [same] <;>
        exact found
  | task taskId change keeps => exact found
  | insertAssignment row =>
      have within : position < store.taskAssignments.length :=
        (List.getElem?_eq_some_iff.mp found).1
      simpa [apply, Store.insertAssignment, List.getElem?_append_left within] using found
  | assignment other change ends =>
      have different : other ≠ position := fun same => apart (by simp [locks, same])
      simpa [apply, Store.updateAssignment, List.getElem?_modify, different] using found

/-- An open assignment was open before, or the change has added it. -/
theorem open_apply {change : RowChange} {store : Store} {position : Nat} {row : AssignmentRow}
    (found : (change.apply store).taskAssignments[position]? = some row)
    (stillOpen : row.unassignedAt = none) :
    store.taskAssignments[position]? = some row ∨ change = .insertAssignment row := by
  cases change with
  | agent agentId change keeps => exact .inl found
  | upsertAgent row change keeps => exact .inl (by simpa [apply] using found)
  | insertTask row =>
      change (store.tryInsertTask row).taskAssignments[position]? = _ at found
      rcases store.tryInsertTask_cases row with same | ⟨fresh, bounds, same⟩ <;>
        rw [same] at found <;> exact .inl found
  | task taskId change keeps => exact .inl found
  | insertAssignment new =>
      simp only [apply, Store.insertAssignment] at found
      by_cases within : position < store.taskAssignments.length
      · rw [List.getElem?_append_left within] at found
        exact .inl found
      · rw [List.getElem?_append_right (by omega)] at found
        rcases place : position - store.taskAssignments.length with _ | rest
        · rw [place] at found
          exact .inr (by simpa using found)
        · rw [place] at found
          simp at found
  | assignment other change ends =>
      simp only [apply, Store.updateAssignment, List.getElem?_modify] at found
      by_cases same : other = position
      · subst same
        cases held : store.taskAssignments[other]? with
        | none => simp [held] at found
        | some old =>
            have isChanged : change old = row := by simpa [held] using found
            have ended := ends old
            rw [isChanged, stillOpen] at ended
            cases ended
      · exact .inl (by simpa [same] using found)

theorem agent_apply_eq_none_iff {change : RowChange} (updates : change.addsRow = false)
    (store : Store) (agentId : String) :
    (change.apply store).agent agentId = none ↔ store.agent agentId = none := by
  cases change with
  | agent other change keeps =>
      by_cases same : agentId = other
      · subst same
        simp [apply]
      · simp [apply, same]
  | upsertAgent row change keeps => cases updates
  | insertTask row => cases updates
  | task taskId change keeps => exact Iff.rfl
  | insertAssignment row => exact Iff.rfl
  | assignment position change ends => exact Iff.rfl

theorem task_apply_eq_none_iff {change : RowChange} (updates : change.addsRow = false)
    (store : Store) (taskId : Int) :
    (change.apply store).task taskId = none ↔ store.task taskId = none := by
  cases change with
  | agent agentId change keeps => exact Iff.rfl
  | upsertAgent row change keeps => cases updates
  | insertTask row => cases updates
  | task other change keeps =>
      by_cases same : taskId = other
      · subst same
        simp [apply]
      · simp [apply, same]
  | insertAssignment row => exact Iff.rfl
  | assignment position change ends => exact Iff.rfl

variable {writes : List RowChange}

theorem agent_foldl_eq_none_iff (updates : ∀ change ∈ writes, change.addsRow = false)
    (store : Store) (agentId : String) :
    (writes.foldl apply store).agent agentId = none ↔ store.agent agentId = none := by
  induction writes generalizing store with
  | nil => exact Iff.rfl
  | cons change writes ih =>
      rw [List.forall_mem_cons] at updates
      exact (ih updates.2 _).trans (agent_apply_eq_none_iff updates.1 store agentId)

theorem task_foldl_eq_none_iff (updates : ∀ change ∈ writes, change.addsRow = false)
    (store : Store) (taskId : Int) :
    (writes.foldl apply store).task taskId = none ↔ store.task taskId = none := by
  induction writes generalizing store with
  | nil => exact Iff.rfl
  | cons change writes ih =>
      rw [List.forall_mem_cons] at updates
      exact (ih updates.2 _).trans (task_apply_eq_none_iff updates.1 store taskId)

theorem task_foldl (apart : ∀ change ∈ writes, .task taskId ∉ change.locks) (store : Store) :
    (writes.foldl apply store).task taskId = store.task taskId := by
  induction writes generalizing store with
  | nil => rfl
  | cons change writes ih =>
      rw [List.forall_mem_cons] at apart
      exact (ih apart.2 _).trans (task_apply apart.1 store)

end RowChange

theorem nextval_tables {store after : Store} {taskId : Int}
    (drawn : nextval store = .ok (taskId, after)) :
    after.agents = store.agents ∧ after.tasks = store.tasks ∧
      after.taskAssignments = store.taskAssignments := by
  unfold nextval at drawn
  split at drawn
  · cases drawn
    exact ⟨rfl, rfl, rfl⟩
  · cases drawn

theorem nextval_ledger {store after : Store} {taskId : Int}
    (drawn : nextval store = .ok (taskId, after)) : after.ledger = store.ledger := by
  obtain ⟨agents, tasks, assignments⟩ := nextval_tables drawn
  have leases : after.leases = store.leases := by
    funext task
    rw [Store.leases, assignments, Store.leases]
  simp only [Store.ledger, Store.task, Store.agent, agents, tasks, leases]

/-! ## What the locks of a session guard -/

namespace PgSessions

open RowEngine

theorem guarded_task (taskId : Int) (holds : Option TaskRow → Prop) :
    pgEngine.Guarded [.task taskId] fun store => holds (store.task taskId) where
  apply store change apart held := by
    have kept : RowKey.task taskId ∉ change.locks := fun member => apart _ member (by simp)
    have same := RowChange.task_apply kept store
    exact same.symm ▸ held
  draw store value after drawn held := by
    have same := (nextval_tables drawn).2.1
    rw [Store.task, same]
    exact held

theorem guarded_agent (agentId : String) (holds : Option AgentRow → Prop) :
    pgEngine.Guarded [.agent agentId] fun store => holds (store.agent agentId) where
  apply store change apart held := by
    have kept : RowKey.agent agentId ∉ change.locks := fun member => apart _ member (by simp)
    have same := RowChange.agent_apply kept store
    exact same.symm ▸ held
  draw store value after drawn held := by
    have same := (nextval_tables drawn).1
    rw [Store.agent, same]
    exact held

theorem guarded_known (agentId : String) :
    pgEngine.Guarded [] fun store => store.agent agentId ≠ none where
  apply store change apart known := change.agent_apply_ne_none known
  draw store value after drawn known := by
    have same := (nextval_tables drawn).1
    rw [Store.agent, same]
    exact known

theorem guarded_taskKnown (taskId : Int) :
    pgEngine.Guarded [] fun store => store.task taskId ≠ none where
  apply store change apart known := change.task_apply_ne_none known
  draw store value after drawn known := by
    have same := (nextval_tables drawn).2.1
    rw [Store.task, same]
    exact known

theorem guarded_assignment (position : Nat) (holds : AssignmentRow → Prop) :
    pgEngine.Guarded [.assignment position] fun store =>
      ∃ row, store.taskAssignments[position]? = some row ∧ holds row where
  apply store change apart held := by
    obtain ⟨row, found, holdsRow⟩ := held
    exact ⟨row, RowChange.getElem?_apply (fun member => apart _ member (by simp)) found,
      holdsRow⟩
  draw store value after drawn held := by
    rw [(nextval_tables drawn).2.2]
    exact held

/-- What holds of the open assignments of a task or an agent that is locked. -/
theorem guarded_open {guards : List RowKey} (owned : AssignmentRow → Prop)
    (locked : ∀ row, owned row → .task row.taskId ∈ guards ∨ .agent row.agentId ∈ guards)
    (holds : Nat → AssignmentRow → Prop) :
    pgEngine.Guarded guards fun store => ∀ position row,
      store.taskAssignments[position]? = some row → row.unassignedAt = none → owned row →
        holds position row where
  apply store change apart held := by
    intro position row found stillOpen isOwned
    rcases RowChange.open_apply found stillOpen with before | rfl
    · exact held position row before stillOpen isOwned
    · exfalso
      rcases locked row isOwned with task | agent
      · exact apart _ (by simp [pgEngine, RowChange.locks]) task
      · exact apart _ (by simp [pgEngine, RowChange.locks]) agent
  draw store value after drawn held := by
    rw [(nextval_tables drawn).2.2]
    exact held

/-! ## Rows that are found and locked -/

variable {good : Nat → List Store → Store → Store → Prop} {id : Nat} {writes : List RowChange}
  {held : List RowKey} {fact : Store → Prop}

section UpdateEach

variable {Item : Type} {key : Item → RowKey} {passes : Item → Store → Bool}
  {change : Item → RowChange} {hit miss : Item → Store → Prop}

/-- What is known of the items that a statement has come to so far. -/
def Sorted (hit miss : Item → Store → Prop) (hits looked : List Item) (store : Store) : Prop :=
  (∀ item ∈ hits, hit item store) ∧ ∀ item ∈ looked, item ∈ hits ∨ miss item store

theorem persists_sorted {hits looked : List Item} (subset : hits ⊆ looked)
    (hitPersists : ∀ item, pgEngine.Persists good id (key item :: held) (hit item))
    (missPersists : ∀ item, pgEngine.Persists good id (key item :: held) (miss item)) :
    pgEngine.Persists good id (looked.map key ++ held) (Sorted hit miss hits looked) := by
  have isLooked : ∀ item ∈ looked, key item :: held ⊆ looked.map key ++ held := by
    intro item member
    refine List.cons_subset.mpr ⟨?_, List.subset_append_right _ _⟩
    exact List.mem_append_left _ (List.mem_map_of_mem member)
  refine Persists.and ?_ ?_
  · exact .of_mem fun item member => (hitPersists item).mono (isLooked item (subset member))
  · refine .of_mem fun item member => ?_
    by_cases isHit : item ∈ hits
    · exact fun _ _ _ _ _ => .inl isHit
    · intro sessions later relied isHeld known
      have missed : miss item sessions.committed := known.resolve_left isHit
      exact .inr ((missPersists item).mono (isLooked item member) sessions later relied isHeld
        missed)

theorem Sorted.add_hit {hits looked : List Item} {store : Store} {item : Item}
    (sorted : Sorted hit miss hits looked store) (isHit : hit item store) :
    Sorted hit miss (hits ++ [item]) (looked ++ [item]) store := by
  constructor
  · intro other member
    rcases List.mem_append.mp member with old | new
    · exact sorted.1 other old
    · rw [List.mem_singleton.mp new]
      exact isHit
  · intro other member
    rcases List.mem_append.mp member with old | new
    · exact (sorted.2 other old).imp (List.mem_append_left _) id
    · exact .inl (List.mem_append_right _ new)

theorem Sorted.add_miss {hits looked : List Item} {store : Store} {item : Item}
    (sorted : Sorted hit miss hits looked store) (isMiss : miss item store) :
    Sorted hit miss hits (looked ++ [item]) store := by
  refine ⟨sorted.1, ?_⟩
  intro other member
  rcases List.mem_append.mp member with old | new
  · exact sorted.2 other old
  · rw [List.mem_singleton.mp new]
    exact .inr isMiss

variable (fact writes key passes change hit miss) in
/-- What is seen of an item once it is locked tells a hit from a miss. -/
def Tells (items : List Item) : Prop :=
  ∀ hits : List Item, ∀ item ∈ items, key item ∉ hits.map key → ∀ store, fact store →
    (∀ other ∈ hits, hit other store) →
      (passes item ((writes ++ hits.map change).foldl RowChange.apply store) = true →
        hit item store) ∧
      (passes item ((writes ++ hits.map change).foldl RowChange.apply store) = false →
        miss item store)

variable (fact writes held key change hit miss) in
/-- The state of the loop over the items, some of which were hits. -/
def Progressed (id : Nat) (hits looked : List Item) :
    Sessions Nat Store RowKey RowChange → Prop :=
  Knows id (writes ++ hits.map change) (looked.map key ++ held)
    fun store => fact store ∧ Sorted hit miss hits looked store

variable (persists : pgEngine.Persists good id held fact)
  (hitPersists : ∀ item, pgEngine.Persists good id (key item :: held) (hit item))
  (missPersists : ∀ item, pgEngine.Persists good id (key item :: held) (miss item))

include persists hitPersists missPersists

/-- The next item is locked, looked at, and changed if it passes. -/
theorem triple_updateOne {hits looked : List Item} {item : Item} (subset : hits ⊆ looked)
    (tells : ∀ store, fact store → (∀ other ∈ hits, hit other store) →
      (passes item ((writes ++ hits.map change).foldl RowChange.apply store) = true →
        hit item store) ∧
      (passes item ((writes ++ hits.map change).foldl RowChange.apply store) = false →
        miss item store)) :
    pgEngine.Triple good id (Progressed writes held fact key change hit miss id hits looked)
      (ask (.lock (key item)) >>= fun current => writeIf (passes item current) (change item))
      fun _ sessions => ∃ more, more.Sublist [item] ∧
        Progressed writes held fact key change hit miss id (hits ++ more) (looked ++ [item])
          sessions := by
  have known := (persists.mono (List.subset_append_right (looked.map key) held)).and
    (persists_sorted subset hitPersists missPersists)
  have locked : pgEngine.Triple good id
      (Progressed writes held fact key change hit miss id hits looked) (ask (.lock (key item)))
      fun seen => Knows id (writes ++ hits.map change) (key item :: (looked.map key ++ held))
        fun store => (fact store ∧ Sorted hit miss hits looked store) ∧
          (passes item seen = true → hit item store) ∧
          (passes item seen = false → miss item store) :=
    knows_lock known fun store holds => ⟨holds, tells store holds.1 holds.2.1⟩
  have itemHeld : ∀ key' ∈ (looked ++ [item]).map key ++ held,
      key' ∈ key item :: (looked.map key ++ held) := by
    intro other member
    simpa [or_left_comm, or_assoc] using member
  refine .bind locked fun seen => ?_
  have later := known.mono (List.subset_cons_self (key item) (looked.map key ++ held))
  cases passed : passes item seen with
  | true =>
      have still : pgEngine.Persists good id (key item :: (looked.map key ++ held))
          fun store => (fact store ∧ Sorted hit miss hits looked store) ∧ hit item store :=
        later.and ((hitPersists item).mono
          (List.cons_subset_cons _ (List.subset_append_right _ _)))
      refine .imp (knows_write still (writes ++ hits.map change)) ?_ ?_
      · exact fun sessions knows => knows.imp (List.Subset.refl _)
          fun store holds => ⟨holds.1, holds.2.1 rfl⟩
      · intro _ sessions knows
        refine ⟨[item], .refl _, ?_⟩
        unfold Progressed
        rw [List.map_append, ← List.append_assoc]
        exact knows.imp itemHeld fun store holds =>
          ⟨holds.1.1, holds.1.2.add_hit holds.2⟩
  | false =>
      refine .done fun sessions knows => ⟨[], List.nil_sublist _, ?_⟩
      rw [List.append_nil]
      exact knows.imp itemHeld fun store holds =>
        ⟨holds.1.1, holds.1.2.add_miss (holds.2.2 rfl)⟩

/-- Each item that was found is locked, and then is a hit or a miss. -/
theorem triple_updateEach {items : List Item} (distinct : (items.map key).Nodup)
    (tells : Tells writes fact key passes change hit miss items) :
    pgEngine.Triple good id (Knows id writes held fact) (updateEach key passes change items)
      fun _ sessions => ∃ hits, hits.Sublist items ∧
        Progressed writes held fact key change hit miss id hits items sessions := by
  have loop : ∀ rest looked hits : List Item, looked ++ rest = items → hits.Sublist looked →
      pgEngine.Triple good id
        (Progressed writes held fact key change hit miss id hits looked)
        (updateEach key passes change rest)
        fun _ sessions => ∃ hits, hits.Sublist items ∧
          Progressed writes held fact key change hit miss id hits items sessions := by
    intro rest
    induction rest with
    | nil =>
        intro looked hits split sublist
        rw [List.append_nil] at split
        subst split
        exact .done fun sessions knows => ⟨hits, sublist, knows⟩
    | cons item rest ih =>
        intro looked hits split sublist
        have fresh : key item ∉ hits.map key := by
          intro member
          have inLooked : key item ∈ looked.map key := (sublist.map key).subset member
          rw [← split, List.map_append, List.map_cons, List.nodup_append] at distinct
          exact distinct.2.2 _ inLooked _ List.mem_cons_self rfl
        have one := triple_updateOne persists hitPersists missPersists sublist.subset
          fun store holds others =>
            tells hits item (by simp [← split]) fresh store holds others
        have unfolded : updateEach key passes change (item :: rest) =
            ((ask (.lock (key item)) >>= fun current => writeIf (passes item current)
              (change item)) >>= fun _ => updateEach key passes change rest) :=
          (CallProgram.bind_assoc _ _ _).symm
        rw [unfolded]
        refine .bind one fun _ => Triple.cases fun more => Triple.given fun isSublist => ?_
        exact ih (looked ++ [item]) (hits ++ more) (by simpa using split)
          (sublist.append isSublist)
  have start := loop items [] [] rfl (.refl _)
  refine .imp start ?_ fun _ _ reached => reached
  intro sessions knows
  unfold Progressed
  simpa [Sorted] using knows

end UpdateEach

/-! ## Updates of one agent or one task -/

section UpdateOne

/-- A list that holds the only item of another one. -/
theorem eq_singleton_of_sublist {Item : Type} {hits : List Item} {item : Item}
    (sublist : hits.Sublist [item]) (member : item ∈ hits) : hits = [item] := by
  rcases List.sublist_singleton.mp sublist with rfl | same
  · cases member
  · exact same

/-- A change that passes whenever it is looked at is made. -/
theorem triple_updateSingle {Item : Type} (writes : List RowChange) (key : Item → RowKey)
    (passes : Item → Store → Bool) (change : Item → RowChange) (item : Item)
    (persists : pgEngine.Persists good id held fact)
    (passing : ∀ hits : List Item, ∀ store, fact store →
      passes item ((writes ++ hits.map change).foldl RowChange.apply store) = true) :
    pgEngine.Triple good id (Knows id writes held fact) (updateEach key passes change [item])
      fun _ => Knows id (writes ++ [change item]) (key item :: held) fact := by
  have tells : Tells writes fact key passes change (fun _ _ => True) (fun _ _ => False)
      [item] := by
    intro hits other member _ store holds _
    rw [List.mem_singleton.mp member, passing hits store holds]
    simp
  refine .imp (triple_updateEach persists (fun _ => persists_const True)
    (fun _ => persists_const False) (by simp) tells) (fun _ knows => knows) ?_
  rintro _ sessions ⟨hits, sublist, knows⟩
  have isHit : item ∈ hits := (knows.fact.2.2 item (by simp)).resolve_right not_false
  rw [Progressed, eq_singleton_of_sublist sublist isHit] at knows
  exact knows.imp (List.Subset.refl _) fun _ holds => holds.1

theorem updates_append {Item : Type} (change : Item → RowChange) (hits : List Item)
    (updates : ∀ change ∈ writes, change.addsRow = false)
    (more : ∀ item, (change item).addsRow = false) :
    ∀ other ∈ writes ++ hits.map change, other.addsRow = false := by
  intro other member
  rcases List.mem_append.mp member with old | new
  · exact updates other old
  · obtain ⟨item, _, rfl⟩ := List.mem_map.mp new
    exact more item

variable (persists : pgEngine.Persists good id held fact)
  (updates : ∀ change ∈ writes, change.addsRow = false)

include persists updates

/-- The agent is not there, or it is changed. -/
theorem triple_updateAgent (agentId : String) (change : AgentRow → AgentRow)
    (keeps : ∀ row, (change row).agentId = row.agentId) :
    pgEngine.Triple good id (Knows id writes held fact) (updateAgent agentId change keeps)
      fun affected sessions =>
        (affected = 0 ∧ (∃ store, fact store ∧ store.agent agentId = none) ∧
          Knows id writes held fact sessions) ∨
        (affected = 1 ∧ Knows id (writes ++ [.agent agentId change keeps])
          (.agent agentId :: held) (fun store => fact store ∧ store.agent agentId ≠ none)
          sessions) := by
  have viewed : pgEngine.Triple good id (Knows id writes held fact) (ask .view)
      fun seen => Knows id writes held fun store =>
        fact store ∧ (seen.agent agentId = none ↔ store.agent agentId = none) :=
    knows_view persists fun store holds =>
      ⟨holds, RowChange.agent_foldl_eq_none_iff updates store agentId⟩
  refine .bind viewed fun seen => ?_
  dsimp only
  cases found : seen.agent agentId with
  | none =>
      refine .done fun sessions knows => .inl ⟨rfl, ⟨_, knows.fact.1, ?_⟩, ?_⟩
      · exact knows.fact.2.mp rfl
      · exact knows.imp (List.Subset.refl _) fun _ holds => holds.1
  | some row =>
      have isAgent : row.agentId = agentId := KeyedTable.key_of_lookup found
      have known := persists.and ((guarded_known agentId).persists.mono (List.nil_subset held))
      have changed := triple_updateSingle writes (fun row : AgentRow => .agent row.agentId)
        (fun row current => (current.agent row.agentId).isSome)
        (fun _ => .agent agentId change keeps) row known (by
          intro hits store holds
          rw [Option.isSome_iff_ne_none, isAgent, Ne, RowChange.agent_foldl_eq_none_iff]
          · exact holds.2
          · exact updates_append _ _ updates fun _ => rfl)
      rw [isAgent] at changed
      refine .bind (.imp changed ?_ fun _ _ knows => knows) fun _ => ?_
      · exact fun sessions knows => knows.imp (List.Subset.refl _) fun store holds =>
          ⟨holds.1, fun absent => by simpa using holds.2.mpr absent⟩
      · exact .done fun sessions knows => .inr ⟨rfl, knows⟩

/-- The task is not there, or it is changed. -/
theorem triple_updateTask (taskId : Int) (change : TaskRow → TaskRow)
    (keeps : ∀ row, (change row).taskId = row.taskId) :
    pgEngine.Triple good id (Knows id writes held fact)
      (updateTasks (fun row => decide (row.taskId = taskId)) change keeps)
      fun affected sessions =>
        (affected = 0 ∧ (∃ store, fact store ∧ store.task taskId = none) ∧
          Knows id writes held fact sessions) ∨
        (affected = 1 ∧ Knows id (writes ++ [.task taskId change keeps])
          (.task taskId :: held) (fun store => fact store ∧ store.task taskId ≠ none)
          sessions) := by
  have viewed : pgEngine.Triple good id (Knows id writes held fact) (ask .view)
      fun seen => Knows id writes held fun store =>
        fact store ∧ (seen.task taskId = none ↔ store.task taskId = none) :=
    knows_view persists fun store holds =>
      ⟨holds, RowChange.task_foldl_eq_none_iff updates store taskId⟩
  refine .bind viewed fun seen => ?_
  dsimp only
  have rows : seen.tasks.rows.filter (fun row => decide (row.taskId = taskId)) =
      (seen.task taskId).toList := KeyedTable.filter_key seen.tasks taskId
  rw [rows]
  cases found : seen.task taskId with
  | none =>
      refine .done fun sessions knows => .inl ⟨rfl, ⟨_, knows.fact.1, ?_⟩, ?_⟩
      · exact knows.fact.2.mp rfl
      · exact knows.imp (List.Subset.refl _) fun _ holds => holds.1
  | some row =>
      have isTask : row.taskId = taskId := KeyedTable.key_of_lookup found
      have known := persists.and ((guarded_taskKnown taskId).persists.mono
        (List.nil_subset held))
      have changed := triple_updateSingle writes (fun row : TaskRow => .task row.taskId)
        (fun row current => (current.task row.taskId).any
          fun row => decide (row.taskId = taskId))
        (fun row => .task row.taskId change keeps) row known (by
          intro hits store holds
          have present : ((writes ++ hits.map fun row : TaskRow =>
              RowChange.task row.taskId change keeps).foldl RowChange.apply store).task
                taskId ≠ none := by
            rw [Ne, RowChange.task_foldl_eq_none_iff]
            · exact holds.2
            · exact updates_append _ _ updates fun _ => rfl
          obtain ⟨current, isCurrent⟩ := Option.ne_none_iff_exists'.mp present
          have sameId : current.taskId = taskId := KeyedTable.key_of_lookup isCurrent
          rw [isTask, isCurrent]
          simpa using sameId)
      rw [isTask] at changed
      refine .bind (.imp changed ?_ fun _ _ knows => knows) fun _ => ?_
      · exact fun sessions knows => knows.imp (List.Subset.refl _) fun store holds =>
          ⟨holds.1, fun absent => by simpa using holds.2.mpr absent⟩
      · exact .done fun sessions knows => .inr ⟨rfl, knows⟩

end UpdateOne

/-! ## Updates of assignments -/

section UpdateAssignments

variable {change : AssignmentRow → AssignmentRow}
  {ends : ∀ row, (change row).unassignedAt.isSome = true}

theorem getElem?_foldl_of_not_mem {places : List Nat} {position : Nat}
    (apart : position ∉ places) (store : Store) :
    ((places.map fun place => RowChange.assignment place change ends).foldl RowChange.apply
      store).taskAssignments[position]? = store.taskAssignments[position]? := by
  induction places generalizing store with
  | nil => rfl
  | cons place places ih =>
      rw [List.mem_cons, not_or] at apart
      rw [List.map_cons, List.foldl_cons, ih apart.2]
      simp [RowChange.apply, Store.updateAssignment, Ne.symm apart.1]

variable (ends) in
/-- What a list of changes at different positions does. -/
theorem foldl_assignments {places : List Nat} (distinct : places.Nodup) (store : Store) :
    let after := (places.map fun place => RowChange.assignment place change ends).foldl
      RowChange.apply store
    after.agents = store.agents ∧ after.tasks = store.tasks ∧ after.taskSeq = store.taskSeq ∧
      ∀ position, after.taskAssignments[position]? =
        store.taskAssignments[position]?.map fun row =>
          if position ∈ places then change row else row := by
  induction places generalizing store with
  | nil => exact ⟨rfl, rfl, rfl, fun position => by simp⟩
  | cons place places ih =>
      rw [List.nodup_cons] at distinct
      obtain ⟨agents, tasks, taskSeq, assignments⟩ :=
        ih distinct.2 (store.updateAssignment place change)
      refine ⟨agents, tasks, taskSeq, fun position => (assignments position).trans ?_⟩
      by_cases same : position = place
      · subst same
        simp [Store.updateAssignment, distinct.1, Function.comp_def]
      · simp [Store.updateAssignment, same, Ne.symm same]

/-- An open assignment of the kind has this position. -/
def OpenAt (owned : AssignmentRow → Bool) (position : Nat) (store : Store) : Prop :=
  ∃ row, store.taskAssignments[position]? = some row ∧ row.unassignedAt = none ∧
    owned row = true

theorem guarded_openAt {owned : AssignmentRow → Bool}
    (locked : ∀ row, owned row = true →
      .task row.taskId ∈ held ∨ .agent row.agentId ∈ held) (holds : Nat → Prop) :
    pgEngine.Guarded held fun store => ∀ position, OpenAt owned position store →
      holds position := by
  have guarded := guarded_open _ locked fun position _ => holds position
  constructor
  · rintro store change apart held position ⟨row, found, stillOpen, isOwned⟩
    refine guarded.apply store change apart ?_ position row found stillOpen isOwned
    exact fun other row found stillOpen isOwned => held other ⟨row, found, stillOpen, isOwned⟩
  · rintro store value after drawn held position ⟨row, found, stillOpen, isOwned⟩
    refine guarded.draw store value after drawn ?_ position row found stillOpen isOwned
    exact fun other row found stillOpen isOwned => held other ⟨row, found, stillOpen, isOwned⟩

theorem openAt_iff {owned : AssignmentRow → Bool} {position : Nat} {store : Store} :
    OpenAt owned position store ↔
      (store.taskAssignments[position]?.any fun row =>
        owned row && row.unassignedAt.isNone) = true := by
  rw [Option.any_eq_true]
  constructor
  · rintro ⟨row, found, stillOpen, isOwned⟩
    exact ⟨row, found, by simp [stillOpen, isOwned]⟩
  · rintro ⟨row, found, passes⟩
    rw [Bool.and_eq_true, Option.isNone_iff_eq_none] at passes
    exact ⟨row, found, passes.2, passes.1⟩

/-- The open assignments of a task or an agent that is locked are found and ended. -/
theorem triple_updateAssignments {owned : AssignmentRow → Bool}
    (persists : pgEngine.Persists good id held fact)
    (sees : ∀ store, fact store → ∀ position,
      OpenAt owned position (writes.foldl RowChange.apply store) ↔ OpenAt owned position store)
    (locked : ∀ row, owned row = true →
      .task row.taskId ∈ held ∨ .agent row.agentId ∈ held) :
    pgEngine.Triple good id (Knows id writes held fact)
      (updateAssignments (fun row => owned row && row.unassignedAt.isNone) change ends)
      fun _ sessions => ∃ places : List Nat, places.Nodup ∧
        Knows id (writes ++ places.map fun place => .assignment place change ends)
          (places.map .assignment ++ held)
          (fun store => fact store ∧ ∀ position, position ∈ places ↔
            OpenAt owned position store) sessions := by
  have viewed : pgEngine.Triple good id (Knows id writes held fact) (ask .view)
      fun seen => Knows id writes held fun store => fact store ∧
        ∀ position, OpenAt owned position store →
          position ∈ positions (fun row => owned row && row.unassignedAt.isNone) seen := by
    refine knows_view persists fun store holds => ⟨holds, fun position isOpen => ?_⟩
    rw [mem_positions, ← Option.any_eq_true, ← openAt_iff]
    exact (sees store holds position).mpr isOpen
  refine .bind viewed fun seen => ?_
  generalize isPlaces : positions (fun row => owned row && row.unassignedAt.isNone) seen = places
  have distinct : places.Nodup := by
    rw [← isPlaces]
    exact List.nodup_range.filter _
  have known := persists.and (guarded_openAt locked fun position => position ∈ places).persists
  have tells : Tells writes (fun store => fact store ∧ ∀ position, OpenAt owned position store →
        position ∈ places) RowKey.assignment
      (fun position current => current.taskAssignments[position]?.any
        fun row => owned row && row.unassignedAt.isNone)
      (fun position => .assignment position change ends) (OpenAt owned)
      (fun position store => ∀ other, OpenAt owned other store → other ≠ position) places := by
    intro hits position _ fresh store holds _
    have apart : position ∉ hits := fun member => fresh (List.mem_map_of_mem member)
    dsimp only
    rw [List.foldl_append, getElem?_foldl_of_not_mem apart, ← openAt_iff,
      sees store holds.1 position]
    refine ⟨fun isOpen => isOpen, ?_⟩
    rintro fails other isOpen rfl
    rw [← sees store holds.1 other, openAt_iff, fails] at isOpen
    cases isOpen
  refine .imp (triple_updateEach known ?_ ?_ (distinct.map ?_) tells)
    (fun _ knows => knows) ?_
  · exact fun position => (guarded_assignment position _).persists.mono (by simp)
  · exact fun position => ((guarded_openAt locked fun other => other ≠ position).persists).mono
      (List.subset_cons_self _ _)
  · intro first second same
    cases same
    rfl
  · rintro _ sessions ⟨hits, sublist, knows⟩
    refine ⟨hits, distinct.sublist sublist, knows.imp ?_ ?_⟩
    · exact List.append_subset.mpr ⟨List.subset_append_of_subset_left _
        (List.map_subset _ sublist.subset), List.subset_append_right _ _⟩
    · rintro store ⟨⟨holds, found⟩, sorted⟩
      refine ⟨holds, fun position => ⟨sorted.1 position, fun isOpen => ?_⟩⟩
      exact (sorted.2 position (found position isOpen)).resolve_right fun missed =>
        missed position isOpen rfl

/-- While the task or the agent is locked, its open assignments stay those that were ended. -/
theorem persists_ended {owned : AssignmentRow → Bool}
    (locked : ∀ row, owned row = true →
      .task row.taskId ∈ held ∨ .agent row.agentId ∈ held) (places : List Nat) :
    pgEngine.Persists good id (places.map .assignment ++ held) fun store =>
      ∀ position, position ∈ places ↔ OpenAt owned position store := by
  have kept : pgEngine.Persists good id (places.map .assignment ++ held) fun store =>
      ∀ position ∈ places, OpenAt owned position store := by
    refine .of_mem fun position member => (guarded_assignment position _).persists.mono ?_
    simpa using .inl member
  have noOther : pgEngine.Persists good id (places.map .assignment ++ held) fun store =>
      ∀ position, OpenAt owned position store → position ∈ places :=
    (guarded_openAt locked fun position => position ∈ places).persists.mono
      (List.subset_append_right _ _)
  intro sessions later relied isHeld holds position
  exact ⟨kept sessions later relied isHeld (fun position => (holds position).mp) position,
    noOther sessions later relied isHeld (fun position => (holds position).mpr) position⟩

variable (ends) in
/-- The changes of all open assignments of a kind are one update. -/
theorem foldl_ended {owned : AssignmentRow → Bool} {places : List Nat}
    (distinct : places.Nodup) (store : Store)
    (all : ∀ position, position ∈ places ↔ OpenAt owned position store) :
    (places.map fun place => RowChange.assignment place change ends).foldl RowChange.apply store =
      store.updateAssignments (fun row => owned row && row.unassignedAt.isNone) change := by
  obtain ⟨agents, tasks, taskSeq, assignments⟩ :=
    foldl_assignments ends distinct store
  refine Store.ext agents tasks (List.ext_getElem? fun position => ?_) taskSeq
  rw [assignments]
  simp only [Store.updateAssignments, List.getElem?_map]
  cases found : store.taskAssignments[position]? with
  | none => rfl
  | some row =>
      have listed := (all position).trans openAt_iff
      rw [found, Option.any_some] at listed
      simp only [Option.map_some, listed]

end UpdateAssignments

/-! ## Updates of many tasks -/

section UpdateTasks

variable {test : TaskRow → Bool} {change : TaskRow → TaskRow}
  {keeps : ∀ row, (change row).taskId = row.taskId} {must : Int → Store → Prop}

/-- Tasks that pass are found and changed, among them all that are known to have to pass. -/
theorem triple_updateTasks (persists : pgEngine.Persists good id held fact)
    (mustPersists : ∀ listed : Int → Prop,
      pgEngine.Persists good id held fun store => ∀ taskId, must taskId store → listed taskId)
    (sees : ∀ store, fact store → ∀ taskId row,
      (writes.foldl RowChange.apply store).task taskId = some row → test row = true →
        store.task taskId = some row)
    (passes : ∀ store, fact store → ∀ taskId, must taskId store →
      ((writes.foldl RowChange.apply store).task taskId).any test = true) :
    pgEngine.Triple good id (Knows id writes held fact) (updateTasks test change keeps)
      fun _ sessions => ∃ taskIds : List Int,
        Knows id (writes ++ taskIds.map fun taskId => .task taskId change keeps)
          (taskIds.map .task ++ held)
          (fun store => fact store ∧
            (∀ taskId ∈ taskIds, ∃ row, store.task taskId = some row ∧ test row = true) ∧
            ∀ taskId, must taskId store → taskId ∈ taskIds) sessions := by
  have viewed : pgEngine.Triple good id (Knows id writes held fact) (ask .view)
      fun seen => Knows id writes held fun store => fact store ∧
        ∀ taskId, must taskId store →
          taskId ∈ (seen.tasks.rows.filter test).map TaskRow.taskId := by
    refine knows_view persists fun store holds => ⟨holds, fun taskId isMust => ?_⟩
    obtain ⟨row, found, passing⟩ := (Option.any_eq_true _ _).mp (passes store holds taskId isMust)
    exact List.mem_map.mpr ⟨row, List.mem_filter.mpr ⟨KeyedTable.mem_of_lookup found, passing⟩,
      KeyedTable.key_of_lookup found⟩
  refine .bind viewed fun seen => ?_
  dsimp only
  have unique : ((seen.tasks.rows.filter test).map TaskRow.taskId).Nodup :=
    seen.tasks.unique.sublist (List.filter_sublist.map TaskRow.taskId)
  generalize seen.tasks.rows.filter test = rows at unique
  have distinct : (rows.map fun row => RowKey.task row.taskId).Nodup := by
    have injective : Function.Injective RowKey.task := by
      rintro first second ⟨⟩
      rfl
    have keyed := unique.map injective
    rwa [List.map_map] at keyed
  have known := persists.and (mustPersists fun taskId => taskId ∈ rows.map TaskRow.taskId)
  have tells : Tells writes (fun store => fact store ∧ ∀ taskId, must taskId store →
        taskId ∈ rows.map TaskRow.taskId) (fun row : TaskRow => .task row.taskId)
      (fun row current => (current.task row.taskId).any test)
      (fun row => .task row.taskId change keeps)
      (fun row store => ∃ current, store.task row.taskId = some current ∧ test current = true)
      (fun row store => ∀ taskId, must taskId store → taskId ≠ row.taskId) rows := by
    intro hits row _ fresh store holds _
    have apart : ∀ other ∈ hits.map fun row : TaskRow => RowChange.task row.taskId change keeps,
        RowKey.task row.taskId ∉ other.locks := by
      intro other member
      obtain ⟨hit, isHit, rfl⟩ := List.mem_map.mp member
      intro locks
      have same : RowKey.task row.taskId = .task hit.taskId := by
        simpa [RowChange.locks] using locks
      exact fresh (List.mem_map.mpr ⟨hit, isHit, same.symm⟩)
    dsimp only
    rw [List.foldl_append, RowChange.task_foldl apart]
    constructor
    · intro passing
      obtain ⟨current, found, isHit⟩ := (Option.any_eq_true _ _).mp passing
      exact ⟨current, sees store holds.1 _ current found isHit, isHit⟩
    · rintro fails taskId isMust rfl
      rw [passes store holds.1 _ isMust] at fails
      cases fails
  refine .bind (triple_updateEach known ?_ ?_ distinct tells) fun _ => ?_
  · exact fun row => (guarded_task row.taskId fun found => ∃ current, found = some current ∧
      test current = true).persists.mono (by simp)
  · exact fun row => (mustPersists fun taskId => taskId ≠ row.taskId).mono
      (List.subset_cons_self _ _)
  · refine .done ?_
    rintro sessions ⟨hits, sublist, knows⟩
    refine ⟨hits.map TaskRow.taskId, ?_⟩
    rw [List.map_map, List.map_map]
    refine knows.imp ?_ ?_
    · exact List.append_subset.mpr ⟨List.subset_append_of_subset_left _
        (List.map_subset _ sublist.subset), List.subset_append_right _ _⟩
    · rintro store ⟨⟨holds, found⟩, sorted⟩
      refine ⟨holds, ?_, fun taskId isMust => ?_⟩
      · intro taskId member
        obtain ⟨row, isHit, rfl⟩ := List.mem_map.mp member
        exact sorted.1 row isHit
      · obtain ⟨row, member, rfl⟩ := List.mem_map.mp (found taskId isMust)
        have isHit := (sorted.2 row member).resolve_right fun missed => missed _ isMust rfl
        exact List.mem_map_of_mem isHit

end UpdateTasks

end PgSessions

end DistributedComputing
