import DistributedComputing.PgBrokerEvents
import DistributedComputing.PgSessions

/-!
# The statements of one transaction are its body

A transaction that no other session disturbs does with its statements, row by row, what the
model of `PgBroker` does in one step.
-/

namespace DistributedComputing

/-! ## Updates row by row -/

namespace KeyedTable

variable {Row Key : Type} [DecidableEq Key] {key : Row → Key}

omit [DecidableEq Key] in
/-- Two updates of different rows are one. -/
theorem updateWhere_updateWhere (table : KeyedTable key) {first second : Row → Bool}
    {change : Row → Row} (keeps : ∀ row, key (change row) = key row)
    (disjoint : ∀ row, first row = true → second row = false ∧ second (change row) = false) :
    (table.updateWhere first change keeps).updateWhere second change keeps =
      table.updateWhere (fun row => first row || second row) change keeps := by
  ext1
  simp only [updateWhere, List.map_map]
  apply List.map_congr_left
  intro row _
  by_cases isFirst : first row = true
  · simp [isFirst, disjoint row isFirst]
  · simp [isFirst]

/-- Updating the rows one after the other, each if it passes, is the update of all. -/
theorem foldl_updateAt (test : Row → Bool) (change : Row → Row)
    (keeps : ∀ row, key (change row) = key row) {rows : List Row}
    (distinct : (rows.map key).Nodup) (table : KeyedTable key) :
    rows.foldl (fun table row =>
        if (table.lookup (key row)).any test then table.updateAt (key row) change keeps
        else table) table =
      table.updateWhere (fun row => decide (key row ∈ rows.map key) && test row) change keeps := by
  induction rows generalizing table with
  | nil =>
      ext1
      simp [updateWhere]
  | cons row rows ih =>
      rw [List.map_cons, List.nodup_cons] at distinct
      have first : (if (table.lookup (key row)).any test then
            table.updateAt (key row) change keeps else table) =
          table.updateWhere (fun other => decide (key other = key row) && test other) change
            keeps := by
        ext1
        have isRow : ∀ other ∈ table.rows, key other = key row →
            table.lookup (key row) = some other := by
          intro other member same
          rw [← same]
          exact lookup_of_mem member
        split
        · rename_i passes
          apply List.map_congr_left
          intro other member
          by_cases same : key other = key row
          · rw [isRow other member same] at passes
            have passing : test other = true := by simpa using passes
            simp [same, passing]
          · simp [same]
        · rename_i fails
          have unchanged : ∀ other ∈ table.rows, (if (decide (key other = key row) && test other)
              then change other else other) = other := by
            intro other member
            by_cases same : key other = key row
            · rw [isRow other member same] at fails
              have failing : test other = false := by simpa using fails
              simp [failing]
            · simp [same]
          exact ((List.map_congr_left unchanged).trans (List.map_id _)).symm
      have apart : ∀ other, (decide (key other = key row) && test other) = true →
          (decide (key other ∈ rows.map key) && test other) = false ∧
            (decide (key (change other) ∈ rows.map key) && test (change other)) = false := by
        intro other passes
        have same : key other = key row := by simpa using (Bool.and_eq_true_iff.mp passes).1
        have absent : key other ∉ rows.map key := by
          rw [same]
          exact distinct.1
        rw [keeps]
        simp [absent]
      rw [List.foldl_cons, first, ih distinct.2, updateWhere_updateWhere table keeps apart]
      have tests : ∀ other, (decide (key other = key row) && test other ||
            decide (key other ∈ rows.map key) && test other) =
          (decide (key other ∈ (row :: rows).map key) && test other) := by
        intro other
        rw [← Bool.and_or_distrib_right, List.map_cons, Bool.decide_congr List.mem_cons,
          Bool.decide_or]
      ext1
      apply List.map_congr_left
      intro other _
      simp only [tests]

/-- The row with a key is found by a filter, too. -/
theorem filter_key (table : KeyedTable key) (wanted : Key) :
    table.rows.filter (fun row => decide (key row = wanted)) = (table.lookup wanted).toList := by
  cases found : table.lookup wanted with
  | none =>
      have absent := (lookup_eq_none_iff table wanted).mp found
      rw [Option.toList_none, List.filter_eq_nil_iff]
      intro row member
      simpa using absent row member
  | some row =>
      obtain ⟨front, back, split⟩ := List.append_of_mem (mem_of_lookup found)
      have distinct := table.unique
      rw [split, List.map_append, List.map_cons, List.nodup_middle, List.nodup_cons] at distinct
      have others : ∀ other ∈ front ++ back, ¬ key other = wanted := by
        intro other member same
        rw [← key_of_lookup found] at same
        exact distinct.1 (by rw [← List.map_append]; exact List.mem_map.mpr ⟨other, member, same⟩)
      have noFront : front.filter (fun row => decide (key row = wanted)) = [] := by
        rw [List.filter_eq_nil_iff]
        intro other member
        simpa using others other (List.mem_append_left _ member)
      have noBack : back.filter (fun row => decide (key row = wanted)) = [] := by
        rw [List.filter_eq_nil_iff]
        intro other member
        simpa using others other (List.mem_append_right _ member)
      rw [split, List.filter_append, noFront,
        List.filter_cons_of_pos (by simpa using key_of_lookup found), noBack]
      rfl

end KeyedTable

namespace PgSessions

theorem mem_positions {test : AssignmentRow → Bool} {store : Store} {position : Nat} :
    position ∈ positions test store ↔
      ∃ row, store.taskAssignments[position]? = some row ∧ test row = true := by
  unfold positions
  rw [List.mem_filter, List.mem_range, Option.any_eq_true]
  constructor
  · rintro ⟨_, row, held, passes⟩
    exact ⟨row, held, passes⟩
  · rintro ⟨row, held, passes⟩
    exact ⟨(List.getElem?_eq_some_iff.mp held).1, row, held, passes⟩

end PgSessions

namespace Store

/-- An update of tasks, row by row. -/
theorem foldl_updateTask (test : TaskRow → Bool) (change : TaskRow → TaskRow)
    (keeps : ∀ row, (change row).taskId = row.taskId) (store : Store) :
    (store.tasks.rows.filter test).foldl (fun store row =>
        if (store.task row.taskId).any test then store.updateTask row.taskId change keeps
        else store) store = store.updateTasks test change keeps := by
  have distinct : ((store.tasks.rows.filter test).map TaskRow.taskId).Nodup :=
    store.tasks.unique.sublist (List.filter_sublist.map TaskRow.taskId)
  have parts : ∀ (rows : List TaskRow) (before : Store),
      let after := rows.foldl (fun store row =>
        if (store.task row.taskId).any test then store.updateTask row.taskId change keeps
        else store) before
      after.agents = before.agents ∧ after.taskAssignments = before.taskAssignments ∧
        after.taskSeq = before.taskSeq ∧
        after.tasks = rows.foldl (fun table row =>
          if (table.lookup row.taskId).any test then table.updateAt row.taskId change keeps
          else table) before.tasks := by
    intro rows
    induction rows with
    | nil => exact fun before => ⟨rfl, rfl, rfl, rfl⟩
    | cons row rows ih =>
        intro before
        obtain ⟨agents, assignments, taskSeq, tasks⟩ := ih (if (before.task row.taskId).any test
          then before.updateTask row.taskId change keeps else before)
        simp only [List.foldl_cons]
        rw [agents, assignments, taskSeq, tasks]
        by_cases passes : (before.task row.taskId).any test = true
        · have onTable : (before.tasks.lookup row.taskId).any test = true := passes
          rw [if_pos passes, if_pos onTable]
          exact ⟨rfl, rfl, rfl, rfl⟩
        · have onTable : ¬ (before.tasks.lookup row.taskId).any test = true := passes
          rw [if_neg passes, if_neg onTable]
          exact ⟨rfl, rfl, rfl, rfl⟩
  obtain ⟨agents, assignments, taskSeq, tasks⟩ := parts (store.tasks.rows.filter test) store
  apply Store.ext
  · exact agents
  · rw [tasks, KeyedTable.foldl_updateAt test change keeps distinct]
    apply KeyedTable.ext
    apply List.map_congr_left
    intro row member
    by_cases passes : test row = true
    · have listed : row.taskId ∈ (store.tasks.rows.filter test).map TaskRow.taskId :=
        List.mem_map_of_mem (List.mem_filter.mpr ⟨member, passes⟩)
      simp [listed, passes]
    · simp [passes]
  · exact assignments
  · exact taskSeq

/-- An update of assignments, position by position. -/
theorem foldl_updateAssignment (test : AssignmentRow → Bool)
    (change : AssignmentRow → AssignmentRow) (store : Store) :
    (PgSessions.positions test store).foldl (fun store position =>
        if store.taskAssignments[position]?.any test then
          store.updateAssignment position change
        else store) store = store.updateAssignments test change := by
  have parts : ∀ (places : List Nat), places.Nodup → ∀ before : Store,
      let after := places.foldl (fun store position =>
        if store.taskAssignments[position]?.any test then
          store.updateAssignment position change
        else store) before
      after.agents = before.agents ∧ after.tasks = before.tasks ∧
        after.taskSeq = before.taskSeq ∧
        ∀ position, after.taskAssignments[position]? = before.taskAssignments[position]?.map
          fun row => if decide (position ∈ places) && test row then change row else row := by
    intro places
    induction places with
    | nil => exact fun _ before => ⟨rfl, rfl, rfl, fun position => by simp⟩
    | cons place places ih =>
        intro distinct before
        rw [List.nodup_cons] at distinct
        obtain ⟨agents, tasks, taskSeq, assignments⟩ := ih distinct.2
          (if before.taskAssignments[place]?.any test then before.updateAssignment place change
          else before)
        simp only [List.foldl_cons]
        rw [agents, tasks, taskSeq]
        refine ⟨by split <;> rfl, by split <;> rfl, by split <;> rfl, fun position => ?_⟩
        rw [assignments]
        by_cases same : position = place
        · subst same
          cases held : before.taskAssignments[position]? with
          | none => simp [held]
          | some row =>
              cases passes : test row <;>
                simp [held, passes, updateAssignment, distinct.1]
        · split
          · simp [updateAssignment, same, Ne.symm same]
          · simp [same]
  have distinct : (PgSessions.positions test store).Nodup :=
    List.nodup_range.filter _
  obtain ⟨agents, tasks, taskSeq, assignments⟩ := parts _ distinct store
  apply Store.ext
  · exact agents
  · exact tasks
  · apply List.ext_getElem?
    intro position
    rw [assignments]
    simp only [updateAssignments, List.getElem?_map]
    cases held : store.taskAssignments[position]? with
    | none => rfl
    | some row =>
        have listed : position ∈ PgSessions.positions test store ↔ test row = true := by
          rw [PgSessions.mem_positions, held]
          simp
        cases passes : test row <;> simp [listed, passes]
  · exact taskSeq

end Store

/-! ## Statements that run alone -/

namespace PgSessions

open RowEngine

variable {id : Nat} {view : Store} {held : List RowKey}

variable (id view) in
theorem returns_writeIf (condition : Bool) {change : RowChange}
    (holds : ∀ key ∈ change.locks, key ∈ held) :
    pgEngine.Returns id (writeIf condition change) view held ()
      (if condition then change.apply view else view) held := by
  cases condition with
  | false => exact .done ()
  | true => exact returns_write holds

variable (id view held) in
theorem returns_updateEach {Item : Type} (key : Item → RowKey) (passes : Item → Store → Bool)
    (change : Item → RowChange) (items : List Item)
    (own : ∀ item ∈ items, ∀ other ∈ (change item).locks, other = key item) :
    pgEngine.Returns id (updateEach key passes change items) view held ()
      (items.foldl (fun view item =>
        if passes item view then (change item).apply view else view) view)
      (items.map key ++ held) := by
  induction items generalizing view held with
  | nil => exact .done ()
  | cons item items ih =>
      have own_item : ∀ other ∈ (change item).locks, other ∈ key item :: held := by
        intro other needed
        simp [own item (by simp) other needed]
      have rest := ih (if passes item view then (change item).apply view else view)
        (key item :: held) fun other member => own other (by simp [member])
      have locked : pgEngine.Returns id (ask (.lock (key item))) view held view view
          (key item :: held) := returns_lock (key item)
      have written := returns_writeIf id view (passes item view) own_item
      refine (locked.bind (written.bind rest)).keep ?_
      intro other member
      simpa [or_left_comm] using member

variable (id held) in
theorem returns_updateAgent {agentId : String} {row : AgentRow}
    (found : view.agent agentId = some row) (change : AgentRow → AgentRow)
    (keeps : ∀ row, (change row).agentId = row.agentId) :
    pgEngine.Returns id (updateAgent agentId change keeps) view held 1
      (view.updateAgent agentId change keeps) (.agent agentId :: held) := by
  have isAgent : row.agentId = agentId := KeyedTable.key_of_lookup found
  have updated := returns_updateEach id view held
    (fun row : AgentRow => .agent row.agentId)
    (fun row current => (current.agent row.agentId).isSome)
    (fun _ => .agent agentId change keeps) [row] (by
      intro item member other needed
      rw [List.mem_singleton.mp member, isAgent]
      simpa [RowChange.locks] using needed)
  have one : [row].foldl (fun view (item : AgentRow) =>
        if (view.agent item.agentId).isSome then
          (RowChange.agent agentId change keeps).apply view else view) view =
      view.updateAgent agentId change keeps := by
    simp [RowChange.apply, isAgent, found]
  have keys : [row].map (fun row : AgentRow => RowKey.agent row.agentId) ++ held =
      .agent agentId :: held := by
    simp [isAgent]
  rw [one, keys] at updated
  refine returns_view.bind ?_
  dsimp only
  rw [found]
  exact updated.bind (.done 1)

theorem returns_updateAgent_absent {agentId : String} (absent : view.agent agentId = none)
    (change : AgentRow → AgentRow) (keeps : ∀ row, (change row).agentId = row.agentId) :
    pgEngine.Returns id (updateAgent agentId change keeps) view held 0 view held := by
  refine returns_view.bind ?_
  dsimp only
  rw [absent]
  exact .done 0

variable (id view held) in
theorem returns_updateTasks (test : TaskRow → Bool) (change : TaskRow → TaskRow)
    (keeps : ∀ row, (change row).taskId = row.taskId) :
    pgEngine.Returns id (updateTasks test change keeps) view held
      (view.tasks.rows.filter test).length (view.updateTasks test change keeps)
      ((view.tasks.rows.filter test).map (fun row => .task row.taskId) ++ held) := by
  have updated := returns_updateEach id view held (fun row : TaskRow => .task row.taskId)
    (fun row current => (current.task row.taskId).any test)
    (fun row => .task row.taskId change keeps) (view.tasks.rows.filter test)
    (by
      intro item _ other needed
      simpa [RowChange.locks] using needed)
  have all := Store.foldl_updateTask test change keeps view
  have same : (view.tasks.rows.filter test).foldl (fun view (row : TaskRow) =>
      if (view.task row.taskId).any test then
        (RowChange.task row.taskId change keeps).apply view else view) view =
      view.updateTasks test change keeps := all
  rw [same] at updated
  exact returns_view.bind (updated.bind (.done _))

theorem returns_updateAssignments (test : AssignmentRow → Bool)
    (change : AssignmentRow → AssignmentRow)
    (ends : ∀ row, (change row).unassignedAt.isSome = true) :
    pgEngine.Returns id (updateAssignments test change ends) view held ()
      (view.updateAssignments test change) held := by
  have updated := returns_updateEach id view held RowKey.assignment
    (fun position current => current.taskAssignments[position]?.any test)
    (fun position => .assignment position change ends) (positions test view) (by
      intro item _ other needed
      simpa [RowChange.locks] using needed)
  have same : (positions test view).foldl (fun view (position : Nat) =>
      if view.taskAssignments[position]?.any test then
        (RowChange.assignment position change ends).apply view else view) view =
      view.updateAssignments test change := Store.foldl_updateAssignment test change view
  rw [same] at updated
  exact returns_view.bind (updated.keep fun key member => List.mem_append_right _ member)

variable (id held) in
/-- The update of one task. -/
theorem returns_updateTask {taskId : Int} {row : TaskRow} (found : view.task taskId = some row)
    (change : TaskRow → TaskRow) (keeps : ∀ row, (change row).taskId = row.taskId) :
    pgEngine.Returns id (updateTasks (fun row => decide (row.taskId = taskId)) change keeps) view
      held 1 (view.updateTask taskId change keeps) (.task taskId :: held) := by
  have isTask : row.taskId = taskId := KeyedTable.key_of_lookup found
  have updated := returns_updateTasks id view held (fun row => decide (row.taskId = taskId))
    change keeps
  have only : view.tasks.rows.filter (fun row => decide (row.taskId = taskId)) = [row] := by
    rw [KeyedTable.filter_key view.tasks taskId]
    exact congrArg Option.toList found
  have keys : [row].map (fun row : TaskRow => RowKey.task row.taskId) ++ held =
      .task taskId :: held := by
    simp [isTask]
  rw [only, keys] at updated
  exact updated

theorem returns_updateTask_absent {taskId : Int} (absent : view.task taskId = none)
    (change : TaskRow → TaskRow) (keeps : ∀ row, (change row).taskId = row.taskId) :
    pgEngine.Returns id (updateTasks (fun row => decide (row.taskId = taskId)) change keeps) view
      held 0 view held := by
  have none : view.tasks.rows.filter (fun row => decide (row.taskId = taskId)) = [] := by
    rw [KeyedTable.filter_key view.tasks taskId]
    exact congrArg Option.toList absent
  refine returns_view.bind ?_
  dsimp only
  rw [none]
  exact .done 0

theorem returns_assign {now : Time} {agentId : String} {dispatch : TaskDispatch} {row : TaskRow}
    (found : view.task dispatch.taskId = some row) (agentHeld : .agent agentId ∈ held) :
    pgEngine.Returns id (assign now agentId dispatch) view held ()
      (PgBroker.assign now agentId view dispatch) held := by
  refine Returns.bind (returns_updateTask _ _ found _ _) ?_
  refine (returns_write ?_).keep fun key member => List.mem_cons_of_mem _ member
  intro key needed
  simp only [pgEngine, RowChange.locks, List.mem_cons, List.not_mem_nil, or_false] at needed
  rcases needed with rfl | rfl
  · exact List.mem_cons_self
  · exact List.mem_cons_of_mem _ agentHeld

theorem returns_assignAll {now : Time} {agentId : String} {dispatches : List TaskDispatch}
    (found : ∀ dispatch ∈ dispatches, view.task dispatch.taskId ≠ none)
    (agentHeld : .agent agentId ∈ held) :
    pgEngine.Returns id (assignAll now agentId dispatches) view held ()
      (dispatches.foldl (PgBroker.assign now agentId) view) held := by
  induction dispatches generalizing view with
  | nil => exact .done ()
  | cons dispatch dispatches ih =>
      obtain ⟨row, isRow⟩ := Option.ne_none_iff_exists'.mp (found dispatch (by simp))
      refine (returns_assign isRow agentHeld).bind (ih ?_)
      intro other member
      have present := found other (by simp [member])
      simp only [PgBroker.assign, Store.task_insertAssignment, Store.task_updateTask]
      split
      · simp [isRow]
      · exact present

variable (held) in
/-- Alone, no candidate is skipped. -/
theorem returns_lockFitting {agent : AgentRow} {rows : List TaskRow}
    (fitting : ∀ row ∈ rows, view.task row.taskId = some row ∧
      PgBroker.fits agent row = .ok true) (slots : Nat) :
    pgEngine.Returns id (lockFitting agent slots rows) view held
      ((rows.take slots).map PgBroker.taskDispatch) view held := by
  induction rows generalizing slots held with
  | nil => cases slots <;> exact .done []
  | cons row rows ih =>
      cases slots with
      | zero => exact .done []
      | succ slots =>
          obtain ⟨found, fits⟩ := fitting row (by simp)
          have again : recheck agent (view.task row.taskId) =
              .ok (some (PgBroker.taskDispatch row)) := by
            rw [found, recheck, fits]
            rfl
          have rest := ih (.task row.taskId :: held)
            (fun other member => fitting other (by simp [member])) slots
          refine Returns.bind (returns_tryLock (RowKey.task row.taskId)) ?_
          dsimp only
          rw [again]
          exact Returns.bind (rest.keep fun key member => List.mem_cons_of_mem _ member) (.done _)

variable (held) in
/-- Alone, every agent that was found is still stale when it is locked. -/
theorem returns_lockStale {now : Time} {offlineAfterSec : Int} {agentIds : List String}
    (found : ∀ agentId ∈ agentIds,
      (view.agent agentId).any (isStale now offlineAfterSec) = true) :
    pgEngine.Returns id (lockStale now offlineAfterSec agentIds) view held agentIds view held := by
  induction agentIds generalizing held with
  | nil => exact .done []
  | cons agentId agentIds ih =>
      have rest := ih (.agent agentId :: held) fun other member => found other (by simp [member])
      refine Returns.bind (returns_lock (RowKey.agent agentId)) ?_
      refine Returns.bind (rest.keep fun key member => List.mem_cons_of_mem _ member) ?_
      rw [if_pos (found agentId (by simp))]
      exact .done _

theorem returns_takeOffline {now : Time} {agentId : String} {row : AgentRow}
    (found : view.agent agentId = some row) :
    pgEngine.Returns id (takeOffline now agentId) view held ()
      (PgBroker.takeOffline now view agentId) held := by
  refine Returns.bind (returns_updateAgent _ _ found _ _) ?_
  refine Returns.bind (returns_updateAssignments _ _ _) ?_
  refine Returns.bind (returns_updateTasks _ _ _ _ _ _) ?_
  refine (Returns.done ()).keep ?_
  intro key member
  exact List.mem_append_right _ (List.mem_cons_of_mem _ member)

theorem returns_takeAllOffline {now : Time} {agentIds : List String}
    (found : ∀ agentId ∈ agentIds, view.agent agentId ≠ none) :
    pgEngine.Returns id (takeAllOffline now agentIds) view held ()
      (agentIds.foldl (PgBroker.takeOffline now) view) held := by
  induction agentIds generalizing view with
  | nil => exact .done ()
  | cons agentId agentIds ih =>
      obtain ⟨row, isRow⟩ := Option.ne_none_iff_exists'.mp (found agentId (by simp))
      refine (returns_takeOffline isRow).bind (ih ?_)
      intro other member
      have present := found other (by simp [member])
      simp only [PgBroker.takeOffline, Store.agent_updateTasks, Store.agent_updateAssignments,
        Store.agent_updateAgent]
      split
      · simp [isRow]
      · exact present

/-! ## Transactions that run alone -/

variable {store : Store}

/-- Run one transaction while no other session is open. -/
def alone {Result : Type} (program : PgProgram Result) (store : Store) :
    Except DbError Result × Store :=
  let ended := program.run (fun call sessions => sessions.exec pgEngine 0 .none call)
    ({ committed := store } : Sessions Nat Store RowKey RowChange)
  (ended.1, ended.2.committed)

theorem alone_of_leaves {Result : Type} {program : PgProgram Result}
    {ended : Except DbError Result} {after : Store}
    (leaves : pgEngine.Leaves 0 program store store [] ended after) :
    alone program store = (ended, after) := by
  obtain ⟨final, ran, left⟩ := leaves _ (alone_start store)
  unfold alone
  rw [ran]
  exact congrArg (Prod.mk ended) left

variable (id store) in
theorem leaves_claimTasks (attempt : Attempt) {agentId : String} (agent : AgentRow)
    {row : AgentRow} (freeSlots : Int) (found : view.agent agentId = some row)
    (agentHeld : .agent agentId ∈ held) :
    ∃ ended after, pgEngine.Leaves id (claimTasks attempt agentId agent freeSlots) store view held
        ended after ∧
      (ended, after) = TxEnd.settle store (do
        let rows ← PgBroker.selectWhere (PgBroker.fits agent) view.tasks.rows
        let dispatches := (oldest attempt.rank freeSlots rows).map PgBroker.taskDispatch
        let claimed := dispatches.foldl (PgBroker.assign attempt.now agentId) view
        let status := if dispatches.isEmpty then .idle else .busy
        return .commit (some dispatches)
          (claimed.updateAgent agentId fun row => { row with status := status })) := by
  cases selected : PgBroker.selectWhere (PgBroker.fits agent) view.tasks.rows with
  | error error =>
      refine ⟨.error error, store, ?_, rfl⟩
      refine Leaves.bind returns_view ?_
      dsimp only
      rw [selected]
      exact leaves_raise error
  | ok rows =>
      obtain ⟨sublist, fitting⟩ := PgBroker.selectWhere_subset selected
      have sorted : ∀ row ∈ rows.insertionSort (OldestFirst attempt.rank),
          view.task row.taskId = some row ∧ PgBroker.fits agent row = .ok true := by
        intro row member
        have inRows := (List.mem_insertionSort (OldestFirst attempt.rank)).mp member
        exact ⟨KeyedTable.lookup_of_mem (sublist.subset inRows), fitting row inRows⟩
      have chosen : ∀ dispatch ∈ (oldest attempt.rank freeSlots rows).map PgBroker.taskDispatch,
          view.task dispatch.taskId ≠ none := by
        intro dispatch member
        obtain ⟨row, inOldest, rfl⟩ := List.mem_map.mp member
        have isRow := (sorted row (List.mem_of_mem_take inOldest)).1
        simp [PgBroker.taskDispatch, isRow]
      have stillFound : ((List.map PgBroker.taskDispatch (oldest attempt.rank freeSlots rows)).foldl
          (PgBroker.assign attempt.now agentId) view).agent agentId = some row := by
        have kept : ∀ store dispatch other,
            (PgBroker.assign attempt.now agentId store dispatch).agent other = store.agent other :=
          fun _ _ _ => rfl
        exact (Store.agent_foldl kept _ view agentId).trans found
      refine ⟨_, _, ?_, rfl⟩
      refine Leaves.bind returns_view ?_
      dsimp only
      rw [selected]
      refine Leaves.bind (returns_lockFitting _ sorted freeSlots.toNat) ?_
      refine Leaves.bind (returns_assignAll chosen agentHeld) ?_
      refine Leaves.bind (returns_updateAgent _ _ stillFound _ _) ?_
      exact leaves_commit _

theorem alone_pollTasksForAgent (attempt : Attempt) (agentId : String) (freeSlots : Int)
    (store : Store) : alone (pollTasksForAgent attempt agentId freeSlots) store =
      TxEnd.settle store (PgBroker.pollTasksForAgentBody attempt agentId freeSlots store) := by
  unfold PgBroker.pollTasksForAgentBody
  cases found : store.agent agentId with
  | none =>
      apply alone_of_leaves
      refine leaves_start (Leaves.bind returns_view ?_)
      rw [found]
      exact leaves_rollback none
  | some agent =>
      have beaten := returns_updateAgent 0 [] found (fun row =>
        { row with lastHeartbeat := attempt.now }) fun _ => rfl
      by_cases noSlots : freeSlots ≤ 0
      · dsimp only
        rw [if_pos noSlots]
        apply alone_of_leaves
        refine leaves_start (Leaves.bind returns_view ?_)
        rw [found]
        refine Leaves.bind beaten ?_
        rw [if_pos noSlots]
        exact leaves_commit (some [])
      · dsimp only
        rw [if_neg noSlots]
        have polled : (store.updateAgent agentId fun row =>
            { row with lastHeartbeat := attempt.now }).agent agentId =
            some { agent with lastHeartbeat := attempt.now } := by
          simp [found]
        obtain ⟨ended, after, leaves, settled⟩ := leaves_claimTasks 0 store attempt agent
          freeSlots polled (List.mem_cons_self (a := RowKey.agent agentId) (l := []))
        refine Eq.trans (alone_of_leaves ?_) settled
        refine leaves_start (Leaves.bind returns_view ?_)
        rw [found]
        refine Leaves.bind beaten ?_
        rw [if_neg noSlots]
        exact leaves

theorem timestamptzParam_eq_none {timestamptz : Time → String → Option Time} {now : Time}
    {text : Option String}
    (converted : PgBroker.timestamptzParam timestamptz now text = .ok none) : text = none := by
  cases text with
  | none => rfl
  | some text =>
      unfold PgBroker.timestamptzParam at converted
      split at converted
      · cases ‹some text = none›
      · split at converted <;> cases converted

/-- A final report ends the open assignments at the time that the statement computes. -/
theorem returns_reportAssignments {attempt : Attempt} {taskId : Int} {update : TaskStatusUpdate}
    {finishedParam : Option Time} (terminal : update.state.terminal = true)
    (converted : finishedParam = none → update.finishedAt = none) :
    pgEngine.Returns id (reportAssignments attempt taskId update finishedParam) view held ()
      (view.updateAssignments
        (fun row => decide (row.taskId = taskId) && row.unassignedAt.isNone) fun row =>
          { row with
            unassignedAt := finishedParam.or
              (if update.finishedAt.isNone && update.state.terminal then some attempt.now
              else row.unassignedAt)
            reason := some (if update.state = .canceled then "canceled" else "completed") })
      held := by
  unfold reportAssignments reportedEnd
  cases finishedParam with
  | some time =>
      rw [terminal]
      exact returns_updateAssignments _ _ _
  | none =>
      rw [terminal, converted rfl]
      exact returns_updateAssignments _ _ _

variable (id held store) in
theorem leaves_writeReport (attempt : Attempt) (taskId : Int) {update : TaskStatusUpdate}
    (startedParam : Option Time) {finishedParam : Option Time}
    (converted : finishedParam = none → update.finishedAt = none) :
    ∃ ended after, pgEngine.Leaves id (writeReport attempt taskId update startedParam
        finishedParam) store store held ended after ∧
      (ended, after) = TxEnd.settle store
        (match store.task taskId with
        | none => .ok (.abort false)
        | some _ =>
            let reported := store.updateTask taskId
              (reportTask attempt update startedParam finishedParam)
            if update.state.terminal then
              let reason := if update.state = .canceled then "canceled" else "completed"
              .ok (.commit true (reported.updateAssignments
                (fun row => decide (row.taskId = taskId) && row.unassignedAt.isNone)
                fun row =>
                  { row with
                    unassignedAt := finishedParam.or
                      (if update.finishedAt.isNone && update.state.terminal then some attempt.now
                      else row.unassignedAt)
                    reason := some reason }))
            else .ok (.commit true reported)) := by
  cases found : store.task taskId with
  | none =>
      refine ⟨.ok false, store, ?_, rfl⟩
      exact Leaves.bind (returns_updateTask_absent found _ _) (leaves_rollback false)
  | some row =>
      have updated := returns_updateTask id held found
        (reportTask attempt update startedParam finishedParam) fun _ => rfl
      by_cases terminal : update.state.terminal = true
      · refine ⟨_, _, ?_, by rw [if_pos terminal]⟩
        exact Leaves.bind updated (Leaves.bind (returns_reportAssignments terminal converted)
          (leaves_commit true))
      · refine ⟨_, _, ?_, by rw [if_neg terminal]⟩
        have skipped : reportAssignments attempt taskId update finishedParam = .done () := by
          unfold reportAssignments
          split
          · exact absurd ‹update.state.terminal = true› terminal
          · rfl
        refine Leaves.bind updated ?_
        dsimp only
        rw [if_neg (by decide), skipped]
        exact leaves_commit true

theorem alone_updateTaskStatus (timestamptz : Time → String → Option Time) (attempt : Attempt)
    (taskId : Int) (update : TaskStatusUpdate) (store : Store) :
    alone (updateTaskStatus timestamptz attempt taskId update) store =
      TxEnd.settle store (PgBroker.updateTaskStatusBody timestamptz attempt taskId update
        store) := by
  unfold PgBroker.updateTaskStatusBody
  dsimp only
  cases started : PgBroker.timestamptzParam timestamptz attempt.now update.startedAt with
  | error error =>
      apply alone_of_leaves
      refine leaves_start ?_
      rw [started]
      exact leaves_raise error
  | ok startedParam =>
      cases finished : PgBroker.timestamptzParam timestamptz attempt.now update.finishedAt with
      | error error =>
          apply alone_of_leaves
          refine leaves_start ?_
          rw [started, finished]
          exact leaves_raise error
      | ok finishedParam =>
          have converted : finishedParam = none → update.finishedAt = none := by
            rintro rfl
            exact timestamptzParam_eq_none finished
          obtain ⟨ended, after, leaves, settled⟩ := leaves_writeReport 0 [] store attempt
            taskId startedParam converted
          refine Eq.trans (alone_of_leaves ?_) settled
          refine leaves_start ?_
          rw [started, finished]
          exact leaves

theorem alone_cancelTask (attempt : Attempt) (taskId : Int) (store : Store) :
    alone (cancelTask attempt taskId) store =
      TxEnd.settle store (PgBroker.cancelTaskBody attempt taskId store) := by
  unfold PgBroker.cancelTaskBody
  cases found : store.task taskId with
  | none =>
      apply alone_of_leaves
      refine leaves_start (Leaves.bind returns_view ?_)
      rw [found]
      exact leaves_rollback CancelTaskResult.notFound
  | some row =>
      dsimp only
      by_cases terminal : row.state.terminal = true
      · rw [if_pos terminal]
        apply alone_of_leaves
        refine leaves_start (Leaves.bind returns_view ?_)
        rw [found]
        dsimp only
        rw [if_pos terminal]
        exact leaves_rollback CancelTaskResult.invalidState
      · rw [if_neg terminal]
        apply alone_of_leaves
        refine leaves_start (Leaves.bind returns_view ?_)
        rw [found]
        dsimp only
        rw [if_neg terminal]
        exact Leaves.bind (returns_updateTask _ _ found _ _)
          (Leaves.bind (returns_updateAssignments _ _ _) (leaves_commit CancelTaskResult.ok))

theorem alone_markOfflineAgentsAndRequeue (attempt : Attempt) (offlineAfterSec : Int)
    (store : Store) : alone (markOfflineAgentsAndRequeue attempt offlineAfterSec) store =
      TxEnd.settle store (PgBroker.markOfflineAgentsAndRequeueBody attempt offlineAfterSec
        store) := by
  have stale : ∀ row ∈ store.agents.rows.filter (isStale attempt.now offlineAfterSec),
      store.agent row.agentId = some row ∧ isStale attempt.now offlineAfterSec row = true := by
    intro row member
    rw [List.mem_filter] at member
    exact ⟨KeyedTable.lookup_of_mem member.1, member.2⟩
  have passing : ∀ agentId ∈ (store.agents.rows.filter
        (isStale attempt.now offlineAfterSec)).map AgentRow.agentId,
      (store.agent agentId).any (isStale attempt.now offlineAfterSec) = true := by
    intro agentId member
    obtain ⟨row, inFound, rfl⟩ := List.mem_map.mp member
    obtain ⟨found, isStale⟩ := stale row inFound
    rw [found]
    exact isStale
  have body : PgBroker.markOfflineAgentsAndRequeueBody attempt offlineAfterSec store =
      let agents := store.agents.rows.filter (isStale attempt.now offlineAfterSec)
      if agents.isEmpty then .ok (.abort 0)
      else
        .ok (.commit agents.length
          ((agents.map AgentRow.agentId).foldl (PgBroker.takeOffline attempt.now) store)) :=
    rfl
  rw [body]
  dsimp only
  by_cases none : (store.agents.rows.filter (isStale attempt.now offlineAfterSec)).isEmpty = true
  · rw [if_pos none]
    apply alone_of_leaves
    refine leaves_start (Leaves.bind returns_view (Leaves.bind (returns_lockStale _ passing) ?_))
    rw [List.isEmpty_map, if_pos none]
    exact leaves_rollback 0
  · rw [if_neg none]
    apply alone_of_leaves
    refine leaves_start (Leaves.bind returns_view (Leaves.bind (returns_lockStale _ passing) ?_))
    rw [List.isEmpty_map, if_neg none, List.length_map]
    refine Leaves.bind (returns_takeAllOffline ?_) (leaves_commit _)
    intro agentId member absent
    have present := passing agentId member
    rw [absent] at present
    cases present

theorem alone_upsertAgent (attempt : Attempt) (agent : AgentInput) (store : Store) :
    alone (upsertAgent attempt agent) store =
      (.ok true, store.upsertAgent
        { agentId := agent.agentId
          os := PgBroker.textParam agent.os
          version := PgBroker.textParam agent.version
          resourcesCpuCores := agent.cpuCores
          resourcesRamMb := agent.ramMb
          resourcesSlots := agent.slots
          status := .idle
          lastHeartbeat := attempt.now }
        fun row =>
          { row with
            os := PgBroker.textParam agent.os
            version := PgBroker.textParam agent.version
            resourcesCpuCores := agent.cpuCores
            resourcesRamMb := agent.ramMb
            resourcesSlots := agent.slots
            status := .idle
            lastHeartbeat := attempt.now }) := by
  apply alone_of_leaves
  refine leaves_start (Leaves.bind (returns_lock (RowKey.agent agent.agentId)) ?_)
  refine Leaves.bind (returns_write ?_) (leaves_commit true)
  intro key needed
  simpa [pgEngine, RowChange.locks] using needed

theorem alone_updateHeartbeat (attempt : Attempt) (heartbeat : AgentHeartbeat) (store : Store) :
    alone (updateHeartbeat attempt heartbeat) store =
      TxEnd.settle store
        (match store.agent heartbeat.agentId with
        | none => .ok (.abort false)
        | some _ =>
            .ok (.commit true (store.updateAgent heartbeat.agentId fun row =>
              { row with status := heartbeat.status, lastHeartbeat := attempt.now }))) := by
  cases found : store.agent heartbeat.agentId with
  | none =>
      apply alone_of_leaves
      exact leaves_start (Leaves.bind (returns_updateAgent_absent found _ _)
        (leaves_rollback false))
  | some row =>
      apply alone_of_leaves
      exact leaves_start (Leaves.bind (returns_updateAgent _ _ found _ _) (leaves_commit true))

theorem alone_createTask {attempt : Attempt} (noGap : attempt.sequenceGap = 0)
    (task : TaskInput) (store : Store) :
    alone (createTask attempt task) store =
      TxEnd.settle store (PgBroker.createTaskBody attempt task store) := by
  have sameId : store.taskSeq + (attempt.sequenceGap : Int) + 1 = store.taskSeq + 1 := by
    rw [noGap]
    simp
  unfold PgBroker.createTaskBody
  cases refused : PgBroker.jsonbError task with
  | some error =>
      apply alone_of_leaves
      refine leaves_start ?_
      rw [refused]
      exact leaves_raise error
  | none =>
  have accepted : createTask attempt task = (ask .start >>= fun _ => insertTask attempt task) := by
    unfold createTask
    rw [refused]
  rw [accepted]
  simp only [sameId]
  split
  · rename_i inRange
    have drawn : pgEngine.draw store = .ok (store.taskSeq + 1,
        store.advanceTaskSeq (store.taskSeq + 1) (Store.nextTaskSeq inRange)) :=
      dif_pos inRange
    have bounds := store.taskSeqBounds
    have fresh : store.task (store.taskSeq + 1) = none := Store.task_eq_none_of_lt (by omega)
    apply alone_of_leaves
    have absent : (store.advanceTaskSeq (store.taskSeq + 1) (Store.nextTaskSeq inRange)).task
        (store.taskSeq + 1) = none := fresh
    refine leaves_start_draw drawn (Leaves.bind (returns_lock (RowKey.task (store.taskSeq + 1))) ?_)
    rw [absent]
    refine Leaves.bind (returns_write (by
      simp [pgEngine, RowChange.locks, PgBroker.newTask])) ?_
    have inserted : pgEngine.apply
          (store.advanceTaskSeq (store.taskSeq + 1) (Store.nextTaskSeq inRange))
          (.insertTask (PgBroker.newTask attempt.now (store.taskSeq + 1) task)) =
        (store.advanceTaskSeq (store.taskSeq + 1) (Store.nextTaskSeq inRange)).insertTask
          (PgBroker.newTask attempt.now (store.taskSeq + 1) task) fresh
          ⟨by simp only [PgBroker.newTask]; omega, le_refl _⟩ :=
      dif_pos ⟨fresh, by simp only [PgBroker.newTask]; omega, le_refl _⟩
    rw [inserted]
    exact leaves_commit _
  · rename_i outOfRange
    have exhausted : pgEngine.draw store =
        .error ⟨"nextval: reached maximum value of sequence"⟩ :=
      dif_neg outOfRange
    exact alone_of_leaves (leaves_start_draw_of_error exhausted)

/-- One attempt of an operation does, when its transaction is undisturbed, what the
statements of that transaction do when no other session is open. -/
theorem statements_alone (timestamptz : Time → String → Option Time) {attempt : Attempt}
    (undisturbed : attempt.transaction = some .none) (store : Store) :
    (∀ agent, alone (upsertAgent attempt agent) store =
        (pgBroker timestamptz).upsertAgent [attempt] agent store) ∧
      (∀ heartbeat, alone (updateHeartbeat attempt heartbeat) store =
        (pgBroker timestamptz).updateHeartbeat [attempt] heartbeat store) ∧
      (∀ task, attempt.sequenceGap = 0 → alone (createTask attempt task) store =
        (pgBroker timestamptz).createTask [attempt] task store) ∧
      (∀ agentId freeSlots, alone (pollTasksForAgent attempt agentId freeSlots) store =
        (pgBroker timestamptz).pollTasksForAgent [attempt] agentId freeSlots store) ∧
      (∀ taskId update, alone (updateTaskStatus timestamptz attempt taskId update) store =
        (pgBroker timestamptz).updateTaskStatus [attempt] taskId update store) ∧
      (∀ taskId, alone (cancelTask attempt taskId) store =
        (pgBroker timestamptz).cancelTask [attempt] taskId store) ∧
      ∀ offlineAfterSec, alone (markOfflineAgentsAndRequeue attempt offlineAfterSec) store =
        (pgBroker timestamptz).markOfflineAgentsAndRequeue [attempt] offlineAfterSec store := by
  have settled : ∀ {Result : Type} (body : Attempt → Store → Except DbError (TxEnd Store Result)),
      executeWithRetry [attempt] (fun attempt => PgBroker.transaction attempt (body attempt))
        store = TxEnd.settle store (body attempt store) := fun body =>
    PgBroker.executeWithRetry_one undisturbed body store
  refine ⟨?_, ?_, ?_, ?_, ?_, ?_, ?_⟩
  · intro agent
    rw [alone_upsertAgent]
    change _ = PgBroker.upsertAgent [attempt] agent store
    rw [PgBroker.upsertAgent]
    refine Eq.trans ?_ (settled _).symm
    rfl
  · intro heartbeat
    rw [alone_updateHeartbeat]
    change _ = PgBroker.updateHeartbeat [attempt] heartbeat store
    rw [PgBroker.updateHeartbeat]
    refine Eq.trans ?_ (settled _).symm
    rfl
  · intro task noGap
    rw [alone_createTask noGap]
    exact (settled fun attempt => PgBroker.createTaskBody attempt task).symm
  · intro agentId freeSlots
    rw [alone_pollTasksForAgent]
    exact (settled fun attempt =>
      PgBroker.pollTasksForAgentBody attempt agentId freeSlots).symm
  · intro taskId update
    rw [alone_updateTaskStatus]
    exact (settled fun attempt =>
      PgBroker.updateTaskStatusBody timestamptz attempt taskId update).symm
  · intro taskId
    rw [alone_cancelTask]
    exact (settled fun attempt => PgBroker.cancelTaskBody attempt taskId).symm
  · intro offlineAfterSec
    rw [alone_markOfflineAgentsAndRequeue]
    exact (settled fun attempt =>
      PgBroker.markOfflineAgentsAndRequeueBody attempt offlineAfterSec).symm

/-- A task for two cores of a Linux machine. -/
def twoCores : TaskInput where
  command := "true"
  args := .array []
  env := .object []
  timeoutSec := none
  constraints := .object [("os", .string "linux"), ("cpu_cores", .integer 2)]

/-- A database with an agent that the task fits. -/
def agentAndTask : Store :=
  let registered := (PgBroker.upsertAgent [{ now := 0 }]
    { agentId := "agent-1", os := "linux", version := "dev", cpuCores := 4 } .empty).2
  (PgBroker.createTask [{ now := 0 }] twoCores registered).2

/-- A poll that hands out the task, and a submission. -/
theorem statements_alone_agentAndTask :
    let polled := alone (pollTasksForAgent { now := 1000 } "agent-1" 1) agentAndTask
    let created := alone (createTask { now := 1000 } twoCores) agentAndTask
    polled = (pgBroker fun _ _ => none).pollTasksForAgent [{ now := 1000 }] "agent-1" 1
        agentAndTask ∧
      (∃ dispatch, polled.1 = .ok (some [dispatch]) ∧ dispatch.taskId = 1) ∧
      created = (pgBroker fun _ _ => none).createTask [{ now := 1000 }] twoCores agentAndTask ∧
      created.1 = .ok 2 :=
  ⟨(statements_alone (fun _ _ => none) rfl agentAndTask).2.2.2.1 "agent-1" 1,
    ⟨_, rfl, rfl⟩,
    (statements_alone (fun _ _ => none) rfl agentAndTask).2.2.1 twoCores rfl, rfl⟩

end PgSessions

end DistributedComputing
