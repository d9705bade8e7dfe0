import DistributedComputing.PgStatements
import DistributedComputing.RowLockWrites
import DistributedComputing.SubmittedTasks

/-!
# What the statements of the PostgreSQL broker retain

No statement removes an agent or a task, changes the submission of a task or says something
else of how an assignment came about.
-/

namespace DistributedComputing

open RowEngine

/-- What the row says of how the assignment came about. -/
def AssignmentRow.entry (row : AssignmentRow) : Int × String × Time :=
  (row.taskId, row.agentId, row.assignedAt)

namespace Store

/-- Nothing that was recorded is lost. -/
structure Retains (before after : Store) : Prop where
  tasks : KeepsSubmissions before after
  agents : ∀ agentId, before.agent agentId ≠ none → after.agent agentId ≠ none
  assignments : before.taskAssignments.map AssignmentRow.entry <+:
    after.taskAssignments.map AssignmentRow.entry

theorem Retains.refl (store : Store) : Retains store store :=
  ⟨.refl store, fun _ known => known, List.prefix_rfl⟩

theorem Retains.trans {first second third : Store} (start : Retains first second)
    (rest : Retains second third) : Retains first third where
  tasks := KeepsSubmissions.trans first second third start.tasks rest.tasks
  agents agentId known := rest.agents agentId (start.agents agentId known)
  assignments := start.assignments.trans rest.assignments

end Store

/-! ## One change -/

namespace RowChange

/-- The change keeps what its row has recorded. -/
def Keeps : RowChange → Prop
  | task _ change _ => ∀ row, (change row).submission = row.submission
  | assignment _ change _ => ∀ row, (change row).entry = row.entry
  | _ => True

theorem keepsSubmissions_apply {change : RowChange} (keeps : change.Keeps) (store : Store) :
    store.KeepsSubmissions (change.apply store) := by
  intro taskId row found
  by_cases apart : RowKey.task taskId ∈ change.locks
  · cases change with
    | agent agentId change same => exact ⟨row, found, rfl⟩
    | upsertAgent agent change same => simp [locks] at apart
    | assignment position change ends => exact ⟨row, found, rfl⟩
    | insertAssignment assignment => exact ⟨row, by simpa [apply] using found, rfl⟩
    | insertTask inserted =>
        have sameTask : taskId = inserted.taskId := by simpa [locks] using apart
        subst sameTask
        refine ⟨row, ?_, rfl⟩
        change (store.tryInsertTask inserted).task inserted.taskId = _
        rcases store.tryInsertTask_cases inserted with same | ⟨fresh, _, _⟩
        · rw [same]
          exact found
        · rw [fresh] at found
          cases found
    | task other change same =>
        have sameTask : taskId = other := by simpa [locks] using apart
        subst sameTask
        exact ⟨change row, by simp [apply, found], keeps row⟩
  · exact ⟨row, (task_apply apart store).trans found, rfl⟩

theorem entries_apply {change : RowChange} (keeps : change.Keeps) (store : Store) :
    store.taskAssignments.map AssignmentRow.entry <+:
      (change.apply store).taskAssignments.map AssignmentRow.entry := by
  cases change with
  | agent agentId change same => exact List.prefix_rfl
  | task taskId change same => exact List.prefix_rfl
  | upsertAgent agent change same =>
      have unchanged : (store.upsertAgent agent change same).taskAssignments =
          store.taskAssignments := by simp
      exact unchanged ▸ List.prefix_rfl
  | insertTask inserted =>
      have unchanged : (store.tryInsertTask inserted).taskAssignments =
          store.taskAssignments := by
        rcases store.tryInsertTask_cases inserted with same | ⟨_, _, same⟩ <;>
          exact (congrArg Store.taskAssignments same).trans rfl
      exact unchanged ▸ List.prefix_rfl
  | insertAssignment assignment =>
      change _ <+: (store.taskAssignments ++ [assignment]).map _
      rw [List.map_append]
      exact List.prefix_append _ _
  | assignment position change ends =>
      have unchanged : (store.taskAssignments.modify position change).map AssignmentRow.entry =
          store.taskAssignments.map AssignmentRow.entry := by
        apply List.ext_getElem?
        intro other
        simp only [List.getElem?_map, List.getElem?_modify]
        cases store.taskAssignments[other]? with
        | none => rfl
        | some row =>
            have sameEntry : (change row).entry = row.entry := keeps row
            by_cases here : position = other <;> simp [here, sameEntry]
      exact unchanged.symm ▸ List.prefix_rfl

theorem retains_apply {change : RowChange} (keeps : change.Keeps) (store : Store) :
    store.Retains (change.apply store) :=
  ⟨keepsSubmissions_apply keeps store, fun _ known => change.agent_apply_ne_none known,
    entries_apply keeps store⟩

end RowChange

theorem retains_nextval {store after : Store} {taskId : Int}
    (drawn : nextval store = .ok (taskId, after)) : store.Retains after := by
  obtain ⟨agents, tasks, assignments⟩ := nextval_tables drawn
  refine ⟨.of_tasks_eq tasks, ?_, ?_⟩
  · intro agentId known
    rw [Store.agent, agents]
    exact known
  · exact assignments ▸ List.prefix_rfl

/-! ## The programs -/

namespace PgSessions

/-- The program begins no transaction, and writes only changes that keep what is recorded. -/
abbrev KeepsRows {Result : Type} (program : PgProgram Result) : Prop :=
  program.Issues (WritesOnly RowChange.Keeps)

theorem keepsRows_abort {Result : Type} (error : DbError) :
    KeepsRows (abort error : PgProgram Result) :=
  .perform trivial fun _ => trivial

theorem keepsRows_updateEach {Item : Type} (key : Item → RowKey) (passes : Item → Store → Bool)
    {change : Item → RowChange} (keeps : ∀ item, (change item).Keeps) (items : List Item) :
    KeepsRows (updateEach key passes change items) := by
  induction items with
  | nil => trivial
  | cons item items ih =>
      refine .perform trivial fun current => .bind ?_ fun _ => ih
      unfold writeIf
      split
      · exact ⟨keeps item, fun _ => trivial⟩
      · trivial

theorem keepsRows_updateAgent (agentId : String) (change : AgentRow → AgentRow)
    (same : ∀ row, (change row).agentId = row.agentId) :
    KeepsRows (updateAgent agentId change same) := by
  refine .perform trivial fun _ => .bind (keepsRows_updateEach _ _ ?_ _) fun _ => trivial
  exact fun _ => trivial

theorem keepsRows_updateTasks (test : TaskRow → Bool) {change : TaskRow → TaskRow}
    {same : ∀ row, (change row).taskId = row.taskId}
    (keeps : ∀ row, (change row).submission = row.submission) :
    KeepsRows (updateTasks test change same) := by
  refine .perform trivial fun _ => .bind (keepsRows_updateEach _ _ ?_ _) fun _ => trivial
  exact fun _ => keeps

theorem keepsRows_updateAssignments (test : AssignmentRow → Bool)
    {change : AssignmentRow → AssignmentRow}
    {ends : ∀ row, (change row).unassignedAt.isSome = true}
    (keeps : ∀ row, (change row).entry = row.entry) :
    KeepsRows (updateAssignments test change ends) := by
  refine .perform trivial fun _ => keepsRows_updateEach _ _ ?_ _
  exact fun _ => keeps

theorem keepsRows_lockFitting (agent : AgentRow) (slots : Nat) (rows : List TaskRow) :
    KeepsRows (lockFitting agent slots rows) := by
  induction rows generalizing slots with
  | nil => cases slots <;> trivial
  | cons row rows ih =>
      cases slots with
      | zero => trivial
      | succ slots =>
          refine .perform trivial fun locked => ?_
          cases locked with
          | none => exact ih _
          | some current =>
              dsimp only
              split
              · exact keepsRows_abort _
              · exact ih _
              · exact .bind (ih _) fun _ => trivial

theorem keepsRows_assignAll (now : Time) (agentId : String) (dispatches : List TaskDispatch) :
    KeepsRows (assignAll now agentId dispatches) := by
  induction dispatches with
  | nil => trivial
  | cons dispatch dispatches ih =>
      refine .bind (.bind (keepsRows_updateTasks _ fun _ => rfl) fun _ => ?_) fun _ => ih
      exact ⟨trivial, fun _ => trivial⟩

theorem keepsRows_takeAllOffline (now : Time) (agentIds : List String) :
    KeepsRows (takeAllOffline now agentIds) := by
  induction agentIds with
  | nil => trivial
  | cons agentId agentIds ih =>
      refine .bind (.bind (keepsRows_updateAgent _ _ _) fun _ => ?_) fun _ => ih
      refine .bind (keepsRows_updateAssignments _ fun _ => rfl) fun _ => ?_
      exact .bind (keepsRows_updateTasks _ fun _ => rfl) fun _ => trivial

theorem keepsRows_lockStale (now : Time) (offlineAfterSec : Int) (agentIds : List String) :
    KeepsRows (lockStale now offlineAfterSec agentIds) := by
  induction agentIds with
  | nil => trivial
  | cons agentId agentIds ih => exact .perform trivial fun _ => .bind ih fun _ => trivial

end PgSessions

end DistributedComputing
