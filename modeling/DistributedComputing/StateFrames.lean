import DistributedComputing.Deployment

/-!
# What the operations leave alone

Under any schedule, with calls that fail half-way, lost acknowledgements and retries, an
operation other than `UpdateTaskStatus` keeps every task that is over in its state, and
`UpdateTaskStatus` only ever writes the reported state to the reported task.
-/

namespace DistributedComputing

open TransitionRuns

namespace Store

/-- Every task that is over stays in its state. -/
def KeepsTerminal (before after : Store) : Prop :=
  ∀ taskId state, before.ledger.state taskId = some state → state.terminal = true →
    after.ledger.state taskId = some state

/-- No task changes its state, except that one task may get one state. -/
def WritesOnly (taskId : Int) (state : TaskState) (before after : Store) : Prop :=
  ∀ other held, before.ledger.state other = some held →
    after.ledger.state other = some held ∨
      (other = taskId ∧ after.ledger.state other = some state)

/-- Every task that is over keeps its row. -/
def KeepsFinished (before after : Store) : Prop :=
  ∀ taskId row, before.task taskId = some row → row.state.terminal = true →
    after.task taskId = some row

theorem KeepsFinished.refl (store : Store) : KeepsFinished store store :=
  fun _ _ found _ => found

theorem KeepsFinished.trans (first second third : Store) (start : KeepsFinished first second)
    (rest : KeepsFinished second third) : KeepsFinished first third :=
  fun taskId row found isOver => rest taskId row (start taskId row found isOver) isOver

theorem KeepsFinished.of_tasks_eq {before after : Store} (same : after.tasks = before.tasks) :
    KeepsFinished before after := by
  intro taskId row found _
  rw [task, same]
  exact found

theorem KeepsFinished.keepsTerminal {before after : Store} (kept : KeepsFinished before after) :
    KeepsTerminal before after := by
  intro taskId state held isOver
  obtain ⟨row, found, rfl⟩ := exists_task_of_state held
  exact state_of_task (kept taskId row found isOver)

theorem KeepsTerminal.refl (store : Store) : KeepsTerminal store store :=
  fun _ _ held _ => held

theorem KeepsTerminal.trans (first second third : Store) (start : KeepsTerminal first second)
    (rest : KeepsTerminal second third) : KeepsTerminal first third :=
  fun taskId state held isOver => rest taskId state (start taskId state held isOver) isOver

section Writes

variable {taskId : Int} {state : TaskState}

theorem WritesOnly.refl (store : Store) : WritesOnly taskId state store store :=
  fun _ _ held => .inl held

theorem WritesOnly.trans (first second third : Store)
    (start : WritesOnly taskId state first second)
    (rest : WritesOnly taskId state second third) : WritesOnly taskId state first third := by
  intro other held before
  rcases start other held before with same | ⟨isTask, written⟩
  · exact rest other held same
  · rcases rest other state written with same | ⟨_, again⟩
    · exact .inr ⟨isTask, same⟩
    · exact .inr ⟨isTask, again⟩

/-- A write to a task that is not over, or of the state it has, keeps what is over. -/
theorem WritesOnly.keepsTerminal {before after : Store}
    (writes : WritesOnly taskId state before after)
    (unfinished : ∀ held, before.ledger.state taskId = some held →
      held.terminal = false ∨ held = state) : KeepsTerminal before after := by
  intro other held found isOver
  rcases writes other held found with same | ⟨rfl, written⟩
  · exact same
  · rcases unfinished held found with running | rfl
    · rw [running] at isOver
      cases isOver
    · exact written

end Writes

end Store

open Store

/-! ## Events -/

theorem Explains.writesOnly {taskId : Int} {state : TaskState} {exitCode : Option Int}
    {before after : Store} (explains : Explains [.report taskId state exitCode] before after) :
    WritesOnly taskId state before after := by
  intro other held found
  rw [explains.ledger_eq]
  by_cases same : other = taskId
  · exact .inr ⟨same, by simp [same, Ledger.step]⟩
  · exact .inl (by simpa [Ledger.step, same] using found)

theorem UpdateSpec.writesOnly {taskId : Int} {update : TaskStatusUpdate} {store : Store}
    {outcome : Outcome Bool} (spec : UpdateSpec taskId update store outcome) :
    WritesOnly taskId update.state store outcome.2 := by
  rcases outcome with ⟨error | _ | _, after⟩
  · rw [show after = store from spec]
    exact WritesOnly.refl store
  · rw [show after = store from spec.2]
    exact WritesOnly.refl store
  · exact spec.2.writesOnly

/-! ## Calls of the driver -/

namespace MongoCall

/-- The update of tasks that a call makes, if it is one. -/
def taskUpdate : MongoCall → Option (TaskFilter × TaskSet)
  | tasksUpdateOne filter set => some (filter, set)
  | tasksUpdateMany filter set => some (filter, set)
  | _ => none

/-- What happened to a task: nothing, or the update of the call that matches it. -/
def LeavesOrUpdates (call : MongoCall) (taskId : Int) (row : TaskRow) (after : Store) : Prop :=
  after.task taskId = some row ∨
    ∃ filter set, call.taskUpdate = some (filter, set) ∧ filter.matches row = true ∧
      after.task taskId = some (set.apply row)

theorem task_exec (rank : Int → Nat) (call : MongoCall) {store : Store} {taskId : Int}
    {row : TaskRow} (found : store.task taskId = some row) :
    call.LeavesOrUpdates taskId row (call.exec rank store).2 := by
  cases call with
  | agentsFindOne agentId => exact .inl found
  | agentsFind filter => exact .inl found
  | agentsFindPage status limit skip => exact .inl found
  | agentsUpdateOne agentId set =>
      refine .inl ?_
      simp only [exec]
      split <;> exact found
  | agentsUpsertOne agent =>
      refine .inl ?_
      simp only [exec, Store.task, Store.tasks_upsertAgent]
      exact found
  | tasksFindOne other => exact .inl found
  | tasksFind filter limit => exact .inl found
  | tasksFindPage filter limit skip => exact .inl found
  | tasksInsertOne inserted =>
      refine .inl ?_
      simp only [exec]
      split
      · rename_i allowed
        have different : inserted.taskId ≠ taskId := by
          rintro rfl
          rw [allowed.1] at found
          cases found
        simpa [different] using found
      · exact found
  | tasksUpdateOne filter set =>
      simp only [LeavesOrUpdates, exec]
      cases first : store.tasks.rows.find? filter.matches with
      | none => exact .inl found
      | some other =>
          simp only [Store.task_updateTask]
          by_cases same : taskId = other.taskId
          · have looked := KeyedTable.lookup_of_mem (List.mem_of_find?_eq_some first)
            have isRow : other = row := by
              rw [← same] at looked
              exact Option.some.inj (looked.symm.trans found)
            subst isRow
            refine .inr ⟨filter, set, rfl, List.find?_some first, ?_⟩
            rw [if_pos same, ← same, found]
            rfl
          · exact .inl (by simpa [same] using found)
  | tasksUpdateMany filter set =>
      by_cases hit : filter.matches row = true
      · exact .inr ⟨filter, set, rfl, hit, by simp [exec, found, hit]⟩
      · exact .inl (by simp [exec, found, hit])
  | taskAssignmentsInsertOne row => exact .inl found
  | taskAssignmentsUpdateMany filter set => exact .inl found
  | countersFindOneAndUpdate =>
      refine .inl ?_
      simp only [exec]
      split <;> exact found

theorem task_interrupted (rank : Int → Nat) (call : MongoCall) (progress : Progress)
    {store : Store} {taskId : Int} {row : TaskRow} (found : store.task taskId = some row) :
    call.LeavesOrUpdates taskId row (call.interrupted rank progress store) := by
  have whole := task_exec rank call found
  have atomic : call.LeavesOrUpdates taskId row
      (if progress 0 then (call.exec rank store).2 else store) := by
    split
    · exact whole
    · exact .inl found
  cases call with
  | tasksUpdateMany filter set =>
      by_cases hit : (filter.matches row && progress row.taskId.toNat) = true
      · refine .inr ⟨filter, set, rfl, (Bool.and_eq_true_iff.mp hit).1, ?_⟩
        rw [interrupted, updateReachedTasks, Store.task_updateTasks, found, Option.map_some,
          if_pos hit]
      · refine .inl ?_
        rw [interrupted, updateReachedTasks, Store.task_updateTasks, found, Option.map_some,
          if_neg hit]
  | taskAssignmentsUpdateMany filter set => exact .inl found
  | agentsFindOne agentId => exact atomic
  | agentsFind filter => exact atomic
  | agentsFindPage status limit skip => exact atomic
  | agentsUpdateOne agentId set => exact atomic
  | agentsUpsertOne agent => exact atomic
  | tasksFindOne other => exact atomic
  | tasksFind filter limit => exact atomic
  | tasksFindPage filter limit skip => exact atomic
  | tasksInsertOne inserted => exact atomic
  | tasksUpdateOne filter set => exact atomic
  | taskAssignmentsInsertOne row => exact atomic
  | countersFindOneAndUpdate => exact atomic

/-- A call that updates no task keeps every task as it is. -/
theorem task_exec_of_none (rank : Int → Nat) {call : MongoCall} (reads : call.taskUpdate = none)
    {store : Store} {taskId : Int} {row : TaskRow} (found : store.task taskId = some row) :
    (call.exec rank store).2.task taskId = some row := by
  rcases task_exec rank call found with same | ⟨filter, set, isUpdate, _⟩
  · exact same
  · rw [reads] at isUpdate
    cases isUpdate

/-- The call updates tasks only while they are not over. -/
def OnlyUnfinished (call : MongoCall) : Prop :=
  ∀ filter set, call.taskUpdate = some (filter, set) →
    ∃ states, filter.states = some states ∧ ∀ state ∈ states, state.terminal = false

theorem OnlyUnfinished.keepsFinished {call : MongoCall} (unfinished : call.OnlyUnfinished)
    {before after : Store}
    (effect : ∀ taskId row, before.task taskId = some row →
      call.LeavesOrUpdates taskId row after) : KeepsFinished before after := by
  intro taskId row found isOver
  rcases effect taskId row found with same | ⟨filter, set, isUpdate, hit, _⟩
  · exact same
  · obtain ⟨states, isStates, live⟩ := unfinished filter set isUpdate
    have member : row.state ∈ states := by
      simp only [TaskFilter.matches, isStates, Bool.and_eq_true, Option.all_some,
        decide_eq_true_eq] at hit
      exact hit.1.1.1.1.2
    rw [live row.state member] at isOver
    cases isOver

/-- The call updates one task only, gives it one state and leaves its agent. -/
def OnlyState (taskId : Int) (state : TaskState) (call : MongoCall) : Prop :=
  ∀ filter set, call.taskUpdate = some (filter, set) →
    filter.taskId = some taskId ∧ set.state = some state ∧ set.assignedAgent = none

theorem OnlyState.writesOnly {taskId : Int} {state : TaskState} {call : MongoCall}
    (only : call.OnlyState taskId state) {before after : Store}
    (effect : ∀ taskId row, before.task taskId = some row →
      call.LeavesOrUpdates taskId row after) : WritesOnly taskId state before after := by
  intro other held found
  obtain ⟨row, rowFound, rfl⟩ := exists_task_of_state found
  rcases effect other row rowFound with same | ⟨filter, set, isUpdate, hit, written⟩
  · exact .inl (state_of_task same)
  · obtain ⟨isTask, isState, _⟩ := only filter set isUpdate
    have sameTask : row.taskId = taskId := by
      simp only [TaskFilter.matches, isTask, Bool.and_eq_true, Option.all_some,
        decide_eq_true_eq] at hit
      exact hit.1.1.1.1.1
    refine .inr ⟨by rw [← sameTask, KeyedTable.key_of_lookup rowFound], ?_⟩
    rw [state_of_task written]
    simp [TaskSet.apply, isState]

/-- What the call leaves of the other tasks. -/
theorem OnlyState.task_other {taskId : Int} {state : TaskState} {call : MongoCall}
    (only : call.OnlyState taskId state) {before after : Store}
    (effect : ∀ taskId row, before.task taskId = some row →
      call.LeavesOrUpdates taskId row after) {other : Int} {row : TaskRow}
    (found : before.task other = some row) (different : other ≠ taskId) :
    after.task other = some row := by
  rcases effect other row found with same | ⟨filter, set, isUpdate, hit, _⟩
  · exact same
  · obtain ⟨isTask, _, _⟩ := only filter set isUpdate
    simp only [TaskFilter.matches, isTask, Bool.and_eq_true, Option.all_some,
      decide_eq_true_eq] at hit
    exact absurd ((KeyedTable.key_of_lookup found).symm.trans hit.1.1.1.1.1) different

theorem OnlyUnfinished.of_none {call : MongoCall} (reads : call.taskUpdate = none) :
    call.OnlyUnfinished := by
  intro filter set isUpdate
  rw [reads] at isUpdate
  cases isUpdate

theorem OnlyState.of_none {taskId : Int} {state : TaskState} {call : MongoCall}
    (reads : call.taskUpdate = none) : call.OnlyState taskId state := by
  intro filter set isUpdate
  rw [reads] at isUpdate
  cases isUpdate

end MongoCall

namespace MongoBroker

open CallProgram MongoCall

section Relations

variable {rel : Store → Store → Prop} (reflexive : ∀ store, rel store store)
  (transitive : ∀ first second third, rel first second → rel second third → rel first third)
  {allowed : MongoCall → Prop}
  (effect : ∀ call, allowed call → ∀ before after,
    (∀ taskId row, before.task taskId = some row → call.LeavesOrUpdates taskId row after) →
      rel before after)

include reflexive transitive effect

theorem runCalls_rel {Result : Type} (attempt : Attempt) {program : MongoProgram Result}
    (issues : program.Issues allowed) (store : Store) :
    rel store (runCalls attempt program store).2 :=
  runUntil_rel reflexive transitive
    (fun call isAllowed before =>
      effect call isAllowed before _ fun _ _ found => task_exec attempt.rank call found)
    (fun call isAllowed progress before =>
      effect call isAllowed before _ fun _ _ found =>
        task_interrupted attempt.rank call progress found)
    attempt.error attempt.raisingCall issues store

theorem withTransaction_rel {Result : Type} (attempt : Attempt)
    {body : MongoProgram (SessionEnd Result)} {noTransaction : MongoProgram Result}
    (issues : body.Issues allowed) (plainIssues : noTransaction.Issues allowed)
    (store : Store) : rel store (withTransaction attempt body noTransaction store).2 := by
  unfold withTransaction
  cases attempt.transaction with
  | none => exact runCalls_rel reflexive transitive effect attempt plainIssues store
  | some fault =>
      refine TxEnd.attempt_rel rel (reflexive store) fault attempt.error ?_
      intro result after committed
      have ran := run_rel reflexive transitive
        (fun call isAllowed before =>
          effect call isAllowed before _ fun _ _ found => task_exec attempt.rank call found)
        issues store
      unfold sessionBody at committed
      split at committed
      · cases committed
      · rename_i finished
        cases committed
        rw [finished] at ran
        exact ran
      · cases committed

theorem retry_withTransaction_rel {Result : Type} (attempts : List Attempt)
    {body : Attempt → MongoProgram (SessionEnd Result)}
    {noTransaction : Attempt → MongoProgram Result}
    (issues : ∀ attempt, (body attempt).Issues allowed)
    (plainIssues : ∀ attempt, (noTransaction attempt).Issues allowed) (store : Store) :
    rel store (executeWithRetry attempts (fun attempt =>
      withTransaction attempt (body attempt) (noTransaction attempt)) store).2 := by
  refine RetryLoop.retry_rel reflexive transitive _ ?_ store
  intro action member before
  obtain ⟨attempt, _, rfl⟩ := List.mem_map.mp member
  exact withTransaction_rel reflexive transitive effect attempt (issues attempt)
    (plainIssues attempt) before

theorem retry_runCalls_rel {Result : Type} (attempts : List Attempt)
    {program : Attempt → MongoProgram Result}
    (issues : ∀ attempt, (program attempt).Issues allowed) (store : Store) :
    rel store (executeWithRetry attempts (fun attempt =>
      runCalls attempt (program attempt)) store).2 := by
  refine RetryLoop.retry_rel reflexive transitive _ ?_ store
  intro action member before
  obtain ⟨attempt, _, rfl⟩ := List.mem_map.mp member
  exact runCalls_rel reflexive transitive effect attempt (issues attempt) before

end Relations

end MongoBroker

end DistributedComputing
