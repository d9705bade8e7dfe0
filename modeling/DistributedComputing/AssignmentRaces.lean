import DistributedComputing.AssignmentConsistency
import DistributedComputing.ClaimInterleaving

/-!
# Assignment rows under interleaved calls without transactions

Every call to the database is one step, and the calls of concurrent operations mix.  An
operation writes `tasks` and `task_assignments` in separate calls, so that a row may be
inserted for a task that another operation has meanwhile taken away, or a task may be
taken away after its rows were closed.
-/

namespace DistributedComputing

open TransitionRuns CallProgram MongoCall MongoBroker ControlService

/-- `HandleUpdateTaskStatus` without transactions: the read, the check and the write. -/
def guardedUpdateTaskStatus (attempt : Attempt) (taskId : Int) (update : TaskStatusUpdate) :
    MongoProgram Bool := do
  let found ← issue (.tasksFindOne taskId)
  match (found : Option TaskRow) with
  | none => return false
  | some current =>
      if Api.isValidTaskStateTransition current.state update.state then
        updateTaskStatusNoTransaction attempt taskId update
      else return false

theorem runUpdateTaskStatus_alone {attempt : Attempt}
    (healthy : Deployment.mongoStandalone.Healthy [attempt]) (taskId : Int)
    (update : TaskStatusUpdate) (store : Store) :
    (updateTaskStatus [attempt] taskId update store).2 =
      ((updateTaskStatusNoTransaction attempt taskId update).run (exec attempt.rank) store).2 := by
  have calm := healthy.attempt attempt (by simp)
  rw [updateTaskStatus, orElse_store, executeWithRetry, List.map_singleton,
    RetryLoop.retry_singleton, withTransaction, calm.1]
  exact congrArg Prod.snd (runCalls_faultFree ⟨.inr calm.1, calm.2⟩ _ store)

/-- The guarded program is what the handler does when nothing happens in between. -/
theorem handleUpdateTaskStatus_guarded {attempt : Attempt}
    (healthy : Deployment.mongoStandalone.Healthy [attempt]) {taskIdRaw : String} {body : Body}
    {taskId : Int} {update : TaskStatusUpdate} (parsedId : Api.parseTaskId taskIdRaw = some taskId)
    (parsed : parseBody Api.parseTaskStatusUpdate body = .ok update) (store : Store) :
    (handleUpdateTaskStatus mongoBroker [attempt] [attempt] taskIdRaw body store).2 =
      ((guardedUpdateTaskStatus attempt taskId update).run (exec attempt.rank) store).2 := by
  have checked := checkStatusUpdate_eq healthy store taskIdRaw body
  rw [parsedId, parsed] at checked
  have guarded : (guardedUpdateTaskStatus attempt taskId update).run (exec attempt.rank) store = _ :=
    run_perform_of_ok _ (exec_tasksFindOne attempt.rank taskId store) _
  unfold handleUpdateTaskStatus
  rw [show mongoBroker = Deployment.mongoStandalone.broker from rfl, checked, guarded]
  cases found : store.task taskId with
  | none => simp [Store.ledger_state, found]
  | some current =>
      by_cases valid : Api.isValidTaskStateTransition current.state update.state = true
      · simp only [Store.ledger_state, found, Option.map_some, valid, if_true]
        rw [← runUpdateTaskStatus_alone healthy]
        unfold writeStatusUpdate
        rw [show Deployment.mongoStandalone.broker.updateTaskStatus = MongoBroker.updateTaskStatus
          from rfl]
        rcases MongoBroker.updateTaskStatus [attempt] taskId update store with ⟨_ | _ | _, after⟩ <;>
          rfl
      · simp [Store.ledger_state, found, valid]

/-- The program of an operation, where a status report is guarded by its handler. -/
def Operation.guarded (attempt : Attempt) : Operation → MongoProgram OperationResult
  | .updateTaskStatus taskId update => do
      let found ← guardedUpdateTaskStatus attempt taskId update
      return .updated found
  | operation => operation.program attempt

/-- The driver when every call is one step. -/
def callDriver : Service Nat MongoCall MongoCall.Reply DbError Store (Int → Nat) Empty Empty where
  exec _ rank call store := call.exec rank store
  touch _ part := part.elim
  external event := event.elim

/-- A thread starts its operation, or makes its next call. -/
inductive CallStep
  | start (thread : Nat) (attempt : Attempt)
  | call (thread : Nat) (rank : Int → Nat)

abbrev CallPool :=
  ThreadPool Nat MongoCall MongoCall.Reply DbError Store OperationResult

section Pool

-- Thread by thread, the operation it performs.
variable (operation : Nat → Operation)

def CallStep.action : CallStep →
    PoolAction Nat MongoCall MongoCall.Reply DbError (Int → Nat) Empty Empty OperationResult
  | start thread attempt => .start thread ((operation thread).guarded attempt)
  | call thread rank => .call thread rank

def callStep (pool : CallPool) (step : CallStep) : CallPool :=
  ThreadPool.step callDriver pool (step.action operation)

def callRun (store : Store) (steps : List CallStep) : CallPool :=
  run (callStep operation) (.idle store) steps

end Pool

namespace Store

/-- The task is running under the agent. -/
def RunsUnder (store : Store) (taskId : Int) (agentId : String) : Prop :=
  ∃ task, store.task taskId = some task ∧ task.state = .running ∧
    task.assignedAgent = some agentId

/-- The task has at most one open row, and one of an agent only if it runs under it. -/
def RowsFollow (store : Store) (taskId : Int) : Prop :=
  store.taskAssignments.countP (fun row => decide (OpenRow taskId row)) ≤ 1 ∧
    ∀ row ∈ store.taskAssignments, OpenRow taskId row → store.RunsUnder taskId row.agentId

def NoOpenRow (store : Store) (taskId : Int) : Prop :=
  ∀ row ∈ store.taskAssignments, ¬ OpenRow taskId row

/-- The call comes in time for the task: it inserts a row of the task only while the task
runs under that agent and has no open row, and it requeues the task only then too. -/
def InTime (store : Store) (taskId : Int) : MongoCall → Prop
  | .taskAssignmentsInsertOne row => row.taskId = taskId →
      store.RunsUnder taskId row.agentId ∧ store.NoOpenRow taskId
  | .tasksUpdateMany filter _ =>
      (∃ task, store.task taskId = some task ∧ filter.matches task = true) →
        store.NoOpenRow taskId
  | .tasksUpdateOne filter set => filter.taskId = some taskId → set.state = some .queued →
      store.NoOpenRow taskId
  | _ => True

end Store

/-- The next call of some thread closes the rows of the task. -/
def CallPool.Closing (pool : CallPool) (taskId : Int) : Prop :=
  ∃ thread set next,
    pool.threads thread = some (.call (.taskAssignmentsUpdateMany { taskId := some taskId } set) next)

/-- The call of the step comes in time for every task, except that the open rows of a task
do not matter when another call is about to close them. -/
def CallStep.InTime (pool : CallPool) : CallStep → Prop
  | .start _ _ => True
  | .call thread _ => ∀ call next, pool.threads thread = some (.call call next) →
      ∀ taskId, pool.Closing taskId ∨ pool.state.InTime taskId call

/-! ## What the programs write -/

section Programs

variable {Result Next : Type}

/-- The next call of the program closes the rows of the task. -/
def ClosesNext (taskId : Int) (program : MongoProgram Result) : Prop :=
  ∃ set next, program = .call (.taskAssignmentsUpdateMany { taskId := some taskId } set) next

/-- An update of one task claims it for an agent, or changes its state by its id. -/
def UpdatesState (call : MongoCall) : Prop :=
  ∀ filter set, call = .tasksUpdateOne filter set →
    (∃ now agentId taskId, filter = assignFilter taskId ∧ set = assignSet now agentId) ∨
      ∃ taskId state, filter = { taskId := some taskId } ∧ set.state = some state ∧
        set.assignedAgent = none

/-- The call moves the task to a final state. -/
def Finishes (taskId : Int) (call : MongoCall) : Prop :=
  ∃ set state, call = .tasksUpdateOne { taskId := some taskId } set ∧ set.state = some state ∧
    state.terminal = true

/-- Whenever the program finishes a task, it closes the rows of the task next. -/
def Tidy : MongoProgram Result → Prop
  | .done _ => True
  | .raise _ => True
  | .call request next => UpdatesState request ∧ ∀ reply,
      (∀ taskId, Finishes taskId request → ClosesNext taskId (next reply)) ∧ Tidy (next reply)

theorem ClosesNext.bind {taskId : Int} {program : MongoProgram Result}
    (closes : ClosesNext taskId program) (after : Result → MongoProgram Next) :
    ClosesNext taskId (program >>= after) := by
  obtain ⟨set, next, rfl⟩ := closes
  exact ⟨set, fun reply => next reply >>= after, rfl⟩

theorem Tidy.bind {program : MongoProgram Result} {after : Result → MongoProgram Next}
    (tidy : Tidy program) (rest : ∀ result, Tidy (after result)) : Tidy (program >>= after) := by
  induction program with
  | done result => exact rest result
  | raise error => trivial
  | call request next ih =>
      refine ⟨tidy.1, fun reply => ⟨fun taskId finishes => ?_, ih reply (tidy.2 reply).2⟩⟩
      exact ((tidy.2 reply).1 taskId finishes).bind after

/-- A program that finishes no task is tidy. -/
theorem Tidy.of_issues {program : MongoProgram Result} {allowed : MongoCall → Prop}
    (issues : program.Issues allowed) (updates : ∀ call, allowed call → UpdatesState call)
    (spares : ∀ call, allowed call → ∀ taskId, ¬ Finishes taskId call) : Tidy program := by
  induction program with
  | done result => trivial
  | raise error => trivial
  | call request next ih =>
      refine ⟨updates request issues.1, fun reply => ⟨?_, ih reply (issues.2 reply)⟩⟩
      exact fun taskId finishes => absurd finishes (spares request issues.1 taskId)

theorem updatesState_of_none {call : MongoCall} (quiet : call.taskUpdate = none) :
    UpdatesState call := by
  rintro filter set rfl
  cases quiet

theorem not_finishes_of_none {call : MongoCall} (quiet : call.taskUpdate = none) (taskId : Int) :
    ¬ Finishes taskId call := by
  rintro ⟨set, state, rfl, _⟩
  cases quiet

/-- A call that changes no task, followed by a tidy program. -/
theorem Tidy.quiet {call : MongoCall} {next : call.Reply → MongoProgram Result}
    (quiet : call.taskUpdate = none) (rest : ∀ reply, Tidy (next reply)) :
    Tidy (issue call >>= next) :=
  ⟨updatesState_of_none quiet, fun reply =>
    ⟨fun taskId finishes => absurd finishes (not_finishes_of_none quiet taskId), rest reply⟩⟩

theorem tidy_createTask (attempt : Attempt) (task : TaskInput) :
    Tidy (createTaskNoTransaction attempt task) :=
  .of_issues (createTaskNoTransaction_issues attempt task)
    (fun _ leaves => updatesState_of_none leaves) fun _ leaves => not_finishes_of_none leaves

theorem tidy_poll (attempt : Attempt) (agentId : String) (freeSlots : Int) :
    Tidy (pollTasksForAgentNoTransaction attempt agentId freeSlots) := by
  refine .of_issues (pollTasksForAgentNoTransaction_issues attempt agentId freeSlots) ?_ ?_
  · rintro call claims filter set rfl
    obtain ⟨now, taskId, isFilter, isSet⟩ := claims filter set rfl
    exact .inl ⟨now, agentId, taskId, isFilter, isSet⟩
  · rintro call claims taskId ⟨set, state, rfl, isState, isOver⟩
    obtain ⟨now, other, _, rfl⟩ := claims _ set rfl
    cases isState
    cases isOver

/-- The call changes no task, or returns those of an agent to the queue. -/
def RequeuesMany (call : MongoCall) : Prop :=
  call.taskUpdate = none ∨ ∃ agentId, call = .tasksUpdateMany (activeTasksOf agentId) requeueSet

theorem requeueLoop_requeuesMany (now : Time) (agentIds : List String) :
    (requeueLoop now agentIds).Issues RequeuesMany := by
  induction agentIds with
  | nil => trivial
  | cons agentId agentIds ih =>
      exact .perform (.inl rfl) fun _ => .perform (.inl rfl) fun _ =>
        .perform (.inr ⟨agentId, rfl⟩) fun _ => ih

theorem tidy_sweep (attempt : Attempt) (offlineAfterSec : Int) :
    Tidy (markOfflineAgentsAndRequeueNoTransaction attempt offlineAfterSec) := by
  refine .quiet rfl fun candidates => ?_
  dsimp only
  split
  · trivial
  · refine Tidy.bind (.of_issues (requeueLoop_requeuesMany attempt.later _) ?_ ?_) fun _ => trivial
    · rintro call (quiet | ⟨agentId, rfl⟩)
      · exact updatesState_of_none quiet
      · rintro filter set ⟨⟩
    · rintro call (quiet | ⟨agentId, rfl⟩) taskId
      · exact not_finishes_of_none quiet taskId
      · rintro ⟨set, state, ⟨⟩, _⟩

/-- An update of the state of a task, after which its rows are closed if it is over. -/
theorem Tidy.updateState {taskId : Int} {set : TaskSet} {state : TaskState}
    {next : UpdateResult → MongoProgram Result} (isState : set.state = some state)
    (keepsAgent : set.assignedAgent = none) (rest : ∀ result, Tidy (next result))
    (closes : state.terminal = true → ∀ result, ClosesNext taskId (next result)) :
    Tidy (issue (.tasksUpdateOne { taskId := some taskId } set) >>= next) := by
  refine ⟨?_, fun result => ⟨?_, rest result⟩⟩
  · rintro filter other ⟨⟩
    exact .inr ⟨taskId, state, rfl, isState, keepsAgent⟩
  · rintro other ⟨sameSet, final, sameCall, isFinal, isOver⟩
    cases sameCall
    rw [isState, Option.some_inj] at isFinal
    exact closes (isFinal ▸ isOver) result

theorem tidy_updateTaskStatus (attempt : Attempt) (taskId : Int) (update : TaskStatusUpdate) :
    Tidy (updateTaskStatusNoTransaction attempt taskId update) := by
  refine .quiet rfl fun found => ?_
  cases found with
  | none => trivial
  | some current =>
      refine .updateState rfl rfl (fun result => ?_) fun isOver result => ?_
      · split
        · exact .quiet rfl fun _ => trivial
        · trivial
      · rw [if_pos isOver]
        exact ⟨_, _, rfl⟩

theorem tidy_cancelTask (attempt : Attempt) (taskId : Int) :
    Tidy (cancelTaskNoTransaction attempt taskId) := by
  refine .quiet rfl fun found => ?_
  cases found with
  | none => trivial
  | some current =>
      dsimp only
      split
      · trivial
      · exact .updateState rfl rfl (fun _ => .quiet rfl fun _ => trivial) fun _ _ => ⟨_, _, rfl⟩

theorem tidy_guarded (attempt : Attempt) (operation : Operation) :
    Tidy (operation.guarded attempt) := by
  cases operation with
  | createTask task => exact (tidy_createTask attempt task).bind fun _ => trivial
  | pollTasksForAgent agentId freeSlots =>
      exact (tidy_poll attempt agentId freeSlots).bind fun _ => trivial
  | cancelTask taskId => exact (tidy_cancelTask attempt taskId).bind fun _ => trivial
  | markOfflineAgentsAndRequeue offlineAfterSec =>
      exact (tidy_sweep attempt offlineAfterSec).bind fun _ => trivial
  | updateTaskStatus taskId update =>
      refine Tidy.bind (.quiet rfl fun found => ?_) fun _ => trivial
      cases found with
      | none => trivial
      | some current =>
          dsimp only
          split
          · exact tidy_updateTaskStatus attempt taskId update
          · trivial

end Programs

/-! ## What one call does to the rows of a task -/

namespace Store

theorem NoOpenRow.rowsFollow {store : Store} {taskId : Int} (none : store.NoOpenRow taskId) :
    store.RowsFollow taskId := by
  constructor
  · rw [List.countP_eq_zero.mpr]
    · exact Nat.zero_le 1
    · intro row member
      simpa using none row member
  · exact fun row member isOpen => absurd isOpen (none row member)

/-- The rows and the running tasks are kept. -/
theorem RowsFollow.keep {before after : Store} {taskId : Int} (follow : before.RowsFollow taskId)
    (rows : after.taskAssignments = before.taskAssignments)
    (runs : ∀ agentId, before.RunsUnder taskId agentId → after.RunsUnder taskId agentId) :
    after.RowsFollow taskId := by
  unfold RowsFollow
  rw [rows]
  exact ⟨follow.1, fun row member isOpen => runs row.agentId (follow.2 row member isOpen)⟩

theorem NoOpenRow.keep {before after : Store} {taskId : Int} (none : before.NoOpenRow taskId)
    (rows : after.taskAssignments = before.taskAssignments) : after.NoOpenRow taskId := by
  unfold NoOpenRow
  rw [rows]
  exact none

theorem RowsFollow.insert {store : Store} {taskId : Int} (follow : store.RowsFollow taskId)
    {row : AssignmentRow} (inTime : row.taskId = taskId →
      store.RunsUnder taskId row.agentId ∧ store.NoOpenRow taskId) :
    (store.insertAssignment row).RowsFollow taskId := by
  by_cases isOpen : OpenRow taskId row
  · obtain ⟨runs, none⟩ := inTime isOpen.1
    constructor
    · have noneBefore : store.taskAssignments.countP (fun row => decide (OpenRow taskId row)) = 0 :=
        List.countP_eq_zero.mpr fun other member => by simpa using none other member
      simp [insertAssignment, noneBefore, isOpen]
    · intro other member otherOpen
      rcases List.mem_append.mp member with old | new
      · exact absurd otherOpen (none other old)
      · rw [List.mem_singleton.mp new]
        exact runs
  · constructor
    · simpa [insertAssignment, isOpen] using follow.1
    · intro other member otherOpen
      rcases List.mem_append.mp member with old | new
      · exact follow.2 other old otherOpen
      · rw [List.mem_singleton.mp new] at otherOpen
        exact absurd otherOpen isOpen

/-- A row that is open after an update was open before, and was not updated. -/
theorem openRow_of_applied {filter : AssignmentFilter} {set : AssignmentSet} {taskId : Int}
    {row : AssignmentRow}
    (isOpen : OpenRow taskId (if filter.matches row then set.apply row else row)) :
    OpenRow taskId row ∧ filter.matches row = false ∧
      (if filter.matches row then set.apply row else row) = row := by
  by_cases hit : filter.matches row = true
  · rw [if_pos hit] at isOpen
    exact absurd isOpen.2 (by simp [AssignmentSet.apply])
  · rw [if_neg hit] at isOpen ⊢
    exact ⟨isOpen, by simpa using hit, rfl⟩

theorem RowsFollow.close {store : Store} {taskId : Int} (follow : store.RowsFollow taskId)
    (filter : AssignmentFilter) (set : AssignmentSet) :
    (store.updateAssignments filter.matches set.apply).RowsFollow taskId := by
  constructor
  · refine le_trans ?_ follow.1
    simp only [updateAssignments, List.countP_map]
    apply List.countP_mono_left
    intro row _ isOpen
    exact decide_eq_true (openRow_of_applied (of_decide_eq_true isOpen)).1
  · intro row member isOpen
    obtain ⟨old, oldMember, rfl⟩ := List.mem_map.mp member
    obtain ⟨oldOpen, _, same⟩ := openRow_of_applied isOpen
    rw [same]
    exact follow.2 old oldMember oldOpen

theorem noOpenRow_close (store : Store) (taskId : Int) (set : AssignmentSet) :
    (store.updateAssignments (AssignmentFilter.matches { taskId := some taskId })
      set.apply).NoOpenRow taskId := by
  intro row member isOpen
  obtain ⟨old, _, rfl⟩ := List.mem_map.mp member
  obtain ⟨⟨sameTask, unassigned⟩, missed, _⟩ := openRow_of_applied isOpen
  simp [AssignmentFilter.matches, sameTask, unassigned] at missed

/-- A call that does not update the task leaves it running. -/
theorem RunsUnder.exec {store : Store} {taskId : Int} {agentId : String}
    (runs : store.RunsUnder taskId agentId) (rank : Int → Nat) {call : MongoCall}
    (updates : ∀ filter set task, call.taskUpdate = some (filter, set) →
      store.task taskId = some task → filter.matches task = true →
        (set.apply task).state = .running ∧ (set.apply task).assignedAgent = task.assignedAgent) :
    (call.exec rank store).2.RunsUnder taskId agentId := by
  obtain ⟨task, found, running, assigned⟩ := runs
  rcases task_exec rank call found with same | ⟨filter, set, isUpdate, hit, updated⟩
  · exact ⟨task, same, running, assigned⟩
  · obtain ⟨stays, keeps⟩ := updates filter set task isUpdate found hit
    exact ⟨_, updated, stays, keeps.trans assigned⟩

theorem RowsFollow.updateOne {store : Store} {taskId : Int} (follow : store.RowsFollow taskId)
    {filter : TaskFilter} {set : TaskSet} (updates : UpdatesState (.tasksUpdateOne filter set))
    (inTime : store.InTime taskId (.tasksUpdateOne filter set)) (rank : Int → Nat) :
    (MongoCall.exec rank (.tasksUpdateOne filter set) store).2.RowsFollow taskId ∨
      Finishes taskId (.tasksUpdateOne filter set) := by
  have rows : (MongoCall.exec rank (.tasksUpdateOne filter set) store).2.taskAssignments =
      store.taskAssignments := by
    simp only [MongoCall.exec]
    split <;> rfl
  rcases updates filter set rfl with ⟨now, agentId, other, rfl, rfl⟩ |
    ⟨other, state, rfl, isState, keepsAgent⟩
  · -- a claim finds only tasks that are queued
    refine .inl (follow.keep rows fun holder runs => ?_)
    obtain ⟨running, found, isRunning, _⟩ := runs
    refine RunsUnder.exec ⟨running, found, isRunning, by assumption⟩ rank ?_
    rintro _ _ task ⟨⟩ taskFound hit
    rw [found, Option.some_inj] at taskFound
    subst taskFound
    simp [assignFilter, TaskFilter.matches, isRunning] at hit
  · by_cases same : other = taskId
    · subst same
      cases state with
      | running =>
          refine .inl (follow.keep rows fun holder runs => runs.exec rank ?_)
          rintro _ _ task ⟨⟩ _ _
          exact ⟨by simp [TaskSet.apply, isState], by simp [TaskSet.apply, keepsAgent]⟩
      | queued => exact .inl ((inTime rfl isState).keep rows).rowsFollow
      | succeeded => exact .inr ⟨set, _, rfl, isState, rfl⟩
      | failed => exact .inr ⟨set, _, rfl, isState, rfl⟩
      | canceled => exact .inr ⟨set, _, rfl, isState, rfl⟩
    · refine .inl (follow.keep rows fun holder runs => runs.exec rank ?_)
      rintro _ _ task ⟨⟩ taskFound hit
      have isTask : task.taskId = taskId := KeyedTable.key_of_lookup taskFound
      have isOther : task.taskId = other := by simpa [TaskFilter.matches] using hit
      exact absurd (isOther.symm.trans isTask) same

/-- A call that comes in time keeps the rows of a task in step with it, or finishes it. -/
theorem RowsFollow.exec {store : Store} {taskId : Int} (follow : store.RowsFollow taskId)
    {call : MongoCall} (updates : UpdatesState call) (inTime : store.InTime taskId call)
    (rank : Int → Nat) :
    (call.exec rank store).2.RowsFollow taskId ∨ Finishes taskId call := by
  have quiet : call.taskUpdate = none →
      (call.exec rank store).2.taskAssignments = store.taskAssignments →
        (call.exec rank store).2.RowsFollow taskId := fun leaves rows =>
    follow.keep rows fun agentId runs => runs.exec rank fun filter set task isUpdate => by
      rw [leaves] at isUpdate
      cases isUpdate
  cases call with
  | tasksUpdateOne filter set => exact follow.updateOne updates inTime rank
  | tasksUpdateMany filter set =>
      refine .inl ?_
      by_cases hit : ∃ task, store.task taskId = some task ∧ filter.matches task = true
      · apply NoOpenRow.rowsFollow
        exact inTime hit
      · refine follow.keep rfl fun agentId runs => runs.exec rank ?_
        rintro _ _ task ⟨⟩ found isHit
        exact absurd ⟨task, found, isHit⟩ hit
  | taskAssignmentsInsertOne row => exact .inl (follow.insert inTime)
  | taskAssignmentsUpdateMany filter set => exact .inl (follow.close filter set)
  | agentsFindOne agentId => exact .inl (quiet rfl rfl)
  | agentsFind filter => exact .inl (quiet rfl rfl)
  | agentsFindPage status limit skip => exact .inl (quiet rfl rfl)
  | agentsUpdateOne agentId set =>
      refine .inl (quiet rfl ?_)
      simp only [MongoCall.exec]
      split <;> rfl
  | agentsUpsertOne agent =>
      exact .inl (quiet rfl (taskAssignments_upsertAgent store agent _ _))
  | tasksFindOne other => exact .inl (quiet rfl rfl)
  | tasksFind filter limit => exact .inl (quiet rfl rfl)
  | tasksFindPage filter limit skip => exact .inl (quiet rfl rfl)
  | tasksInsertOne row =>
      refine .inl (quiet rfl ?_)
      simp only [MongoCall.exec]
      split <;> rfl
  | countersFindOneAndUpdate =>
      refine .inl (quiet rfl ?_)
      simp only [MongoCall.exec]
      split <;> rfl

end Store

/-! ## Runs -/

/-- Every thread is tidy, and the rows of every task follow it or are closed next. -/
structure CallPool.Kept (pool : CallPool) : Prop where
  tidy : ∀ thread program, pool.threads thread = some program → Tidy program
  rows : ∀ taskId, pool.Closing taskId ∨ pool.state.RowsFollow taskId

section Runs

variable {operation : Nat → Operation} {pool : CallPool}

theorem CallPool.Kept.start (kept : pool.Kept) (thread : Nat) (attempt : Attempt) :
    CallPool.Kept (callStep operation pool (.start thread attempt)) := by
  have fresh : Tidy ((operation thread).guarded attempt) := tidy_guarded attempt (operation thread)
  simp only [callStep, CallStep.action, ThreadPool.step]
  split
  · exact kept
  · rename_i idle
    constructor
    · intro other program found
      by_cases same : other = thread
      · subst same
        have isProgram : (operation other).guarded attempt = program := by simpa using found
        exact isProgram ▸ fresh
      · exact kept.tidy other program (by simpa [same] using found)
    · intro taskId
      rcases kept.rows taskId with ⟨closer, set, next, found⟩ | follow
      · have different : closer ≠ thread := by
          rintro rfl
          exact idle _ _ found
        exact .inl ⟨closer, set, next, by simpa [different] using found⟩
      · exact .inr follow

/-- What a call of a thread does, given what the thread continues with. -/
theorem CallPool.Kept.advance (kept : pool.Kept) {thread : Nat} {call : MongoCall}
    {next : call.Reply → MongoProgram OperationResult}
    (found : pool.threads thread = some (.call call next))
    (inTime : ∀ taskId, pool.Closing taskId ∨ pool.state.InTime taskId call) (rank : Int → Nat)
    {program : MongoProgram OperationResult} (tidy : Tidy program)
    (closes : ∀ taskId, Finishes taskId call → ClosesNext taskId program) :
    CallPool.Kept
      { state := (call.exec rank pool.state).2
        threads := Function.update pool.threads thread (some program) } := by
  have isTidy := kept.tidy thread _ found
  constructor
  · intro other otherProgram otherFound
    by_cases same : other = thread
    · subst same
      have isProgram : program = otherProgram := by simpa using otherFound
      exact isProgram ▸ tidy
    · exact kept.tidy other otherProgram (by simpa [same] using otherFound)
  · intro taskId
    by_cases others : ∃ closer set next, closer ≠ thread ∧ pool.threads closer =
        some (.call (.taskAssignmentsUpdateMany { taskId := some taskId } set) next)
    · obtain ⟨closer, set, rest, different, closing⟩ := others
      exact .inl ⟨closer, set, rest, by simpa [different] using closing⟩
    · have onlyHere : pool.Closing taskId →
          ∃ set, call = .taskAssignmentsUpdateMany { taskId := some taskId } set := by
        rintro ⟨closer, set, rest, closing⟩
        by_cases same : closer = thread
        · subst same
          rw [found] at closing
          cases closing
          exact ⟨set, rfl⟩
        · exact absurd ⟨closer, set, rest, same, closing⟩ others
      by_cases closesHere : ∃ set, call = .taskAssignmentsUpdateMany { taskId := some taskId } set
      · obtain ⟨set, rfl⟩ := closesHere
        exact .inr (Store.noOpenRow_close pool.state taskId set).rowsFollow
      · have follow := (kept.rows taskId).resolve_left (fun closing => closesHere (onlyHere closing))
        have timely := (inTime taskId).resolve_left (fun closing => closesHere (onlyHere closing))
        rcases follow.exec isTidy.1 timely rank with followNow | finishes
        · exact .inr followNow
        · obtain ⟨set, rest, isProgram⟩ := closes taskId finishes
          exact .inl ⟨thread, set, rest, by simp [isProgram]⟩

/-- One step in time keeps the pool. -/
theorem CallPool.Kept.step (kept : pool.Kept) {step : CallStep} (inTime : step.InTime pool) :
    CallPool.Kept (callStep operation pool step) := by
  cases step with
  | start thread attempt => exact kept.start thread attempt
  | call thread rank =>
      simp only [callStep, CallStep.action, ThreadPool.step]
      split
      · rename_i call next found
        have isTidy := kept.tidy thread _ found
        have timely := inTime call next found
        split
        · rename_i reply after ended
          have advanced := kept.advance found timely rank (isTidy.2 reply).2 (isTidy.2 reply).1
          rwa [show (call.exec rank pool.state).2 = after from congrArg Prod.snd ended] at advanced
        · rename_i error after ended
          have closes : ∀ taskId, Finishes taskId call →
              ClosesNext taskId (.raise error : MongoProgram OperationResult) := by
            rintro taskId ⟨set, state, rfl, _⟩
            simp only [callDriver, MongoCall.exec] at ended
            split at ended <;> cases ended
          have stopped : Tidy (.raise error : MongoProgram OperationResult) := trivial
          have advanced := kept.advance found timely rank stopped closes
          rwa [show (call.exec rank pool.state).2 = after from congrArg Prod.snd ended] at advanced
      · exact kept

theorem CallPool.kept_idle {store : Store} (follow : ∀ taskId, store.RowsFollow taskId) :
    CallPool.Kept (.idle store) where
  tidy := by
    intro thread program found
    cases found
  rows taskId := .inr (follow taskId)

theorem callRun_kept {store : Store} (follow : ∀ taskId, store.RowsFollow taskId)
    {steps : List CallStep}
    (inTime : Along (callStep operation) CallStep.InTime (.idle store) steps) :
    (callRun operation store steps).Kept := by
  have preserved : ∀ (pool : CallPool) (step : CallStep), step.InTime pool → pool.Kept →
      CallPool.Kept (callStep operation pool step) := fun _ _ timely kept => kept.step timely
  exact run_invariant_along (callStep operation) preserved (CallPool.kept_idle follow) inTime

end Runs

/-- When every call comes in time and none is left to make, the rows follow the tasks. -/
theorem rows_follow_when_inTime (operation : Nat → Operation) (store : Store)
    (follow : ∀ taskId, store.RowsFollow taskId) (steps : List CallStep)
    (inTime : Along (callStep operation) CallStep.InTime (.idle store) steps)
    (finished : ∀ thread, ¬ (callRun operation store steps).Running thread) (taskId : Int) :
    (callRun operation store steps).state.RowsFollow taskId := by
  rcases (callRun_kept follow inTime).rows taskId with ⟨thread, set, next, found⟩ | settled
  · exact absurd ⟨_, next, found⟩ (finished thread)
  · exact settled

/-- A deployment with one agent and one task waiting. -/
def oneWaiting : Store :=
  run (masterStep .mongoStandalone {}) Store.empty (firstPoll .mongoStandalone).dropLast

/-- An agent polls while a client cancels the task. -/
def pollAndCancel : Nat → Operation
  | 0 => .pollTasksForAgent "agent-1" 1
  | _ => .cancelTask 1

/-- A thread makes some calls. -/
def callsOf (thread count : Nat) : List CallStep :=
  List.replicate count (.call thread fun _ => 0)

/-- The cancel reads the task before the poll claims it, and writes when the poll is over. -/
def cancelAround : List CallStep :=
  .start 0 { now := 2000 } :: callsOf 0 3 ++ .start 1 { now := 2000 } :: callsOf 1 1 ++
    callsOf 0 3 ++ callsOf 1 2

theorem rowsFollow_oneWaiting (taskId : Int) : oneWaiting.RowsFollow taskId := by
  apply Store.NoOpenRow.rowsFollow
  intro row member
  cases member

theorem inTime_cancelAround :
    Along (callStep pollAndCancel) CallStep.InTime (.idle oneWaiting) cancelAround := by
  refine ⟨trivial, ?_, ?_, ?_, trivial, ?_, ?_, ?_, ?_, ?_, ?_, trivial⟩
  all_goals rintro call next found taskId; cases found
  · exact .inr trivial
  · exact .inr trivial
  · exact .inr trivial
  · exact .inr trivial
  · refine .inr ?_
    rintro _ ⟨⟩
  · refine .inr fun sameTask => ?_
    subst sameTask
    refine ⟨⟨_, rfl, rfl, rfl⟩, ?_⟩
    intro row member
    cases member
  · exact .inr trivial
  · refine .inr ?_
    rintro _ ⟨⟩
  · exact .inr trivial

theorem finished_cancelAround (thread : Nat) :
    ¬ (callRun pollAndCancel oneWaiting cancelAround).Running thread := by
  rintro ⟨request, next, found⟩
  match thread with
  | 0 => cases found
  | 1 => cases found
  | _ + 2 => cases found

theorem rows_follow_when_inTime_cancelAround :
    (callRun pollAndCancel oneWaiting cancelAround).state.RowsFollow 1 :=
  rows_follow_when_inTime pollAndCancel oneWaiting rowsFollow_oneWaiting cancelAround
    inTime_cancelAround finished_cancelAround 1

/-- The poll has claimed the task when the cancel starts, and inserts the row when the
cancel is over. -/
def cancelBetween : List CallStep :=
  .start 0 { now := 2000 } :: callsOf 0 4 ++ .start 1 { now := 3000 } :: callsOf 1 3 ++ callsOf 0 2

theorem canceled_task_keeps_open_row :
    (∀ taskId, oneWaiting.RowsFollow taskId) ∧
      (∀ thread, ¬ (callRun pollAndCancel oneWaiting cancelBetween).Running thread) ∧
      ¬ (callRun pollAndCancel oneWaiting cancelBetween).state.RowsFollow 1 := by
  refine ⟨fun taskId => Store.NoOpenRow.rowsFollow ?_, ?_, ?_⟩
  · intro row member
    cases member
  · rintro thread ⟨request, next, found⟩
    match thread with
    | 0 => cases found
    | 1 => cases found
    | _ + 2 => cases found
  · rintro ⟨_, follow⟩
    obtain ⟨task, found, running, _⟩ := follow _ (List.mem_singleton.mpr rfl) ⟨rfl, rfl⟩
    cases found
    cases running

end DistributedComputing
