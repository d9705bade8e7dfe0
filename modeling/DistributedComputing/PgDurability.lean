import DistributedComputing.PgInterleaving

/-!
# What interleaved transactions never lose

Agents stay registered, tasks keep their submissions, and the assignments keep their place
with their task, agent and time, however the transactions of the PostgreSQL broker mix.
-/

namespace DistributedComputing

open TransitionRuns PgSessions RowEngine

namespace PgSessions

/-! ## The transactions -/

section Transactions

variable {id : Nat} (attempt : Attempt)

/-- All that a transaction commits keeps what is recorded. -/
abbrev CommitsKeep (id : Nat) {Result : Type} (program : PgProgram Result) : Prop :=
  pgEngine.Triple (pgEngine.AppliesOnly fun _ : Nat => RowChange.Keeps) id (fun _ => True)
    program fun _ _ => True

theorem commitsKeep_upsertAgent (agent : AgentInput) :
    CommitsKeep id (upsertAgent attempt agent) := by
  refine triple_transaction (.perform trivial fun _ => ?_)
  exact .perform trivial fun _ => .perform trivial fun _ => trivial

theorem commitsKeep_updateHeartbeat (heartbeat : AgentHeartbeat) :
    CommitsKeep id (updateHeartbeat attempt heartbeat) := by
  refine triple_transaction (.bind (keepsRows_updateAgent _ _ _) fun affected => ?_)
  split
  · exact .perform trivial fun _ => trivial
  · exact .perform trivial fun _ => trivial

theorem commitsKeep_createTask (task : TaskInput) :
    CommitsKeep id (createTask attempt task) := by
  refine triple_transaction ?_
  split
  · exact keepsRows_abort _
  · refine .perform trivial fun taskId => .perform trivial fun current => ?_
    split
    · exact keepsRows_abort _
    · exact .perform trivial fun _ => .perform trivial fun _ => trivial

theorem commitsKeep_pollTasksForAgent (agentId : String) (freeSlots : Int) :
    CommitsKeep id (pollTasksForAgent attempt agentId freeSlots) := by
  refine triple_transaction (.perform trivial fun snapshot => ?_)
  cases Store.agent snapshot agentId with
  | none => exact .perform trivial fun _ => trivial
  | some agent =>
      refine .bind (keepsRows_updateAgent _ _ _) fun _ => ?_
      split
      · exact .perform trivial fun _ => trivial
      · refine .perform trivial fun seen => ?_
        dsimp only
        split
        · exact keepsRows_abort _
        · refine .bind (keepsRows_lockFitting _ _ _) fun dispatches => ?_
          refine .bind (keepsRows_assignAll _ _ _) fun _ => ?_
          refine .bind (keepsRows_updateAgent _ _ _) fun _ => ?_
          exact .perform trivial fun _ => trivial

theorem commitsKeep_updateTaskStatus (timestamptz : Time → String → Option Time) (taskId : Int)
    (update : TaskStatusUpdate) :
    CommitsKeep id (updateTaskStatus timestamptz attempt taskId update) := by
  refine triple_transaction ?_
  split
  · exact keepsRows_abort _
  · exact keepsRows_abort _
  · refine .bind (keepsRows_updateTasks _ fun _ => rfl) fun affected => ?_
    split
    · exact .perform trivial fun _ => trivial
    · refine .bind ?_ fun _ => .perform trivial fun _ => trivial
      unfold reportAssignments
      split
      · exact keepsRows_updateAssignments _ fun _ => rfl
      · trivial

theorem commitsKeep_cancelTask (taskId : Int) : CommitsKeep id (cancelTask attempt taskId) := by
  refine triple_transaction (.perform trivial fun snapshot => ?_)
  cases Store.task snapshot taskId with
  | none => exact .perform trivial fun _ => trivial
  | some row =>
      dsimp only
      split
      · exact .perform trivial fun _ => trivial
      · refine .bind (keepsRows_updateTasks _ fun _ => rfl) fun _ => ?_
        refine .bind (keepsRows_updateAssignments _ fun _ => rfl) fun _ => ?_
        exact .perform trivial fun _ => trivial

theorem commitsKeep_markOfflineAgentsAndRequeue (offlineAfterSec : Int) :
    CommitsKeep id (markOfflineAgentsAndRequeue attempt offlineAfterSec) := by
  refine triple_transaction (.perform trivial fun snapshot => ?_)
  refine .bind (keepsRows_lockStale _ _ _) fun agentIds => ?_
  split
  · exact .perform trivial fun _ => trivial
  · refine .bind (keepsRows_takeAllOffline _ _) fun _ => ?_
    exact .perform trivial fun _ => trivial

theorem commitsKeep_program (timestamptz : Time → String → Option Time)
    (operation : PgOperation) : CommitsKeep id (operation.program timestamptz attempt) := by
  cases operation with
  | upsertAgent agent =>
      exact .bind (commitsKeep_upsertAgent attempt agent) fun _ => .done fun _ _ => trivial
  | updateHeartbeat heartbeat =>
      exact .bind (commitsKeep_updateHeartbeat attempt heartbeat) fun _ =>
        .done fun _ _ => trivial
  | createTask task =>
      exact .bind (commitsKeep_createTask attempt task) fun _ => .done fun _ _ => trivial
  | pollTasksForAgent agentId freeSlots =>
      exact .bind (commitsKeep_pollTasksForAgent attempt agentId freeSlots) fun _ =>
        .done fun _ _ => trivial
  | updateTaskStatus taskId update =>
      exact .bind (commitsKeep_updateTaskStatus attempt timestamptz taskId update) fun _ =>
        .done fun _ _ => trivial
  | cancelTask taskId =>
      exact .bind (commitsKeep_cancelTask attempt taskId) fun _ => .done fun _ _ => trivial
  | markOfflineAgentsAndRequeue offlineAfterSec =>
      exact .bind (commitsKeep_markOfflineAgentsAndRequeue attempt offlineAfterSec) fun _ =>
        .done fun _ _ => trivial

end Transactions

end PgSessions

/-! ## Runs -/

theorem preserves_retains (store : Store) :
    pgEngine.Preserves (pgEngine.AppliesOnly fun _ : Nat => RowChange.Keeps) store.Retains :=
  preserves_appliesOnly pgEngine (fun _ _ _ drawn kept => kept.trans (retains_nextval drawn))
    fun _ _ keeps _ kept => kept.trans (RowChange.retains_apply keeps _)

theorem retains_of_trail {start final : Store} {commits : List (Commit Nat Store)}
    (trail : pgEngine.Trail (pgEngine.AppliesOnly fun _ : Nat => RowChange.Keeps) start commits
      final) : start.Retains final :=
  (preserves_retains start).of_trail pgEngine trail (.refl start)

section Runs

variable (timestamptz : Time → String → Option Time) (operation : Nat → PgOperation)

abbrev keepContract (store : Store) : ThreadPool.Contract Nat (SessionCall RowKey RowChange)
    (SessionCall.Reply Store Int) DbError (Sessions Nat Store RowKey RowChange)
    (CallFault DbError) Empty Empty PgResult :=
  pgEngine.contract (pgEngine.AppliesOnly fun _ => RowChange.Keeps) store
    (fun id program => ∃ attempt, program = (operation id).program timestamptz attempt)
    fun _ _ _ => True

theorem keepContract_fits (store : Store) : (keepContract timestamptz operation store).Fits := by
  refine contract_fits (fun _ _ _ _ _ _ => trivial) (preserves_retains store) (.refl store) ?_
  rintro id program ⟨attempt, rfl⟩
  exact (commitsKeep_program attempt timestamptz (operation id)).imp (fun _ _ => trivial)
    fun _ _ _ => trivial

theorem pgRun_keepSafe (store : Store) (steps : List SessionStep) :
    (keepContract timestamptz operation store).AllSafe
      (pgRun timestamptz operation store steps) := by
  have fits := keepContract_fits timestamptz operation store
  refine (ThreadPool.Contract.allSafe_idle _ contract_idle).run fits ?_
  rw [along_iff]
  intro before action after split
  have member : action ∈ steps.map (SessionStep.action timestamptz operation) := by simp [split]
  obtain ⟨step, _, rfl⟩ := List.mem_map.mp member
  cases step with
  | start id attempt => exact ⟨attempt, rfl⟩
  | call id fault => trivial

theorem pgRun_retains_step (store : Store) (steps : List SessionStep) (step : SessionStep) :
    (pgRun timestamptz operation store steps).state.committed.Retains
      (pgRun timestamptz operation store (steps ++ [step])).state.committed := by
  have safe := pgRun_keepSafe timestamptz operation store steps
  have last : pgRun timestamptz operation store (steps ++ [step]) =
      ThreadPool.step pgEngine.service (pgRun timestamptz operation store steps)
        (step.action timestamptz operation) := by
    simp [pgRun, run_append]
  rw [last]
  cases step with
  | start id attempt =>
      rw [SessionStep.action, ThreadPool.step_start_state]
      exact .refl _
  | call id fault =>
      have fits := keepContract_fits timestamptz operation store
      have isPermitted : (keepContract timestamptz operation store).permitted fault := trivial
      rcases safe.call_state fits id isPermitted with same | advances
      · exact same.symm ▸ .refl _
      · exact advances.preserves (preserves_retains _) (.refl _)

/-- What is committed at some time is retained at every later time. -/
theorem retains_later (store : Store) (earlier later : List SessionStep) :
    (pgRun timestamptz operation store earlier).state.committed.Retains
      (pgRun timestamptz operation store (earlier ++ later)).state.committed := by
  induction later generalizing earlier with
  | nil =>
      rw [List.append_nil]
      exact .refl _
  | cons step later ih =>
      have rest := ih (earlier ++ [step])
      rw [List.append_assoc] at rest
      exact (pgRun_retains_step timestamptz operation store earlier step).trans rest

/-- The task was not there before the commit, and is there with its submission after it. -/
def Creates (taskId : Int) (commit : Commit Nat Store) : Prop :=
  commit.before.task taskId = none ∧ ∃ task now, operation commit.session = .createTask task ∧
    PgBroker.jsonbError task = none ∧
    commit.after.task taskId = some (PgBroker.newTask now taskId task)

variable {operation}

theorem creates_of_commitOf {attempt : Attempt} {commit : Commit Nat Store} {taskId : Int}
    (made : CommitOf timestamptz attempt commit.reads (operation commit.session)
      (.created taskId) commit.before commit.after) :
    Creates operation taskId commit := by
  cases isOperation : operation commit.session <;> rw [isOperation] at made <;>
    try exact made.elim
  rename_i task
  obtain ⟨accepted, fresh, bounds, inserted⟩ := made
  refine ⟨fresh, task, attempt.now, isOperation, accepted, ?_⟩
  rw [inserted, Store.task_insertTask]
  exact if_pos rfl

section Trails

variable {store final : Store} {commits : List (Commit Nat Store)}
  (trail : pgEngine.Trail (pgEngine.AppliesOnly fun _ : Nat => RowChange.Keeps) store commits
    final)

include trail

/-- What a commit has created was not there at the start, and stays. -/
theorem Creates.found {commit : Commit Nat Store} (member : commit ∈ commits) {taskId : Int}
    (creates : Creates operation taskId commit) :
    store.task taskId = none ∧ ∃ task now row, operation commit.session = .createTask task ∧
      PgBroker.jsonbError task = none ∧ final.task taskId = some row ∧
      row.submission = (PgBroker.newTask now taskId task).submission := by
  obtain ⟨absent, task, now, isCreate, accepted, found⟩ := creates
  obtain ⟨first, last, split⟩ := List.append_of_mem member
  constructor
  · have kept := retains_of_trail (trail.before pgEngine split)
    cases known : store.task taskId with
    | none => rfl
    | some row =>
        obtain ⟨later, laterFound, _⟩ := kept.tasks taskId row known
        rw [absent] at laterFound
        cases laterFound
  · have kept := retains_of_trail (trail.after pgEngine split)
    obtain ⟨row, rowFound, same⟩ := kept.tasks taskId _ found
    exact ⟨task, now, row, isCreate, accepted, rowFound, same⟩

/-- Two commits do not create the same task. -/
theorem Creates.not_again {first middle last : List (Commit Nat Store)}
    {one two : Commit Nat Store} (split : commits = first ++ one :: middle ++ two :: last)
    {taskId : Int} (creates : Creates operation taskId one) :
    ¬ Creates operation taskId two := by
  rintro ⟨absent, _⟩
  obtain ⟨_, task, now, _, _, found⟩ := creates
  have between := retains_of_trail ((trail.before pgEngine split).after pgEngine rfl)
  obtain ⟨row, rowFound, _⟩ := between.tasks taskId _ found
  rw [absent] at rowFound
  cases rowFound

end Trails

variable (operation)

end Runs

/-- Two submissions. -/
def twoCreates (id : Nat) : PgOperation :=
  .createTask
    { command := if id = 0 then "first" else "second"
      args := .array []
      env := .object []
      timeoutSec := none
      constraints := .object [] }

/-- The first submission has drawn its id when the second one begins, and ends after it. -/
def twoCreatesSteps : List SessionStep :=
  let calls := fun (id count : Nat) => List.replicate count (SessionStep.call id .none)
  .start 0 { now := 0 } :: calls 0 2 ++ .start 1 { now := 0 } :: calls 1 5 ++ calls 0 3

end DistributedComputing
