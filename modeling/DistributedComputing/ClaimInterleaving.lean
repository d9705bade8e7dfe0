import DistributedComputing.MasterRuns
import DistributedComputing.OperationFrames
import DistributedComputing.ThreadPool

/-!
# Interleaved calls without transactions

On a deployment without transactions the calls of concurrent operations mix, and an
update of many documents reaches them one by one.  A history of the updates of tasks
shows that a claimed task is not claimed again before a sweep has returned it.
-/

namespace DistributedComputing

open TransitionRuns CallProgram MongoCall MongoBroker

/-- The operations that run without transactions. -/
inductive Operation
  | createTask (task : TaskInput)
  | pollTasksForAgent (agentId : String) (freeSlots : Int)
  | updateTaskStatus (taskId : Int) (update : TaskStatusUpdate)
  | cancelTask (taskId : Int)
  | markOfflineAgentsAndRequeue (offlineAfterSec : Int)

inductive OperationResult
  | created (taskId : Int)
  | polled (dispatches : Option (List TaskDispatch))
  | updated (found : Bool)
  | canceled (result : CancelTaskResult)
  | requeued (count : Int)

/-- The program of an operation, with the clock readings of an attempt. -/
def Operation.program (attempt : Attempt) : Operation → MongoProgram OperationResult
  | createTask task => do
      let taskId ← createTaskNoTransaction attempt task
      return .created taskId
  | pollTasksForAgent agentId freeSlots => do
      let dispatches ← pollTasksForAgentNoTransaction attempt agentId freeSlots
      return .polled dispatches
  | updateTaskStatus taskId update => do
      let found ← updateTaskStatusNoTransaction attempt taskId update
      return .updated found
  | cancelTask taskId => do
      let result ← cancelTaskNoTransaction attempt taskId
      return .canceled result
  | markOfflineAgentsAndRequeue offlineAfterSec => do
      let count ← markOfflineAgentsAndRequeueNoTransaction attempt offlineAfterSec
      return .requeued count

/-- An update of one task, with the thread that made it. -/
structure TaskWrite where
  thread : Nat
  filter : TaskFilter
  set : TaskSet
  before : TaskRow

/-- The collections, and every update of a task so far. -/
structure Collections where
  store : Store
  writes : List TaskWrite := []

namespace Collections

/-- A call that is one atomic step.  The updates of many documents act through `touch`
alone. -/
def exec (thread : Nat) (rank : Int → Nat) :
    (call : MongoCall) → Collections → Except DbError call.Reply × Collections
  | .tasksUpdateMany _ _, collections => (.ok (), collections)
  | .taskAssignmentsUpdateMany _ _, collections => (.ok (), collections)
  | .tasksUpdateOne filter set, collections =>
      let result := MongoCall.exec rank (.tasksUpdateOne filter set) collections.store
      (result.1,
        { store := result.2
          writes :=
            match collections.store.tasks.rows.find? filter.matches with
            | none => collections.writes
            | some row => collections.writes ++ [⟨thread, filter, set, row⟩] })
  | request, collections =>
      let result := MongoCall.exec rank request collections.store
      (result.1, { collections with store := result.2 })

/-- A document that an update of many documents reaches. -/
inductive Document
  | task (taskId : Int)
  | assignment (position : Nat)

def touch (thread : Nat) : Document → MongoCall → Collections → Collections
  | .task taskId, .tasksUpdateMany filter set, collections =>
      match collections.store.task taskId with
      | none => collections
      | some row =>
          if filter.matches row then
            { store := collections.store.updateTask taskId set.apply set.taskId_apply
              writes := collections.writes ++ [⟨thread, filter, set, row⟩] }
          else collections
  | .assignment position, .taskAssignmentsUpdateMany filter set, collections =>
      { collections with
        store := updateReachedAssignments filter set (fun other => decide (other = position))
          collections.store }
  | _, _, collections => collections

end Collections

/-- The driver as the threads share it; nothing happens but their calls. -/
def driver : Service Nat MongoCall MongoCall.Reply DbError Collections (Int → Nat)
    Collections.Document Empty where
  exec := Collections.exec
  touch := Collections.touch
  external event := event.elim

/-- One step of the concurrent operations. -/
inductive DriverStep
  | start (thread : Nat) (attempt : Attempt)
  | call (thread : Nat) (rank : Int → Nat)
  | touch (thread : Nat) (document : Collections.Document)

abbrev DriverPool :=
  ThreadPool Nat MongoCall MongoCall.Reply DbError Collections OperationResult

section Pool

-- Thread by thread, the operation it performs.
variable (operation : Nat → Operation)

def DriverStep.action : DriverStep →
    PoolAction Nat MongoCall MongoCall.Reply DbError (Int → Nat) Collections.Document Empty
      OperationResult
  | start thread attempt => .start thread ((operation thread).program attempt)
  | call thread rank => .call thread rank
  | touch thread document => .touch thread document

def driverRun (store : Store) (steps : List DriverStep) : DriverPool :=
  run (ThreadPool.step driver) (.idle { store := store })
    (steps.map (DriverStep.action operation))

/-- A poll of the agent changed the task. -/
def Claims (agentId : String) (taskId : Int) (write : TaskWrite) : Prop :=
  (∃ freeSlots, operation write.thread = .pollTasksForAgent agentId freeSlots) ∧
    write.before.taskId = taskId ∧ write.set.modifies write.before = true

/-- A sweep that processed the agent returned the task to the queue without an agent. -/
def RequeuesTask (agentId : String) (taskId : Int) (write : TaskWrite) : Prop :=
  (∃ offlineAfterSec,
      operation write.thread = .markOfflineAgentsAndRequeue offlineAfterSec) ∧
    write.filter = activeTasksOf agentId ∧ write.before.taskId = taskId ∧
    (write.set.apply write.before).state = .queued ∧
    (write.set.apply write.before).assignedAgent = none

/-- What the operation of a thread writes to tasks. -/
def WriteOf (thread : Nat) (filter : TaskFilter) (set : TaskSet) : Prop :=
  match operation thread with
  | .pollTasksForAgent agentId _ =>
      ∃ now taskId, filter = assignFilter taskId ∧ set = assignSet now agentId
  | .markOfflineAgentsAndRequeue _ =>
      ∃ agentId, filter = activeTasksOf agentId ∧ set = requeueSet
  | _ => set.assignedAgent = none

/-- What one call or a part of one does: it keeps every task, or updates one that the
history then shows. -/
inductive Advance (before after : Collections) : Prop
  | quiet (writes : after.writes = before.writes)
      (kept : ∀ taskId row, before.store.task taskId = some row →
        after.store.task taskId = some row)
  | wrote (write : TaskWrite) (writes : after.writes = before.writes ++ [write])
      (own : WriteOf operation write.thread write.filter write.set)
      (found : before.store.task write.before.taskId = some write.before)
      (hit : write.filter.matches write.before = true)
      (written : after.store.task write.before.taskId = some (write.set.apply write.before))
      (kept : ∀ taskId row, taskId ≠ write.before.taskId →
        before.store.task taskId = some row → after.store.task taskId = some row)

/-- The call writes to tasks only what its thread's operation does. -/
def CallOf (thread : Nat) (call : MongoCall) : Prop :=
  ∀ filter set, call.taskUpdate = some (filter, set) → WriteOf operation thread filter set

variable {operation}

theorem advance_reads {call : MongoCall} (reads : call.taskUpdate = none) (rank : Int → Nat)
    (collections : Collections) :
    Advance operation collections
      { collections with store := (call.exec rank collections.store).2 } :=
  .quiet rfl fun _ _ found => task_exec_of_none rank reads found

theorem advance_updateOne {thread : Nat} {filter : TaskFilter} {set : TaskSet}
    (own : WriteOf operation thread filter set) (rank : Int → Nat)
    (collections : Collections) :
    Advance operation collections
      (collections.exec thread rank (.tasksUpdateOne filter set)).2 := by
  simp only [Collections.exec, MongoCall.exec]
  cases first : collections.store.tasks.rows.find? filter.matches with
  | none => exact .quiet rfl fun _ _ found => found
  | some row =>
      have found := KeyedTable.lookup_of_mem (List.mem_of_find?_eq_some first)
      refine .wrote ⟨thread, filter, set, row⟩ rfl own found (List.find?_some first) ?_ ?_
      · have held : collections.store.task row.taskId = some row := found
        simp [held]
      · intro taskId other different otherFound
        simpa [different] using otherFound

theorem advance_exec {thread : Nat} {call : MongoCall} (own : CallOf operation thread call)
    (rank : Int → Nat) (collections : Collections) :
    Advance operation collections (collections.exec thread rank call).2 := by
  cases call with
  | tasksUpdateMany filter set => exact .quiet rfl fun _ _ found => found
  | taskAssignmentsUpdateMany filter set => exact .quiet rfl fun _ _ found => found
  | tasksUpdateOne filter set => exact advance_updateOne (own filter set rfl) rank collections
  | agentsFindOne agentId => exact advance_reads rfl rank collections
  | agentsFind filter => exact advance_reads rfl rank collections
  | agentsFindPage status limit skip => exact advance_reads rfl rank collections
  | agentsUpdateOne agentId set => exact advance_reads rfl rank collections
  | agentsUpsertOne agent => exact advance_reads rfl rank collections
  | tasksFindOne taskId => exact advance_reads rfl rank collections
  | tasksFind filter limit => exact advance_reads rfl rank collections
  | tasksFindPage filter limit skip => exact advance_reads rfl rank collections
  | tasksInsertOne row => exact advance_reads rfl rank collections
  | taskAssignmentsInsertOne row => exact advance_reads rfl rank collections
  | countersFindOneAndUpdate => exact advance_reads rfl rank collections

theorem advance_touch {thread : Nat} {call : MongoCall} (own : CallOf operation thread call)
    (document : Collections.Document) (collections : Collections) :
    Advance operation collections (collections.touch thread document call) := by
  unfold Collections.touch
  split
  · rename_i taskId filter set
    cases found : collections.store.task taskId with
    | none => exact .quiet rfl fun _ _ held => held
    | some row =>
        have sameId : row.taskId = taskId := KeyedTable.key_of_lookup found
        subst sameId
        by_cases hit : filter.matches row = true
        · simp only [hit, if_true]
          refine .wrote ⟨thread, filter, set, row⟩ rfl (own filter set rfl) found hit ?_ ?_
          · simp [found]
          · intro other otherRow different otherFound
            simpa [different] using otherFound
        · simp only [hit]
          exact .quiet rfl fun _ _ held => held
  · exact .quiet rfl fun _ _ found => found
  · exact .quiet rfl fun _ _ found => found

/-! ## The history of a claimed task -/

/-- A claim writes the agent of its poll. -/
theorem assignedAgent_of_claims {write : TaskWrite} {agentId : String} {taskId : Int}
    (own : WriteOf operation write.thread write.filter write.set)
    (claims : Claims operation agentId taskId write) :
    (write.set.apply write.before).assignedAgent = some agentId := by
  obtain ⟨⟨freeSlots, isPoll⟩, _, _⟩ := claims
  rw [WriteOf, isPoll] at own
  obtain ⟨now, claimed, _, isSet⟩ := own
  rw [isSet]
  rfl

/-- A write to a task that has an agent is no claim, and takes the task from the agent only
by returning it to the queue. -/
theorem write_of_assigned {write : TaskWrite} {agentId : String}
    (own : WriteOf operation write.thread write.filter write.set)
    (hit : write.filter.matches write.before = true)
    (assigned : write.before.assignedAgent = some agentId) :
    (∀ other taskId, ¬ Claims operation other taskId write) ∧
      (RequeuesTask operation agentId write.before.taskId write ∨
        (write.set.apply write.before).assignedAgent = some agentId) := by
  have noClaim : ∀ other taskId, ¬ Claims operation other taskId write := by
    rintro other taskId ⟨⟨freeSlots, isPoll⟩, _, _⟩
    rw [WriteOf, isPoll] at own
    obtain ⟨now, claimed, isFilter, _⟩ := own
    simp [isFilter, TaskFilter.matches, assignFilter, assigned] at hit
  refine ⟨noClaim, ?_⟩
  have keeps : write.set.assignedAgent = none →
      (write.set.apply write.before).assignedAgent = some agentId := by
    intro unset
    simp [TaskSet.apply, unset, assigned]
  unfold WriteOf at own
  split at own
  · obtain ⟨now, claimed, isFilter, _⟩ := own
    simp [isFilter, TaskFilter.matches, assignFilter, assigned] at hit
  · rename_i offlineAfterSec isSweep
    obtain ⟨other, isFilter, isSet⟩ := own
    have sameAgent : agentId = other := by
      simp only [isFilter, TaskFilter.matches, activeTasksOf, assigned, Bool.and_eq_true,
        Option.all_some, decide_eq_true_eq] at hit
      exact Option.some.inj hit.1.1.1.2
    subst sameAgent
    exact .inl ⟨⟨offlineAfterSec, isSweep⟩, isFilter, rfl, by rw [isSet]; rfl, by rw [isSet]; rfl⟩
  · exact .inr (keeps own)

variable (operation)

/-- A claimed task has its agent until a sweep returns it, and is not claimed before. -/
structure Traced (collections : Collections) : Prop where
  owner : ∀ earlier write later agentId taskId,
    collections.writes = earlier ++ write :: later → Claims operation agentId taskId write →
      (∃ other ∈ later, RequeuesTask operation agentId taskId other) ∨
        ∃ row, collections.store.task taskId = some row ∧ row.assignedAgent = some agentId
  separated : ∀ first one middle two last agentId other taskId,
    collections.writes = first ++ one :: middle ++ two :: last →
      Claims operation agentId taskId one → Claims operation other taskId two →
        ∃ write ∈ middle, RequeuesTask operation agentId taskId write

variable {operation}

theorem traced_start (store : Store) : Traced operation { store := store } where
  owner := by
    intro earlier write later agentId taskId split
    simp at split
  separated := by
    intro first one middle two last agentId other taskId split
    simp at split

theorem Traced.quiet {before after : Collections} (traced : Traced operation before)
    (writes : after.writes = before.writes)
    (kept : ∀ taskId row, before.store.task taskId = some row →
      after.store.task taskId = some row) : Traced operation after where
  owner := by
    intro earlier write later agentId taskId split claims
    rw [writes] at split
    rcases traced.owner earlier write later agentId taskId split claims with
      returned | ⟨row, found, assigned⟩
    · exact .inl returned
    · exact .inr ⟨row, kept taskId row found, assigned⟩
  separated := by
    intro first one middle two last agentId other taskId split
    rw [writes] at split
    exact traced.separated first one middle two last agentId other taskId split

section Wrote

variable {before after : Collections} {write : TaskWrite} (traced : Traced operation before)
  (own : WriteOf operation write.thread write.filter write.set)
  (found : before.store.task write.before.taskId = some write.before)
  (hit : write.filter.matches write.before = true)

include traced own found hit

/-- A task that is claimed and not returned has its agent when it is written to. -/
theorem Traced.not_claims {earlier later : List TaskWrite} {claim : TaskWrite}
    {agentId other : String} {taskId : Int} (split : before.writes = earlier ++ claim :: later)
    (claims : Claims operation agentId taskId claim)
    (claimsAgain : Claims operation other taskId write) :
    ∃ returned ∈ later, RequeuesTask operation agentId taskId returned := by
  rcases traced.owner earlier claim later agentId taskId split claims with
    returned | ⟨row, rowFound, assigned⟩
  · exact returned
  · have sameTask : write.before.taskId = taskId := claimsAgain.2.1
    rw [← sameTask] at rowFound
    have isRow : row = write.before := Option.some.inj (rowFound.symm.trans found)
    rw [isRow] at assigned
    exact absurd claimsAgain ((write_of_assigned own hit assigned).1 other taskId)

theorem Traced.owner_after_write
    (written : after.store.task write.before.taskId = some (write.set.apply write.before))
    (kept : ∀ taskId row, taskId ≠ write.before.taskId →
      before.store.task taskId = some row → after.store.task taskId = some row)
    {earlier later : List TaskWrite} {claim : TaskWrite} {agentId : String} {taskId : Int}
    (split : before.writes = earlier ++ claim :: later)
    (claims : Claims operation agentId taskId claim) :
    (∃ other ∈ later ++ [write], RequeuesTask operation agentId taskId other) ∨
      ∃ row, after.store.task taskId = some row ∧ row.assignedAgent = some agentId := by
  rcases traced.owner earlier claim later agentId taskId split claims with
    ⟨other, member, returned⟩ | ⟨row, rowFound, assigned⟩
  · exact .inl ⟨other, by simp [member], returned⟩
  · by_cases sameTask : taskId = write.before.taskId
    · subst sameTask
      have isRow : row = write.before := Option.some.inj (rowFound.symm.trans found)
      rw [isRow] at assigned
      rcases (write_of_assigned own hit assigned).2 with returned | stays
      · exact .inl ⟨write, by simp, returned⟩
      · exact .inr ⟨_, written, stays⟩
    · exact .inr ⟨row, kept taskId row sameTask rowFound, assigned⟩

end Wrote

theorem Traced.advance {before after : Collections} (traced : Traced operation before)
    (advance : Advance operation before after) : Traced operation after := by
  rcases advance with ⟨writes, kept⟩ | ⟨write, writes, own, found, hit, written, kept⟩
  · exact traced.quiet writes kept
  · constructor
    · intro earlier claim later agentId taskId split claims
      rw [writes] at split
      rcases split_concat split with ⟨_, rfl, _⟩ | ⟨between, rfl, older⟩
      · have sameTask : claim.before.taskId = taskId := claims.2.1
        rw [← sameTask]
        exact .inr ⟨_, written, assignedAgent_of_claims own claims⟩
      · exact traced.owner_after_write own found hit written kept older claims
    · intro first one middle two last agentId other taskId split claims claimsAgain
      rw [writes] at split
      rcases split_concat split with ⟨_, rfl, older⟩ | ⟨between, _, older⟩
      · exact traced.not_claims own found hit older.symm claims claimsAgain
      · exact traced.separated first one middle two between agentId other taskId older claims
          claimsAgain

/-! ## What a poll returns -/

variable (operation)

def ClaimedBy (thread : Nat) (agentId : String) (taskId : Int) (collections : Collections) :
    Prop :=
  ∃ write ∈ collections.writes, write.thread = thread ∧ Claims operation agentId taskId write

/-- The poll of a thread claimed all that it returns. -/
def Delivered (thread : Nat) (result : OperationResult) (collections : Collections) : Prop :=
  ∀ agentId freeSlots dispatches, operation thread = .pollTasksForAgent agentId freeSlots →
    result = .polled (some dispatches) → ∀ dispatch ∈ dispatches,
      ClaimedBy operation thread agentId dispatch.taskId collections

/-- Every thread keeps the history, and the history explains every claim. -/
def driverContract : ThreadPool.Contract Nat MongoCall MongoCall.Reply DbError Collections
    (Int → Nat) Collections.Document Empty OperationResult where
  service := driver
  permitted _ := True
  starts thread program := ∃ attempt, program = (operation thread).program attempt
  happens _ _ := True
  inv := Traced operation
  rely _ before after := before.writes <+: after.writes
  guar _ before after := Advance operation before after
  post := Delivered operation

abbrev SafeProgram {Result : Type} (thread : Nat) (post : Result → Collections → Prop)
    (program : MongoProgram Result) (collections : Collections) : Prop :=
  program.Safe (driverContract operation).permitted (driver.exec thread) (driver.touch thread)
    ((driverContract operation).rely thread) ((driverContract operation).guar thread) post
    collections

variable {operation}

theorem Advance.extends {before after : Collections}
    (advance : Advance operation before after) : before.writes <+: after.writes := by
  rcases advance with ⟨writes, _⟩ | ⟨write, writes, _, _, _, _, _⟩
  · exact writes ▸ List.prefix_rfl
  · rw [writes]
    exact List.prefix_append _ _

theorem ClaimedBy.mono {thread : Nat} {agentId : String} {taskId : Int}
    {before after : Collections} (extended : before.writes <+: after.writes)
    (claimed : ClaimedBy operation thread agentId taskId before) :
    ClaimedBy operation thread agentId taskId after := by
  obtain ⟨write, member, rest⟩ := claimed
  exact ⟨write, extended.subset member, rest⟩

theorem call_safe {thread : Nat} {call : MongoCall} (own : CallOf operation thread call)
    (later : Collections) :
    (∀ document, Advance operation later (driver.touch thread document call later) ∧
      later.writes <+: (driver.touch thread document call later).writes) ∧
      ∀ rank, Advance operation later (driver.exec thread rank call later).2 :=
  ⟨fun document => ⟨advance_touch own document later, (advance_touch own document later).extends⟩,
    fun rank => advance_exec own rank later⟩

theorem safe_of_issues {Result : Type} {thread : Nat} {program : MongoProgram Result}
    (issues : program.Issues (CallOf operation thread)) (collections : Collections) :
    SafeProgram operation thread (fun _ _ => True) program collections :=
  Safe.of_issues (fun _ _ _ => id) (fun _ own later _ =>
    ⟨(call_safe own later).1, fun rank _ => ⟨(call_safe own later).2 rank, trivial⟩⟩) issues trivial

/-- One call of a thread, followed by the rest of its program. -/
theorem safe_perform {Result : Type} {thread : Nat} {post : Result → Collections → Prop}
    {call : MongoCall} {next : call.Reply → MongoProgram Result} {collections : Collections}
    (own : CallOf operation thread call)
    (rest : ∀ later rank reply, collections.writes <+: later.writes →
      (driver.exec thread rank call later).1 = .ok reply →
        SafeProgram operation thread post (next reply) (driver.exec thread rank call later).2) :
    SafeProgram operation thread post (issue call >>= next) collections :=
  Safe.perform (fun later _ => (call_safe own later).1) fun later relied rank _ =>
    ⟨(call_safe own later).2 rank, fun reply returned => rest later rank reply relied returned⟩

section Poll

variable {thread : Nat} {agentId : String} {freeSlots : Int}
  (isPoll : operation thread = .pollTasksForAgent agentId freeSlots)

include isPoll

theorem callOf_claimsFor {call : MongoCall} (claims : ClaimsFor agentId call) :
    CallOf operation thread call := by
  intro filter set isUpdate
  rw [WriteOf, isPoll]
  exact claims filter set isUpdate

/-- A claim that modified the document is in the history. -/
theorem claimedBy_of_modified {now : Time} {taskId : Int} {rank : Int → Nat}
    {later : Collections} {result : UpdateResult}
    (returned : (driver.exec thread rank
      (.tasksUpdateOne (assignFilter taskId) (assignSet now agentId)) later).1 = .ok result)
    (modified : result.modifiedCount ≠ 0) :
    ClaimedBy operation thread agentId taskId (driver.exec thread rank
      (.tasksUpdateOne (assignFilter taskId) (assignSet now agentId)) later).2 := by
  simp only [driver, Collections.exec, MongoCall.exec] at returned ⊢
  cases first : later.store.tasks.rows.find? (assignFilter taskId).matches with
  | none =>
      rw [first] at returned
      cases returned
      exact absurd rfl modified
  | some row =>
      rw [first] at returned
      cases returned
      have changes : (assignSet now agentId).modifies row = true := by
        by_contra unchanged
        exact modified (by simp [unchanged])
      have sameTask : row.taskId = taskId := by
        have hit := List.find?_some first
        simp only [assignFilter, TaskFilter.matches, Bool.and_eq_true, Option.all_some,
          decide_eq_true_eq] at hit
        exact hit.1.1.1.1.1
      exact ⟨⟨thread, assignFilter taskId, assignSet now agentId, row⟩, by simp, rfl,
        ⟨freeSlots, isPoll⟩, sameTask, changes⟩

theorem assignLoop_safe (now : Time) (candidates : List TaskRow)
    {dispatches : List TaskDispatch} {collections : Collections}
    (claimed : ∀ dispatch ∈ dispatches,
      ClaimedBy operation thread agentId dispatch.taskId collections) :
    SafeProgram operation thread
      (fun result later => ∀ dispatch ∈ result,
        ClaimedBy operation thread agentId dispatch.taskId later)
      (assignLoop now agentId candidates dispatches) collections := by
  induction candidates generalizing dispatches collections with
  | nil => exact claimed
  | cons candidate candidates ih =>
      have own := callOf_claimsFor isPoll (claimsFor_assign agentId now candidate.taskId)
      refine safe_perform own fun later rank result extended returned => ?_
      have grown := extended.trans (advance_exec own rank later).extends
      have stillClaimed := fun dispatch member => (claimed dispatch member).mono grown
      split
      · exact ih stillClaimed
      · rename_i modified
        have claimedNow := claimedBy_of_modified isPoll returned modified
        have insertOwn : CallOf operation thread (.taskAssignmentsInsertOne
            { taskId := candidate.taskId, agentId := agentId, assignedAt := now }) :=
          callOf_claimsFor isPoll (.of_none rfl)
        refine safe_perform insertOwn fun last lastRank reply more _ => ?_
        have grownAgain := more.trans (advance_exec insertOwn lastRank last).extends
        refine ih fun dispatch member => ?_
        rcases List.mem_append.mp member with old | new
        · exact (stillClaimed dispatch old).mono grownAgain
        · rw [List.mem_singleton.mp new]
          exact claimedNow.mono grownAgain

theorem pollTasksForAgentNoTransaction_safe (attempt : Attempt) (collections : Collections) :
    SafeProgram operation thread
      (fun result later => ∀ dispatches, result = some dispatches →
        ∀ dispatch ∈ dispatches, ClaimedBy operation thread agentId dispatch.taskId later)
      (pollTasksForAgentNoTransaction attempt agentId freeSlots) collections := by
  have reads : ∀ {call : MongoCall}, call.taskUpdate = none → CallOf operation thread call :=
    fun none => callOf_claimsFor isPoll (.of_none none)
  refine safe_perform (reads rfl) fun _ _ found _ _ => ?_
  cases found with
  | none =>
      intro dispatches returned
      cases returned
  | some agent =>
      refine safe_perform (reads rfl) fun _ _ _ _ _ => ?_
      split
      · rintro dispatches ⟨⟩ dispatch member
        cases member
      · refine safe_perform (reads rfl) fun _ _ candidates _ _ => ?_
        refine Safe.bind (assignLoop_safe isPoll attempt.now candidates (by simp)) ?_
        intro dispatches later claimed
        refine safe_perform (reads rfl) fun last rank _ extended _ => ?_
        rintro _ ⟨⟩ dispatch member
        exact (claimed dispatch member).mono
          (extended.trans (advance_exec (reads rfl) rank last).extends)

end Poll

theorem program_safe (thread : Nat) (attempt : Attempt) (collections : Collections) :
    SafeProgram operation thread (Delivered operation thread)
      ((operation thread).program attempt) collections := by
  cases isOperation : operation thread with
  | createTask task =>
      refine Safe.bind (safe_of_issues ((createTaskNoTransaction_issues attempt task).mono ?_)
        collections) fun _ _ _ => by rintro _ _ _ _ ⟨⟩
      intro call leaves filter set isUpdate
      rw [show call.taskUpdate = none from leaves] at isUpdate
      cases isUpdate
  | updateTaskStatus taskId update =>
      refine Safe.bind (safe_of_issues
        ((updateTaskStatusNoTransaction_issues attempt taskId update).mono ?_) collections)
        fun _ _ _ => by rintro _ _ _ _ ⟨⟩
      intro call reports filter set isUpdate
      rw [WriteOf, isOperation]
      exact (reports.onlyState filter set isUpdate).2.2
  | cancelTask taskId =>
      refine Safe.bind (safe_of_issues
        ((cancelTaskNoTransaction_issues attempt taskId).mono ?_) collections)
        fun _ _ _ => by rintro _ _ _ _ ⟨⟩
      intro call only filter set isUpdate
      rw [WriteOf, isOperation]
      exact (only filter set isUpdate).2.2
  | markOfflineAgentsAndRequeue offlineAfterSec =>
      refine Safe.bind (safe_of_issues
        ((markOfflineAgentsAndRequeueNoTransaction_issues attempt offlineAfterSec).mono ?_)
        collections) fun _ _ _ => by rintro _ _ _ _ ⟨⟩
      intro call requeues filter set isUpdate
      rw [WriteOf, isOperation]
      exact requeues filter set isUpdate
  | pollTasksForAgent agentId freeSlots =>
      refine Safe.bind (pollTasksForAgentNoTransaction_safe isOperation attempt collections) ?_
      rintro result later claimed other otherSlots dispatches otherPoll ⟨⟩ dispatch member
      rw [isOperation] at otherPoll
      cases otherPoll
      exact claimed dispatches rfl dispatch member

theorem driverContract_fits : (driverContract operation).Fits where
  reflexive _ _ _ := List.prefix_rfl
  transitive _ _ _ _ start rest := start.trans rest
  stable := by
    intro thread result state later extended delivered agentId freeSlots dispatches isPoll
      returned dispatch member
    exact (delivered agentId freeSlots dispatches isPoll returned dispatch member).mono extended
  guarantees _ _ _ traced advance := ⟨traced.advance advance, fun _ _ => advance.extends⟩
  events event := event.elim
  started := by
    rintro thread program collections _ ⟨attempt, rfl⟩
    exact program_safe thread attempt collections

theorem driverRun_safe (store : Store) (steps : List DriverStep) :
    (driverContract operation).AllSafe (driverRun operation store steps) := by
  refine ((driverContract operation).allSafe_idle (traced_start store)).run driverContract_fits ?_
  rw [along_iff]
  intro before action after split
  have member : action ∈ steps.map (DriverStep.action operation) := by simp [split]
  obtain ⟨step, _, rfl⟩ := List.mem_map.mp member
  cases step with
  | start thread attempt => exact ⟨attempt, rfl⟩
  | call thread rank => trivial
  | touch thread document => trivial

theorem claims_separated_by_requeue (operation : Nat → Operation) (store : Store)
    (steps : List DriverStep) :
    (∀ first one middle two last agentId other taskId,
      (driverRun operation store steps).state.writes = first ++ one :: middle ++ two :: last →
        Claims operation agentId taskId one → Claims operation other taskId two →
          ∃ write ∈ middle, RequeuesTask operation agentId taskId write) ∧
      ∀ thread otherThread agentId other freeSlots otherSlots dispatches otherDispatches taskId,
        thread ≠ otherThread → operation thread = .pollTasksForAgent agentId freeSlots →
        operation otherThread = .pollTasksForAgent other otherSlots →
        (driverRun operation store steps).threads thread =
          some (.done (.polled (some dispatches))) →
        (driverRun operation store steps).threads otherThread =
          some (.done (.polled (some otherDispatches))) →
        taskId ∈ dispatches.map TaskDispatch.taskId →
        taskId ∈ otherDispatches.map TaskDispatch.taskId →
          ∃ first one middle two last claimant,
            (driverRun operation store steps).state.writes =
              first ++ one :: middle ++ two :: last ∧
            (one.thread = thread ∧ two.thread = otherThread ∨
              one.thread = otherThread ∧ two.thread = thread) ∧
            Claims operation claimant taskId one ∧
            ∃ write ∈ middle, RequeuesTask operation claimant taskId write := by
  have safe : (driverContract operation).AllSafe (driverRun operation store steps) :=
    driverRun_safe store steps
  have separated := safe.inv.separated
  refine ⟨separated, ?_⟩
  intro thread otherThread agentId other freeSlots otherSlots dispatches otherDispatches taskId
    different isPoll isOtherPoll finished otherFinished member otherMember
  obtain ⟨dispatch, listed, rfl⟩ := List.mem_map.mp member
  obtain ⟨otherDispatch, otherListed, sameTask⟩ := List.mem_map.mp otherMember
  have delivered : Delivered operation thread (.polled (some dispatches)) _ :=
    safe.threads thread _ finished
  have otherDelivered : Delivered operation otherThread (.polled (some otherDispatches)) _ :=
    safe.threads otherThread _ otherFinished
  obtain ⟨write, inHistory, isThread, claims⟩ :=
    delivered agentId freeSlots dispatches isPoll rfl dispatch listed
  obtain ⟨otherWrite, alsoInHistory, isOtherThread, otherClaims⟩ :=
    otherDelivered other otherSlots otherDispatches isOtherPoll rfl otherDispatch otherListed
  rw [sameTask] at otherClaims
  have distinct : otherWrite ≠ write := by
    rintro rfl
    exact different (isThread.symm.trans isOtherThread)
  obtain ⟨earlier, later, split⟩ := List.append_of_mem inHistory
  rw [split] at alsoInHistory
  rcases List.mem_append.mp alsoInHistory with before | rest
  · obtain ⟨first, middle, rfl⟩ := List.append_of_mem before
    exact ⟨first, otherWrite, middle, write, later, other, split, .inr ⟨isOtherThread, isThread⟩,
      otherClaims, separated first otherWrite middle write later other agentId _ split otherClaims
        claims⟩
  · rcases List.mem_cons.mp rest with same | after
    · exact absurd same distinct
    · obtain ⟨middle, last, rfl⟩ := List.append_of_mem after
      have regrouped : (driverRun operation store steps).state.writes =
          earlier ++ write :: middle ++ otherWrite :: last := by
        rw [split, List.append_assoc, List.cons_append]
      exact ⟨earlier, write, middle, otherWrite, last, agentId, regrouped,
        .inl ⟨isThread, isOtherThread⟩, claims,
        separated earlier write middle otherWrite last agentId other _ regrouped claims
          otherClaims⟩

end Pool

/-- A poll, a sweep and a poll of another agent. -/
def pollSweepPoll : Nat → Operation
  | 0 => .pollTasksForAgent "agent-1" 1
  | 1 => .markOfflineAgentsAndRequeue 120
  | _ => .pollTasksForAgent "agent-2" 1

/-- Two agents, the second of which registers late, and a queued task. -/
def twoAgents : Store :=
  run (masterStep .mongoStandalone {}) Store.empty
    [.calm .mongoStandalone 0 (AgentClient.registerAgent
        { agentId := "agent-1", os := "linux", version := "dev", cpuCores := 4 }),
      .calm .mongoStandalone 400000 (AgentClient.registerAgent
        { agentId := "agent-2", os := "linux", version := "dev", cpuCores := 4 }),
      .calm .mongoStandalone 0 (.createTask (.json (.object [("command", .string "true")])))]

/-- The sweep returns the task of the first agent, and the second agent polls it. -/
def pollSweepPollSteps : List DriverStep :=
  let calls := fun (thread count : Nat) =>
    List.replicate count (DriverStep.call thread fun _ => 0)
  .start 0 { now := 1000 } :: calls 0 6 ++
    .start 1 { now := 400000 } :: calls 1 2 ++
    .touch 1 (.assignment 0) :: calls 1 1 ++
    .touch 1 (.task 1) :: calls 1 1 ++
    .start 2 { now := 401000 } :: calls 2 6

theorem claims_separated_by_requeue_pollSweepPoll :
    ∃ one write two,
      (driverRun pollSweepPoll twoAgents pollSweepPollSteps).state.writes = [one, write, two] ∧
        RequeuesTask pollSweepPoll "agent-1" 1 write := by
  obtain ⟨write, member, requeues⟩ :=
    (claims_separated_by_requeue pollSweepPoll twoAgents pollSweepPollSteps).1 [] _ [_] _ []
      "agent-1" "agent-2" 1 rfl ⟨⟨1, rfl⟩, rfl, rfl⟩ ⟨⟨1, rfl⟩, rfl, rfl⟩
  rw [List.mem_singleton] at member
  subst member
  exact ⟨_, _, _, rfl, requeues⟩

end DistributedComputing
