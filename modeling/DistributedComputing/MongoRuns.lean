import DistributedComputing.MongoBroker

/-!
# Programs of the Mongo broker running alone

The result and the tables that each `…NoTransaction` function leaves when no other call
comes between its own and none of them raises, and the transactional bodies in terms of
these functions.
-/

namespace DistributedComputing

theorem Store.updateAgent_of_absent {store : Store} {agentId : String}
    (absent : store.agent agentId = none) (change : AgentRow → AgentRow)
    (keeps : ∀ row, (change row).agentId = row.agentId) :
    store.updateAgent agentId change keeps = store := by
  have rowsEq : (store.updateAgent agentId change keeps).agents = store.agents := by
    apply KeyedTable.ext
    have others := (KeyedTable.lookup_eq_none_iff store.agents agentId).mp absent
    simp only [updateAgent, KeyedTable.updateAt, KeyedTable.updateWhere]
    conv_rhs => rw [← List.map_id store.agents.rows]
    apply List.map_congr_left
    intro row member
    simp [others row member]
  exact Store.ext rowsEq rfl rfl rfl

namespace MongoCall

/-- A filter on the id finds the task with that id, if it passes the rest. -/
theorem find?_of_taskId {filter : TaskFilter} {taskId : Int} (byId : filter.taskId = some taskId)
    (store : Store) :
    store.tasks.rows.find? filter.matches = (store.task taskId).filter filter.matches := by
  have idOf : ∀ row, filter.matches row = true → row.taskId = taskId := by
    intro row passes
    simp only [TaskFilter.matches, byId, Bool.and_eq_true, Option.all_some,
      decide_eq_true_eq] at passes
    exact passes.1.1.1.1.1
  cases found : store.tasks.rows.find? filter.matches with
  | none =>
      cases held : store.task taskId with
      | none => rfl
      | some row =>
          have rejected := List.find?_eq_none.mp found row (KeyedTable.mem_of_lookup held)
          simp [Option.filter, rejected]
  | some row =>
      have passes := List.find?_some found
      have held : store.task taskId = some row := by
        rw [← idOf row passes]
        exact KeyedTable.lookup_of_mem (List.mem_of_find?_eq_some found)
      rw [held]
      simp [Option.filter, passes]

theorem exec_tasksUpdateOne {filter : TaskFilter} {taskId : Int}
    (byId : filter.taskId = some taskId) (rank : Int → Nat) (set : TaskSet) (store : Store) :
    exec rank (.tasksUpdateOne filter set) store =
      match (store.task taskId).filter filter.matches with
      | none => (.ok ⟨0, 0⟩, store)
      | some row =>
          (.ok ⟨1, if set.modifies row then 1 else 0⟩,
            store.updateTask taskId set.apply set.taskId_apply) := by
  rw [exec, find?_of_taskId byId]
  cases chosen : (store.task taskId).filter filter.matches with
  | none => rfl
  | some row =>
      have held := (Option.filter_eq_some_iff.mp chosen).1
      dsimp only
      rw [KeyedTable.key_of_lookup held]

/-- An update by the id alone finds the task if there is one. -/
theorem exec_tasksUpdateOne_byId {taskId : Int} {store : Store} {row : TaskRow}
    (found : store.task taskId = some row) (rank : Int → Nat) (set : TaskSet) :
    exec rank (.tasksUpdateOne { taskId := some taskId } set) store =
      (.ok ⟨1, if set.modifies row then 1 else 0⟩,
        store.updateTask taskId set.apply set.taskId_apply) := by
  have sameId : row.taskId = taskId := KeyedTable.key_of_lookup found
  rw [exec_tasksUpdateOne rfl, found]
  simp [Option.filter, TaskFilter.matches, sameId]

theorem exec_agentsFindOne (rank : Int → Nat) (agentId : String) (store : Store) :
    exec rank (.agentsFindOne agentId) store = (.ok (store.agent agentId), store) :=
  rfl

theorem exec_agentsFind (rank : Int → Nat) (filter : AgentFilter) (store : Store) :
    exec rank (.agentsFind filter) store =
      (.ok (store.agents.rows.filter filter.matches), store) :=
  rfl

theorem exec_tasksFindOne (rank : Int → Nat) (taskId : Int) (store : Store) :
    exec rank (.tasksFindOne taskId) store = (.ok (store.task taskId), store) :=
  rfl

theorem exec_tasksFind (rank : Int → Nat) (filter : TaskFilter) (limit : Int) (store : Store) :
    exec rank (.tasksFind filter limit) store =
      (.ok (oldest rank limit (store.tasks.rows.filter filter.matches)), store) :=
  rfl

theorem exec_agentsUpdateOne (rank : Int → Nat) (agentId : String) (set : AgentSet)
    (store : Store) : ∃ result : UpdateResult,
      exec rank (.agentsUpdateOne agentId set) store =
          (.ok result, store.updateAgent agentId set.apply set.agentId_apply) ∧
        (0 < result.matchedCount ↔ store.agent agentId ≠ none) := by
  cases found : store.agent agentId with
  | none =>
      refine ⟨⟨0, 0⟩, ?_, by simp⟩
      simp only [exec, found, Store.updateAgent_of_absent found]
  | some row =>
      exact ⟨⟨1, if set.apply row = row then 0 else 1⟩, by simp only [exec, found], by simp⟩

end MongoCall

namespace MongoBroker

open MongoCall

theorem run_updateHeartbeatOnce (attempt : Attempt) (heartbeat : AgentHeartbeat)
    (store : Store) : ∃ result : UpdateResult,
      (updateHeartbeatOnce attempt heartbeat).run (exec attempt.rank) store =
        (.ok (decide (0 < result.matchedCount)), store.updateAgent heartbeat.agentId
          (AgentSet.apply
            { status := some heartbeat.status, lastHeartbeat := some attempt.now })
          (AgentSet.agentId_apply _)) ∧
      (0 < result.matchedCount ↔ store.agent heartbeat.agentId ≠ none) := by
  obtain ⟨result, updated, matched⟩ := exec_agentsUpdateOne attempt.rank heartbeat.agentId
    { status := some heartbeat.status, lastHeartbeat := some attempt.now } store
  exact ⟨result, CallProgram.run_perform_of_ok _ updated _, matched⟩

/-- The two writes of the loop for one candidate that is still free. -/
def assignOne (now : Time) (agentId : String) (store : Store) (candidate : TaskRow) : Store :=
  (store.updateTask candidate.taskId (assignSet now agentId).apply
      (assignSet now agentId).taskId_apply).insertAssignment
    { taskId := candidate.taskId, agentId := agentId, assignedAt := now }

/-- The row is in the table as it was read, and a poll may take it. -/
structure StillFree (store : Store) (candidate : TaskRow) : Prop where
  found : store.task candidate.taskId = some candidate
  queued : candidate.state = .queued
  unassigned : candidate.assignedAgent = none

theorem StillFree.assignOne_other {store : Store} {candidate other : TaskRow} {now : Time}
    {agentId : String} (free : StillFree store other) (different : other.taskId ≠ candidate.taskId) :
    StillFree (assignOne now agentId store candidate) other where
  found := by simp [assignOne, different, free.found]
  queued := free.queued
  unassigned := free.unassigned

/-- The conditional update claims a free task. -/
theorem exec_assign {store : Store} {candidate : TaskRow} (free : StillFree store candidate)
    (rank : Int → Nat) (now : Time) (agentId : String) :
    exec rank (.tasksUpdateOne (assignFilter candidate.taskId) (assignSet now agentId)) store =
      (.ok ⟨1, 1⟩, store.updateTask candidate.taskId (assignSet now agentId).apply
    (assignSet now agentId).taskId_apply) := by
  have passes : (assignFilter candidate.taskId).matches candidate = true := by
    simp [assignFilter, TaskFilter.matches, free.queued, free.unassigned]
  have modifies : (assignSet now agentId).modifies candidate = true := by
    simp [assignSet, TaskSet.modifies, TaskSet.apply, free.queued]
  rw [exec_tasksUpdateOne rfl, free.found]
  simp [Option.filter, passes, modifies]

/-- Alone, the loop claims all its candidates. -/
theorem run_assignLoop (rank : Int → Nat) (now : Time) (agentId : String)
    {candidates : List TaskRow} (distinct : (candidates.map TaskRow.taskId).Nodup)
    {store : Store} (free : ∀ candidate ∈ candidates, StillFree store candidate)
    (dispatches : List TaskDispatch) :
    (assignLoop now agentId candidates dispatches).run (exec rank) store =
      (.ok (dispatches ++ candidates.map taskDispatch),
        candidates.foldl (assignOne now agentId) store) := by
  induction candidates generalizing store dispatches with
  | nil => simp [assignLoop]
  | cons candidate candidates ih =>
      rw [List.map_cons, List.nodup_cons] at distinct
      have claimed := exec_assign (free candidate (by simp)) rank now agentId
      have freeAfter : ∀ other ∈ candidates,
          StillFree (assignOne now agentId store candidate) other := by
        intro other member
        have different : other.taskId ≠ candidate.taskId := fun same =>
          distinct.1 (List.mem_map.mpr ⟨other, member, same⟩)
        exact (free other (by simp [member])).assignOne_other different
      have rest := ih distinct.2 freeAfter (dispatches ++ [taskDispatch candidate])
      rw [List.append_assoc] at rest
      rw [assignLoop, CallProgram.perform_bind, CallProgram.run_call_of_ok _ _ claimed]
      exact rest

/-- The candidates of a poll in the tables that it reads. -/
def candidatesOf (rank : Int → Nat) (agent : AgentRow) (freeSlots : Int) (store : Store) :
    List TaskRow :=
  oldest rank freeSlots (store.tasks.rows.filter (candidateFilter agent).matches)

theorem candidates_free (rank : Int → Nat) (agent : AgentRow) (freeSlots : Int) (store : Store) :
    ((candidatesOf rank agent freeSlots store).map TaskRow.taskId).Nodup ∧
      ∀ candidate ∈ candidatesOf rank agent freeSlots store, StillFree store candidate := by
  constructor
  · exact nodup_oldest (store.tasks.unique.sublist (List.filter_sublist.map TaskRow.taskId))
  · intro candidate member
    obtain ⟨inTable, passes⟩ := List.mem_filter.mp (mem_of_mem_oldest member)
    simp only [candidateFilter, TaskFilter.matches, Option.all_some, List.mem_singleton,
      Bool.and_eq_true, decide_eq_true_eq] at passes
    exact ⟨KeyedTable.lookup_of_mem inTable, passes.1.1.1.1.2, passes.1.1.1.2⟩

/-- The tables after the poll has written its heartbeat. -/
def withHeartbeat (now : Time) (agentId : String) (store : Store) : Store :=
  store.updateAgent agentId (AgentSet.apply { lastHeartbeat := some now })
    (AgentSet.agentId_apply _)

/-- The tables after the claims of a poll and the status that it sets. -/
def afterClaims (attempt : Attempt) (agentId : String) (agent : AgentRow) (freeSlots : Int)
    (polled : Store) : Store :=
  let candidates := candidatesOf attempt.rank agent freeSlots polled
  (candidates.foldl (assignOne attempt.now agentId) polled).updateAgent agentId
    (AgentSet.apply
      { status := some (if (candidates.map taskDispatch).isEmpty then .idle else .busy) })
    (AgentSet.agentId_apply _)

theorem run_pollTasksForAgentNoTransaction (attempt : Attempt) (agentId : String)
    (freeSlots : Int) (store : Store) :
    (pollTasksForAgentNoTransaction attempt agentId freeSlots).run (exec attempt.rank) store =
      match store.agent agentId with
      | none => (.ok none, store)
      | some agent =>
          let polled := withHeartbeat attempt.now agentId store
          if freeSlots ≤ 0 then (.ok (some []), polled)
          else
            (.ok (some ((candidatesOf attempt.rank agent freeSlots polled).map taskDispatch)),
              afterClaims attempt agentId agent freeSlots polled) := by
  refine (CallProgram.run_perform_of_ok _ (exec_agentsFindOne _ agentId store) _).trans ?_
  cases found : store.agent agentId with
  | none => rfl
  | some agent =>
      obtain ⟨_, heartbeat, _⟩ := exec_agentsUpdateOne attempt.rank agentId
        { lastHeartbeat := some attempt.now } store
      refine (CallProgram.run_perform_of_ok _ heartbeat _).trans ?_
      change CallProgram.run _ _ (withHeartbeat attempt.now agentId store) = _
      dsimp only
      generalize withHeartbeat attempt.now agentId store = polled
      split
      · rfl
      · obtain ⟨distinct, free⟩ := candidates_free attempt.rank agent freeSlots polled
        have looped := run_assignLoop attempt.rank attempt.now agentId distinct free []
        refine (CallProgram.run_perform_of_ok _ (exec_tasksFind _ _ freeSlots polled) _).trans ?_
        change CallProgram.run _ (assignLoop attempt.now agentId
          (candidatesOf attempt.rank agent freeSlots polled) [] >>= _) polled = _
        rw [CallProgram.run_bind, looped]
        dsimp only [List.nil_append]
        obtain ⟨_, status, _⟩ := exec_agentsUpdateOne attempt.rank agentId
          { status := some (if ((candidatesOf attempt.rank agent freeSlots polled).map
              taskDispatch).isEmpty then .idle else .busy) }
          ((candidatesOf attempt.rank agent freeSlots polled).foldl
            (assignOne attempt.now agentId) polled)
        exact CallProgram.run_perform_of_ok _ status _

theorem run_updateTaskStatusNoTransaction (attempt : Attempt) (taskId : Int)
    (update : TaskStatusUpdate) (store : Store) :
    (updateTaskStatusNoTransaction attempt taskId update).run (exec attempt.rank) store =
      match store.task taskId with
      | none => (.ok false, store)
      | some current =>
          let written := store.updateTask taskId (statusSet attempt current update).apply
            (TaskSet.taskId_apply _)
          (.ok true,
            if update.state.terminal then
              written.updateAssignments (AssignmentFilter.matches { taskId := some taskId })
                (reportUnassign attempt update).apply
            else written) := by
  refine (CallProgram.run_perform_of_ok _ (exec_tasksFindOne _ taskId store) _).trans ?_
  cases found : store.task taskId with
  | none => rfl
  | some current =>
      refine (CallProgram.run_perform_of_ok _
        (exec_tasksUpdateOne_byId found attempt.rank (statusSet attempt current update)) _).trans
          ?_
      dsimp only
      split <;> rfl

theorem run_cancelTaskNoTransaction (attempt : Attempt) (taskId : Int) (store : Store) :
    (cancelTaskNoTransaction attempt taskId).run (exec attempt.rank) store =
      match store.task taskId with
      | none => (.ok .notFound, store)
      | some current =>
          if current.state.terminal then (.ok .invalidState, store)
          else
            (.ok .ok,
              (store.updateTask taskId (cancelSet attempt.now current).apply
                (TaskSet.taskId_apply _)).updateAssignments
                  (AssignmentFilter.matches { taskId := some taskId })
                  (cancelUnassign attempt.now).apply) := by
  refine (CallProgram.run_perform_of_ok _ (exec_tasksFindOne _ taskId store) _).trans ?_
  cases found : store.task taskId with
  | none => rfl
  | some current =>
      dsimp only
      split
      · rfl
      · exact CallProgram.run_perform_of_ok _
          (exec_tasksUpdateOne_byId found attempt.rank (cancelSet attempt.now current)) _

/-- The three writes of the sweep for one agent. -/
def takeOffline (now : Time) (store : Store) (agentId : String) : Store :=
  ((store.updateAgent agentId (AgentSet.apply { status := some .offline })
    (AgentSet.agentId_apply _)).updateAssignments
      (AssignmentFilter.matches { agentId := some agentId })
      (offlineUnassign now).apply).updateTasks
    (activeTasksOf agentId).matches requeueSet.apply requeueSet.taskId_apply

theorem run_requeueLoop (rank : Int → Nat) (now : Time) (agentIds : List String)
    (store : Store) :
    (requeueLoop now agentIds).run (exec rank) store =
      (.ok (), agentIds.foldl (takeOffline now) store) := by
  induction agentIds generalizing store with
  | nil => rfl
  | cons agentId agentIds ih =>
      obtain ⟨_, offline, _⟩ := exec_agentsUpdateOne rank agentId
        { status := some .offline } store
      refine (CallProgram.run_perform_of_ok _ offline _).trans ?_
      exact ih (takeOffline now store agentId)

theorem run_markOfflineAgentsAndRequeueNoTransaction (attempt : Attempt)
    (offlineAfterSec : Int) (store : Store) :
    (markOfflineAgentsAndRequeueNoTransaction attempt offlineAfterSec).run (exec attempt.rank)
        store =
      let offlineIds := (store.agents.rows.filter
        (staleFilter attempt.now offlineAfterSec).matches).map AgentRow.agentId
      (.ok offlineIds.length, offlineIds.foldl (takeOffline attempt.later) store) := by
  refine (CallProgram.run_perform_of_ok _ (exec_agentsFind _ _ store) _).trans ?_
  dsimp only
  generalize (store.agents.rows.filter
    (staleFilter attempt.now offlineAfterSec).matches).map AgentRow.agentId = offlineIds
  split
  · rename_i nobody
    rw [List.isEmpty_iff.mp nobody]
    rfl
  · rw [CallProgram.run_bind, run_requeueLoop]
    rfl

section Create

variable {store : Store} (rank : Int → Nat)

theorem exec_counters (room : store.taskSeq + 1 ≤ maxTaskId)
    (bounds : store.taskSeq ≤ store.taskSeq + 1 ∧ store.taskSeq + 1 ≤ maxTaskId) :
    exec rank .countersFindOneAndUpdate store =
      (.ok (store.taskSeq + 1), store.advanceTaskSeq (store.taskSeq + 1) bounds) := by
  simp only [exec, room, dite_true]

theorem exec_counters_full (full : ¬ store.taskSeq + 1 ≤ maxTaskId) :
    exec rank .countersFindOneAndUpdate store = (.error ⟨"$inc would overflow"⟩, store) := by
  simp only [exec, full, dite_false]

/-- Nothing has the id that the counter has just given out. -/
theorem fresh_drawn
    (bounds : store.taskSeq ≤ store.taskSeq + 1 ∧ store.taskSeq + 1 ≤ maxTaskId) :
    (store.advanceTaskSeq (store.taskSeq + 1) bounds).task (store.taskSeq + 1) = none ∧
      0 < store.taskSeq + 1 ∧ store.taskSeq + 1 ≤ store.taskSeq + 1 := by
  have seqBounds := store.taskSeqBounds
  refine ⟨?_, by omega, le_refl _⟩
  rw [Store.task_advanceTaskSeq]
  exact Store.task_eq_none_of_lt (by omega)

theorem exec_insertDrawn
    (bounds : store.taskSeq ≤ store.taskSeq + 1 ∧ store.taskSeq + 1 ≤ maxTaskId)
    (now : Time) (task : TaskInput) :
    exec rank (.tasksInsertOne (newTask now (store.taskSeq + 1) task))
        (store.advanceTaskSeq (store.taskSeq + 1) bounds) =
      (.ok (), (store.advanceTaskSeq (store.taskSeq + 1) bounds).insertTask
        (newTask now (store.taskSeq + 1) task) (fresh_drawn bounds).1 (fresh_drawn bounds).2) := by
  simp only [exec]
  exact dif_pos (fresh_drawn bounds)

end Create

theorem run_createTaskNoTransaction (attempt : Attempt) (task : TaskInput) (store : Store) :
    (¬ store.taskSeq + 1 ≤ maxTaskId ∧ ∃ error,
      (createTaskNoTransaction attempt task).run (exec attempt.rank) store =
        (.error error, store)) ∨
      ∃ (bounds : store.taskSeq ≤ store.taskSeq + 1 ∧ store.taskSeq + 1 ≤ maxTaskId)
        (fresh : (store.advanceTaskSeq (store.taskSeq + 1) bounds).task (store.taskSeq + 1) = none)
        (inRange : 0 < store.taskSeq + 1 ∧ store.taskSeq + 1 ≤ store.taskSeq + 1),
        (createTaskNoTransaction attempt task).run (exec attempt.rank) store =
          (.ok (store.taskSeq + 1), (store.advanceTaskSeq (store.taskSeq + 1) bounds).insertTask
            (newTask attempt.now (store.taskSeq + 1) task) fresh inRange) := by
  by_cases room : store.taskSeq + 1 ≤ maxTaskId
  · have bounds : store.taskSeq ≤ store.taskSeq + 1 ∧ store.taskSeq + 1 ≤ maxTaskId := by omega
    refine .inr ⟨bounds, (fresh_drawn bounds).1, (fresh_drawn bounds).2, ?_⟩
    refine (CallProgram.run_perform_of_ok _ (exec_counters attempt.rank room bounds) _).trans ?_
    exact CallProgram.run_perform_of_ok _ (exec_insertDrawn attempt.rank bounds attempt.now task) _
  · refine .inl ⟨room, ⟨"$inc would overflow"⟩, ?_⟩
    rw [createTaskNoTransaction, CallProgram.perform_bind, CallProgram.run_call,
      exec_counters_full attempt.rank room]

/-! ## The transactional bodies -/

theorem createTaskTransaction_eq (attempt : Attempt) (task : TaskInput) :
    createTaskTransaction attempt task =
      (createTaskNoTransaction attempt task >>= fun taskId => .done (.commit taskId)) :=
  rfl

/-- A poll that does not find the agent rolls back; every other poll commits. -/
def pollEnd : Option (List TaskDispatch) → SessionEnd (Option (List TaskDispatch))
  | none => .abort none
  | some dispatches => .commit (some dispatches)

theorem pollTasksForAgentTransaction_eq (attempt : Attempt) (agentId : String)
    (freeSlots : Int) : pollTasksForAgentTransaction attempt agentId freeSlots =
      (pollTasksForAgentNoTransaction attempt agentId freeSlots >>= fun result =>
        .done (pollEnd result)) := by
  refine CallProgram.perform_bind_eq_bind fun found => ?_
  cases found with
  | none => rfl
  | some agent =>
      refine CallProgram.perform_bind_eq_bind fun _ => ?_
      by_cases noSlots : freeSlots ≤ 0
      · simp only [noSlots, if_true]
        rfl
      · simp only [noSlots, if_false]
        refine CallProgram.perform_bind_eq_bind fun candidates => ?_
        rw [CallProgram.bind_assoc]
        rfl

def reportEnd : Bool → SessionEnd Bool
  | false => .abort false
  | true => .commit true

theorem updateTaskStatusTransaction_eq (attempt : Attempt) (taskId : Int)
    (update : TaskStatusUpdate) : updateTaskStatusTransaction attempt taskId update =
      (updateTaskStatusNoTransaction attempt taskId update >>= fun updated =>
        .done (reportEnd updated)) := by
  refine CallProgram.perform_bind_eq_bind fun found => ?_
  cases found with
  | none => rfl
  | some current =>
      refine CallProgram.perform_bind_eq_bind fun _ => ?_
      by_cases isOver : update.state.terminal = true
      · simp only [isOver, if_true]
        rfl
      · simp only [isOver]
        rfl

def cancelEnd : CancelTaskResult → SessionEnd CancelTaskResult
  | .ok => .commit .ok
  | result => .abort result

theorem cancelTaskTransaction_eq (attempt : Attempt) (taskId : Int) :
    cancelTaskTransaction attempt taskId =
      (cancelTaskNoTransaction attempt taskId >>= fun result => .done (cancelEnd result)) := by
  refine CallProgram.perform_bind_eq_bind fun found => ?_
  cases found with
  | none => rfl
  | some current =>
      by_cases isOver : current.state.terminal = true
      · simp only [isOver, if_true]
        rfl
      · simp only [isOver]
        rfl

theorem markOfflineAgentsAndRequeueTransaction_eq (attempt : Attempt) (offlineAfterSec : Int) :
    markOfflineAgentsAndRequeueTransaction attempt offlineAfterSec =
      (markOfflineAgentsAndRequeueNoTransaction attempt offlineAfterSec >>= fun count =>
        .done (.commit count)) := by
  refine CallProgram.perform_bind_eq_bind fun candidates => ?_
  by_cases nobody : ((candidates : List AgentRow).map AgentRow.agentId).isEmpty = true
  · simp only [nobody, if_true]
    rfl
  · rw [if_neg nobody, if_neg nobody]
    rw [CallProgram.bind_assoc]
    rfl

/-- A transactional body that is the function without transactions followed by an end
of the session. -/
theorem sessionBody_bind {Result : Type} (rank : Int → Nat) (program : MongoProgram Result)
    (ends : Result → SessionEnd Result) (store : Store) :
    sessionBody rank (program >>= fun result => .done (ends result)) store =
      match program.run (exec rank) store with
      | (.error error, _) => .error error
      | (.ok result, after) =>
          match ends result with
          | .abort result => .ok (.abort result)
          | .commit result => .ok (.commit result after) := by
  unfold sessionBody
  rw [CallProgram.run_bind]
  rcases program.run (exec rank) store with ⟨_ | result, after⟩
  · rfl
  · dsimp only [CallProgram.run_done]
    cases ends result <;> rfl

end MongoBroker

end DistributedComputing
