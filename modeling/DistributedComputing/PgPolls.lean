import DistributedComputing.PgTransactions

/-!
# Polls among other sessions

A poll locks the tasks that it hands out and looks at each of them again, so at its commit
they are still queued and without an agent.
-/

namespace DistributedComputing

namespace PgSessions

open RowEngine

variable {work : Workload} {id : Nat} {writes : List RowChange}
  {held : List RowKey} {fact : Store → Prop}

theorem guarded_fitting (agent : AgentRow) (dispatch : TaskDispatch) :
    pgEngine.Guarded [.task dispatch.taskId] (Fitting agent dispatch) :=
  guarded_task dispatch.taskId fun found => ∃ row, found = some row ∧
    PgBroker.fits agent row = .ok true ∧ dispatch = PgBroker.taskDispatch row

/-- What a candidate is when it is looked at again. -/
theorem fitting_of_recheck {agent : AgentRow} {found : Option TaskRow} {dispatch : TaskDispatch}
    (rechecked : recheck agent found = .ok (some dispatch)) :
    ∃ row, found = some row ∧ PgBroker.fits agent row = .ok true ∧
      dispatch = PgBroker.taskDispatch row := by
  cases found with
  | none => cases rechecked
  | some row =>
      cases fits : PgBroker.fits agent row with
      | error error =>
          rw [recheck, fits] at rechecked
          cases rechecked
      | ok fitting =>
          rw [recheck, fits] at rechecked
          cases fitting with
          | false => cases rechecked
          | true =>
              cases rechecked
              exact ⟨row, rfl, fits, rfl⟩

/-! ## The loops of a poll -/

/-- The tasks that `SKIP LOCKED` has locked fit when they are locked. -/
theorem triple_lockFitting (agent : AgentRow) {rows : List TaskRow}
    (noTask : ∀ taskId, ∀ change ∈ writes, .task taskId ∉ change.locks) (slots : Nat)
    (persists : pgEngine.Persists (Good work) id held fact) :
    pgEngine.Triple (Good work) id (Knows id writes held fact)
      (lockFitting agent slots rows)
      fun dispatches sessions => dispatches.length ≤ slots ∧
        (dispatches.map TaskDispatch.taskId).Sublist (rows.map TaskRow.taskId) ∧
        Knows id writes (dispatches.map (fun dispatch => .task dispatch.taskId) ++ held)
          (fun store => fact store ∧ ∀ dispatch ∈ dispatches, Fitting agent dispatch store)
          sessions := by
  induction rows generalizing slots held fact with
  | nil =>
      have nothing : lockFitting agent slots [] = .done [] := by cases slots <;> rfl
      rw [nothing]
      exact .done fun sessions knows => ⟨by simp, by simp, by simpa using knows⟩
  | cons row rows ih =>
      cases slots with
      | zero => exact .done fun sessions knows => ⟨by simp, by simp, by simpa using knows⟩
      | succ slots =>
          have locked : pgEngine.Triple (Good work) id (Knows id writes held fact)
              (ask (.tryLock (.task row.taskId))) fun reply sessions =>
                (reply = none ∧ Knows id writes held fact sessions) ∨
                  ∃ seen, reply = some seen ∧ Knows id writes (.task row.taskId :: held)
                    (fun store => fact store ∧ seen.task row.taskId = store.task row.taskId)
                    sessions :=
            knows_tryLock persists fun store holds =>
              ⟨holds, RowChange.task_foldl (noTask row.taskId) store⟩
          have looser := persists.mono (List.subset_cons_self (.task row.taskId) held)
          refine .bind locked fun reply => ?_
          rintro sessions (⟨rfl, knows⟩ | ⟨seen, rfl, knows⟩)
          · refine Triple.imp (ih (slots + 1) persists) (fun _ knows => knows) ?_ sessions knows
            rintro dispatches later ⟨few, sublist, reached⟩
            exact ⟨few, sublist.cons _, reached⟩
          have seenPersists : pgEngine.Persists (Good work) id
              (.task row.taskId :: held) fun store =>
                fact store ∧ seen.task row.taskId = store.task row.taskId :=
            looser.and ((guarded_task row.taskId fun found =>
              seen.task row.taskId = found).persists.mono (by simp))
          dsimp only
          cases rechecked : recheck agent (seen.task row.taskId) with
          | error error => exact triple_abort seenPersists sessions knows
          | ok chosen =>
              cases chosen with
              | none =>
                  refine Triple.imp (ih (slots + 1) looser) (fun _ knows => knows) ?_ sessions
                    (knows.imp (List.Subset.refl _) fun _ holds => holds.1)
                  rintro dispatches later ⟨few, sublist, reached⟩
                  refine ⟨few, sublist.cons _, reached.imp ?_ fun _ holds => holds⟩
                  exact List.append_subset.mpr ⟨List.subset_append_left _ _,
                    List.subset_append_of_subset_right _ (List.subset_cons_self _ _)⟩
              | some dispatch =>
                  obtain ⟨current, found, fits, isDispatch⟩ := fitting_of_recheck rechecked
                  have isRow : current.taskId = row.taskId := KeyedTable.key_of_lookup found
                  have sameTask : dispatch.taskId = row.taskId := by
                    rw [isDispatch]
                    exact isRow
                  have fitting : ∀ store : Store,
                      fact store ∧ seen.task row.taskId = store.task row.taskId →
                        fact store ∧ Fitting agent dispatch store := fun store holds =>
                    ⟨holds.1, current, by rw [sameTask, ← holds.2, found], fits, isDispatch⟩
                  have known : pgEngine.Persists (Good work) id (.task row.taskId :: held)
                      fun store => fact store ∧ Fitting agent dispatch store := by
                    refine looser.and ((guarded_fitting agent dispatch).persists.mono ?_)
                    simp [sameTask]
                  refine Triple.bind (ih slots known) (fun dispatches => ?_) sessions
                    (knows.imp (List.Subset.refl _) fitting)
                  refine .done ?_
                  rintro later ⟨few, sublist, reached⟩
                  refine ⟨by simpa using few, ?_, reached.imp ?_ ?_⟩
                  · rw [List.map_cons, List.map_cons, sameTask]
                    exact sublist.cons_cons _
                  · intro key member
                    simpa [sameTask, or_left_comm] using member
                  · rintro store ⟨⟨holds, first⟩, others⟩
                    exact ⟨holds, List.forall_mem_cons.mpr ⟨first, others⟩⟩

theorem assignedTask_taskId (now : Time) (agentId : String) (row : TaskRow) :
    (assignedTask now agentId row).taskId = row.taskId := rfl

/-- What one assignment writes. -/
def assignWrites (now : Time) (agentId : String) (dispatch : TaskDispatch) : List RowChange :=
  [.task dispatch.taskId (assignedTask now agentId) (assignedTask_taskId now agentId),
    .insertAssignment { taskId := dispatch.taskId, agentId := agentId, assignedAt := now }]

theorem foldl_assignWrites (now : Time) (agentId : String) (dispatches : List TaskDispatch)
    (store : Store) :
    (dispatches.flatMap (assignWrites now agentId)).foldl RowChange.apply store =
      dispatches.foldl (PgBroker.assign now agentId) store := by
  induction dispatches generalizing store with
  | nil => rfl
  | cons dispatch dispatches ih =>
      rw [List.flatMap_cons, List.foldl_append]
      exact ih (PgBroker.assign now agentId store dispatch)

theorem addsRow_assignWrites (now : Time) (agentId : String) (dispatches : List TaskDispatch)
    (updates : ∀ change ∈ writes, change.addsRow = false) :
    ∀ change ∈ writes ++ dispatches.flatMap (assignWrites now agentId),
      change.addsRow = false := by
  intro change member
  rcases List.mem_append.mp member with old | new
  · exact updates change old
  · obtain ⟨dispatch, _, made⟩ := List.mem_flatMap.mp new
    simp only [assignWrites, List.mem_cons, List.not_mem_nil, or_false] at made
    rcases made with rfl | rfl <;> rfl

theorem triple_assignAll (now : Time) (agentId : String) {dispatches : List TaskDispatch}
    (persists : pgEngine.Persists (Good work) id held fact)
    (updates : ∀ change ∈ writes, change.addsRow = false)
    (present : ∀ store, fact store → ∀ dispatch ∈ dispatches,
      store.task dispatch.taskId ≠ none) :
    pgEngine.Triple (Good work) id (Knows id writes held fact)
      (assignAll now agentId dispatches)
      fun _ => Knows id (writes ++ dispatches.flatMap (assignWrites now agentId)) held fact := by
  induction dispatches generalizing writes with
  | nil => exact .done fun sessions knows => by simpa using knows
  | cons dispatch dispatches ih =>
      have first : pgEngine.Triple (Good work) id (Knows id writes held fact)
          (assign now agentId dispatch)
          fun _ => Knows id (writes ++ assignWrites now agentId dispatch) held fact := by
        refine .bind (triple_updateTask persists updates _ _ _) fun affected => ?_
        rintro sessions (⟨_, ⟨store, holds, absent⟩, _⟩ | ⟨_, knows⟩)
        · exact absurd absent (present store holds dispatch (by simp))
        · refine Triple.imp (knows_write persists _) (fun _ knows => knows) ?_ sessions
            (knows.imp (List.subset_cons_self _ _) fun _ holds => holds.1)
          intro _ later reached
          rw [List.append_assoc] at reached
          exact reached
      refine .bind first fun _ => ?_
      rw [List.flatMap_cons, ← List.append_assoc]
      refine ih ?_ fun store holds other member => present store holds other (by simp [member])
      simpa using addsRow_assignWrites now agentId [dispatch] updates

/-! ## The poll -/

/-- What a poll with free slots has written when it commits. -/
theorem foldl_poll {now : Time} {agentId : String} {freeSlots : Int} (positive : ¬ freeSlots ≤ 0)
    (dispatches : List TaskDispatch) (store : Store) :
    (([RowChange.agent agentId (beaten now) (beaten_agentId now)] ++
          dispatches.flatMap (assignWrites now agentId)) ++
        [RowChange.agent agentId (withStatus (if dispatches.isEmpty then .idle else .busy))
          (withStatus_agentId _)]).foldl RowChange.apply store =
      handOut now agentId freeSlots dispatches store := by
  rw [List.foldl_append, List.foldl_append, foldl_assignWrites, handOut, if_neg positive]
  rfl

section Poll

variable {attempt : Attempt} (isStarted : work.started id attempt) {agentId : String}
  {freeSlots : Int} (isPoll : work.operation id = .pollTasksForAgent agentId freeSlots)

include isStarted isPoll

theorem triple_claimTasks {first : Store} {agent : AgentRow}
    (isAgent : first.agent agentId = some agent) (positive : ¬ freeSlots ≤ 0) :
    pgEngine.Triple (Good work) id
      (fun sessions => [first] ⊆ sessions.reads id ∧
        Knows id [.agent agentId (beaten attempt.now) (beaten_agentId attempt.now)]
          [.agent agentId] (fun store => store.agent agentId ≠ none) sessions)
      (claimTasks attempt agentId agent freeSlots)
      fun dispatches => Answered work id (.polled dispatches) := by
  have known : pgEngine.Persists (Good work) id [RowKey.agent agentId] fun store =>
      store.agent agentId ≠ none := (guarded_agent agentId fun row => row ≠ none).persists
  have viewed : pgEngine.Triple (Good work) id
      (fun sessions => [first] ⊆ sessions.reads id ∧
        Knows id [.agent agentId (beaten attempt.now) (beaten_agentId attempt.now)]
          [.agent agentId] (fun store => store.agent agentId ≠ none) sessions) (ask .view)
      fun seen sessions => [seen, first] ⊆ sessions.reads id ∧
        Knows id [.agent agentId (beaten attempt.now) (beaten_agentId attempt.now)]
          [.agent agentId] (fun store => store.agent agentId ≠ none) sessions :=
    knows_recall known fun _ holds => holds
  refine .bind viewed fun seen => ?_
  cases selected : PgBroker.selectWhere (PgBroker.fits agent) seen.tasks.rows with
  | error error =>
      exact (triple_abort known).imp (fun _ holds => holds.2) fun _ _ reached => reached
  | ok rows =>
      refine .bind (triple_remember (triple_lockFitting agent (by simp [RowChange.locks]) _ known)
        (keepsRows_lockFitting _ _ _) [seen, first]) fun dispatches => ?_
      have allFit : pgEngine.Persists (Good work) id
          (dispatches.map (fun dispatch => .task dispatch.taskId) ++ [RowKey.agent agentId])
          fun store => store.agent agentId ≠ none ∧
            ∀ dispatch ∈ dispatches, Fitting agent dispatch store := by
        refine (known.mono (List.subset_append_right _ _)).and (.of_mem fun dispatch member => ?_)
        refine (guarded_fitting agent dispatch).persists.mono ?_
        simpa using ⟨dispatch, member, rfl⟩
      rintro sessions ⟨isRead, few, chosen, knows⟩
      refine Triple.bind (triple_remember (triple_assignAll attempt.now agentId allFit
        (by simp [RowChange.addsRow]) ?_) (keepsRows_assignAll _ _ _) [seen, first])
        (fun _ => ?_) sessions ⟨isRead, knows⟩
      · intro store holds dispatch member
        obtain ⟨row, found, _⟩ := holds.2 dispatch member
        simp [found]
      refine .bind (triple_remember (triple_updateAgent allFit
        (addsRow_assignWrites _ _ _ (by simp [RowChange.addsRow])) _ _ _)
        (keepsRows_updateAgent _ _ _) [seen, first]) fun affected => ?_
      rintro later ⟨stillRead, ⟨_, ⟨store, holds, absent⟩, _⟩ | ⟨_, knows⟩⟩
      · exact absurd absent holds.1
      · refine triple_commitAfter .polled ((allFit.mono (List.subset_cons_self _ _)).and
          ((guarded_agent agentId fun row => row ≠ none).persists.mono (by simp))) isStarted
          (fun reads included => ?_) later ⟨stillRead, knows⟩
        rintro store ⟨⟨present, fitting⟩, _⟩
        rw [isPoll]
        refine ⟨dispatches, rfl, present, ⟨agent, ⟨first, included (by simp), isAgent⟩, few,
          fun _ => ⟨seen, included (by simp), rows, selected, chosen⟩, fitting⟩, ?_⟩
        exact foldl_poll positive dispatches store

theorem triple_pollTasksForAgent :
    pgEngine.Triple (Good work) id (fun sessions => sessions.committed.ledger.Exclusive)
      (pollTasksForAgent attempt agentId freeSlots)
      fun dispatches => Answered work id (.polled dispatches) := by
  refine .bind triple_begin fun _ => ?_
  have viewed : pgEngine.Triple (Good work) id
      (Knows id [] [] fun store => store.ledger.Exclusive) (ask .view)
      fun seen sessions => [seen] ⊆ sessions.reads id ∧ Knows id [] [] (fun store =>
        seen.agent agentId ≠ none → store.agent agentId ≠ none) sessions :=
    (knows_recall persists_exclusive fun _ _ present => present).imp
      (fun _ knows => ⟨List.nil_subset _, knows⟩) fun _ _ reached => reached
  refine .bind viewed fun seen => ?_
  cases found : seen.agent agentId with
  | none =>
      have nothing : pgEngine.Persists (Good work) id [] fun _ => True :=
        persists_const True
      exact (Triple.forget (triple_rollbackWith .polled nothing rfl) fun _ _ => trivial).imp
        (fun _ known => known.2) fun _ _ answered => answered
  | some agent =>
      have here : ∀ store : Store, (some agent ≠ none → store.agent agentId ≠ none) →
          store.agent agentId ≠ none := fun store holds => holds (by simp)
      have known : pgEngine.Persists (Good work) id [] fun store =>
          store.agent agentId ≠ none := (guarded_known agentId).persists
      have noWrites : ∀ change ∈ ([] : List RowChange), change.addsRow = false := by simp
      have beat := triple_updateAgent known noWrites agentId (beaten attempt.now)
        (beaten_agentId attempt.now)
      refine .bind (triple_remember (Triple.forget beat here) (keepsRows_updateAgent _ _ _)
        [seen]) fun affected => ?_
      rintro sessions ⟨isRead, ⟨_, ⟨store, present, absent⟩, _⟩ | ⟨_, knows⟩⟩
      · exact absurd absent present
      · have held := knows.imp (List.Subset.refl _) fun _ holds => holds.2
        by_cases noSlots : freeSlots ≤ 0
        · rw [if_pos noSlots]
          refine triple_commitAfter .polled (guarded_agent agentId fun row => row ≠ none).persists
            isStarted (fun reads included store present => ?_) sessions ⟨isRead, held⟩
          rw [isPoll]
          refine ⟨[], rfl, present, ⟨agent, ⟨seen, included (by simp), found⟩, by simp,
            fun some => absurd rfl some, by simp⟩, ?_⟩
          rw [handOut, if_pos noSlots]
          rfl
        · rw [if_neg noSlots]
          exact triple_claimTasks isStarted isPoll found noSlots sessions ⟨isRead, held⟩

end Poll

end PgSessions

end DistributedComputing
