import DistributedComputing.MongoBrokerEvents

/-!
# The loop of the sweep, cut short

What one agent sees of the sweep without transactions: nothing, when the loop does not
reach it or visits others, or the three writes for it as far as they got.
-/

namespace DistributedComputing

namespace Store

/-- The row at the position is an open assignment of the agent. -/
def OpenAt (store : Store) (agentId : String) (position : Nat) : Prop :=
  ∃ row, store.taskAssignments[position]? = some row ∧ row.agentId = agentId ∧
    row.unassignedAt = none

/-- The agent has no task that is running or queued and no open assignment. -/
def HoldsNothing (store : Store) (agentId : String) : Prop :=
  (∀ taskId, ¬ store.ledger.Holds agentId taskId) ∧ ∀ position, ¬ store.OpenAt agentId position

/-- Two states of the tables that an agent cannot tell apart. -/
structure SameFor (agentId : String) (before after : Store) : Prop where
  agent : after.agent agentId = before.agent agentId
  holds : ∀ taskId, after.ledger.Holds agentId taskId ↔ before.ledger.Holds agentId taskId
  openAt : ∀ position, after.OpenAt agentId position ↔ before.OpenAt agentId position

theorem SameFor.refl (agentId : String) (store : Store) : SameFor agentId store store where
  agent := rfl
  holds _ := Iff.rfl
  openAt _ := Iff.rfl

theorem SameFor.trans {agentId : String} {first second third : Store}
    (same : SameFor agentId first second) (sameToo : SameFor agentId second third) :
    SameFor agentId first third where
  agent := sameToo.agent.trans same.agent
  holds taskId := (sameToo.holds taskId).trans (same.holds taskId)
  openAt position := (sameToo.openAt position).trans (same.openAt position)

theorem SameFor.holdsNothing {agentId : String} {before after : Store}
    (same : SameFor agentId before after) :
    after.HoldsNothing agentId ↔ before.HoldsNothing agentId := by
  simp only [HoldsNothing, same.holds, same.openAt]

/-- The agent is offline, and what it had is gone as far as the writes for it got. -/
structure SweptFor (agentId : String) (closed : Nat → Bool) (requeued : Int → Bool)
    (before after : Store) : Prop where
  offline : after.ledger.status agentId = some .offline
  holds : ∀ taskId, after.ledger.Holds agentId taskId ↔
    before.ledger.Holds agentId taskId ∧ requeued taskId = false
  openAt : ∀ position, after.OpenAt agentId position ↔
    before.OpenAt agentId position ∧ closed position = false

/-- What is left is what the writes did not reach. -/
theorem SweptFor.holdsNothing {agentId : String} {closed : Nat → Bool} {requeued : Int → Bool}
    {before after : Store} (swept : SweptFor agentId closed requeued before after) :
    after.HoldsNothing agentId ↔
      ¬ ((∃ row, before.OpenAt agentId row ∧ closed row = false) ∨
        ∃ taskId, before.ledger.Holds agentId taskId ∧ requeued taskId = false) := by
  simp only [HoldsNothing, swept.holds, swept.openAt, not_or, not_exists]
  exact and_comm

theorem SameFor.swept {agentId : String} {closed : Nat → Bool} {requeued : Int → Bool}
    {first second third : Store} (same : SameFor agentId first second)
    (swept : SweptFor agentId closed requeued second third) :
    SweptFor agentId closed requeued first third where
  offline := swept.offline
  holds taskId := (swept.holds taskId).trans (and_congr_left' (same.holds taskId))
  openAt position := (swept.openAt position).trans (and_congr_left' (same.openAt position))

theorem SweptFor.same {agentId : String} {closed : Nat → Bool} {requeued : Int → Bool}
    {first second third : Store} (swept : SweptFor agentId closed requeued first second)
    (same : SameFor agentId second third) : SweptFor agentId closed requeued first third where
  offline := by
    have offline := swept.offline
    rw [ledger_status] at offline ⊢
    rw [same.agent, offline]
  holds taskId := (same.holds taskId).trans (swept.holds taskId)
  openAt position := (same.openAt position).trans (swept.openAt position)

end Store

namespace MongoBroker

open MongoCall Store

/-! ## The writes for one agent -/

theorem agentId_offline (row : AgentRow) :
    (AgentSet.apply { status := some .offline } row).agentId = row.agentId :=
  rfl

/-- The sweep of one agent, with the rows that its second and third write reached. -/
def sweepUpTo (now : Time) (closed requeued : Progress) (store : Store) (agentId : String) :
    Store :=
  updateReachedTasks (activeTasksOf agentId) requeueSet requeued
    (updateReachedAssignments { agentId := some agentId } (offlineUnassign now) closed
      (store.updateAgent agentId (AgentSet.apply { status := some .offline }) agentId_offline))

theorem updateReachedAssignments_all (filter : AssignmentFilter) (set : AssignmentSet)
    (store : Store) : updateReachedAssignments filter set (fun _ => true) store =
      store.updateAssignments filter.matches set.apply := by
  refine Store.ext rfl rfl ?_ rfl
  apply List.ext_getElem?
  intro position
  simp [updateReachedAssignments, Store.updateAssignments]

theorem updateReachedAssignments_nothing (filter : AssignmentFilter) (set : AssignmentSet)
    (store : Store) : updateReachedAssignments filter set (fun _ => false) store = store := by
  refine Store.ext rfl rfl ?_ rfl
  apply List.ext_getElem?
  intro position
  simp [updateReachedAssignments]

theorem updateReachedTasks_all (filter : TaskFilter) (set : TaskSet) (store : Store) :
    updateReachedTasks filter set (fun _ => true) store =
      store.updateTasks filter.matches set.apply set.taskId_apply := by
  simp [updateReachedTasks]

theorem updateReachedTasks_nothing (filter : TaskFilter) (set : TaskSet) (store : Store) :
    updateReachedTasks filter set (fun _ => false) store = store := by
  refine Store.ext rfl ?_ rfl rfl
  apply KeyedTable.ext
  simp [updateReachedTasks, Store.updateTasks, KeyedTable.updateWhere]

theorem holds_iff_task {store : Store} {agentId : String} {taskId : Int} :
    store.ledger.Holds agentId taskId ↔
      ∃ task, store.task taskId = some task ∧ task.assignedAgent = some agentId ∧
        (task.state = .running ∨ task.state = .queued) := by
  simp only [Ledger.Holds, ledger_assignee, ledger_state]
  cases store.task taskId <;> simp

theorem holds_sweepUpTo (now : Time) (closed requeued : Progress) (store : Store)
    (agentId other : String) (taskId : Int) :
    (sweepUpTo now closed requeued store agentId).ledger.Holds other taskId ↔
      store.ledger.Holds other taskId ∧ (other = agentId → requeued taskId.toNat = false) := by
  have taskEq : (sweepUpTo now closed requeued store agentId).task taskId =
      (store.task taskId).map fun task =>
        if (activeTasksOf agentId).matches task && requeued task.taskId.toNat then
          requeueSet.apply task
        else task := by
    rw [sweepUpTo, updateReachedTasks, task_updateTasks]
    rfl
  rw [holds_iff_task, holds_iff_task, taskEq]
  cases found : store.task taskId with
  | none => simp
  | some task =>
      have sameId : task.taskId = taskId := KeyedTable.key_of_lookup found
      simp only [Option.map_some, Option.some.injEq, exists_eq_left', sameId]
      by_cases hit : ((activeTasksOf agentId).matches task && requeued taskId.toNat) = true
      · rw [if_pos hit]
        rw [Bool.and_eq_true] at hit
        simp only [activeTasksOf, TaskFilter.matches] at hit
        constructor
        · rintro ⟨assigned, _⟩
          cases assigned
        · rintro ⟨⟨assigned, _⟩, missed⟩
          have same : other = agentId := by simp_all
          rw [missed same] at hit
          cases hit.2
      · rw [if_neg hit]
        refine ⟨fun held => ⟨held, ?_⟩, And.left⟩
        rintro rfl
        simp only [activeTasksOf, TaskFilter.matches] at hit
        simp_all

theorem openAt_sweepUpTo (now : Time) (closed requeued : Progress) (store : Store)
    (agentId other : String) (position : Nat) :
    (sweepUpTo now closed requeued store agentId).OpenAt other position ↔
      store.OpenAt other position ∧ (other = agentId → closed position = false) := by
  have rowEq : (sweepUpTo now closed requeued store agentId).taskAssignments[position]? =
      store.taskAssignments[position]?.map fun row =>
        if decide (row.agentId = agentId) && row.unassignedAt.isNone && closed position then
          (offlineUnassign now).apply row
        else row := by
    simp [sweepUpTo, updateReachedTasks, updateReachedAssignments, AssignmentFilter.matches]
  simp only [OpenAt, rowEq]
  cases found : store.taskAssignments[position]? with
  | none => simp
  | some row =>
      simp only [Option.map_some, Option.some.injEq, exists_eq_left']
      by_cases hit : (decide (row.agentId = agentId) && row.unassignedAt.isNone &&
          closed position) = true
      · rw [if_pos hit]
        constructor
        · rintro ⟨_, stillOpen⟩
          cases stillOpen
        · rintro ⟨⟨rfl, _⟩, missed⟩
          simp_all
      · rw [if_neg hit]
        refine ⟨fun isOpen => ⟨isOpen, ?_⟩, And.left⟩
        rintro rfl
        simp_all

theorem agent_sweepUpTo (now : Time) (closed requeued : Progress) (store : Store)
    (agentId other : String) :
    (sweepUpTo now closed requeued store agentId).agent other =
      if other = agentId then
        (store.agent agentId).map (AgentSet.apply { status := some .offline })
      else store.agent other :=
  store.agent_updateAgent agentId _ (AgentSet.agentId_apply _) other

theorem sameFor_sweepUpTo (now : Time) (closed requeued : Progress) (store : Store)
    {agentId other : String} (different : other ≠ agentId) :
    SameFor other store (sweepUpTo now closed requeued store agentId) where
  agent := by rw [agent_sweepUpTo, if_neg different]
  holds taskId := by
    rw [holds_sweepUpTo]
    exact and_iff_left fun same => absurd same different
  openAt position := by
    rw [openAt_sweepUpTo]
    exact and_iff_left fun same => absurd same different

theorem sweptFor_sweepUpTo (now : Time) (closed requeued : Progress) {store : Store}
    {agentId : String} (known : store.agent agentId ≠ none) :
    SweptFor agentId closed (fun taskId => requeued taskId.toNat) store
      (sweepUpTo now closed requeued store agentId) where
  offline := by
    obtain ⟨row, found⟩ := Option.ne_none_iff_exists'.mp known
    rw [ledger_status, agent_sweepUpTo, if_pos rfl, found]
    rfl
  holds taskId := by
    rw [holds_sweepUpTo]
    exact and_congr_right fun _ => forall_prop_of_true rfl
  openAt position := by
    rw [openAt_sweepUpTo]
    exact and_congr_right fun _ => forall_prop_of_true rfl

/-! ## The loop over the agents -/

/-- The loop, cut short by the given exception, from the first agent on. -/
theorem runUntil_requeueLoop_cons (rank : Int → Nat) (fault : DbError) (now : Time)
    (agentId : String) (agentIds : List String) (raising : Option (Nat × Progress))
    (store : Store) :
    (requeueLoop now (agentId :: agentIds)).runUntil (exec rank) (interrupted rank) fault raising
        store =
      let all : Progress := fun _ => true
      let nothing : Progress := fun _ => false
      match raising with
      | none =>
          (requeueLoop now agentIds).runUntil (exec rank) (interrupted rank) fault none
            (sweepUpTo now all all store agentId)
      | some (0, progress) =>
          (.error fault, if progress 0 then sweepUpTo now nothing nothing store agentId else store)
      | some (1, progress) => (.error fault, sweepUpTo now progress nothing store agentId)
      | some (2, progress) => (.error fault, sweepUpTo now all progress store agentId)
      | some (index + 3, progress) =>
          (requeueLoop now agentIds).runUntil (exec rank) (interrupted rank) fault
            (some (index, progress)) (sweepUpTo now all all store agentId) := by
  obtain ⟨_, offline, _⟩ := exec_agentsUpdateOne rank agentId { status := some .offline } store
  rcases raising with _ | ⟨_ | _ | _ | index, progress⟩
  · simp only [CallProgram.runUntil_none, sweepUpTo, updateReachedAssignments_all,
      updateReachedTasks_all]
    exact CallProgram.run_perform_of_ok _ offline _
  · simp only [sweepUpTo, updateReachedAssignments_nothing, updateReachedTasks_nothing]
    refine (CallProgram.runUntil_zero _ _ fault progress _ _ store).trans ?_
    simp only [interrupted, offline]
  · simp only [sweepUpTo, updateReachedTasks_nothing]
    exact CallProgram.runUntil_perform_of_ok _ _ fault 0 progress offline _
  · simp only [sweepUpTo, updateReachedAssignments_all]
    exact CallProgram.runUntil_perform_of_ok _ _ fault 1 progress offline _
  · simp only [sweepUpTo, updateReachedAssignments_all, updateReachedTasks_all]
    exact CallProgram.runUntil_perform_of_ok _ _ fault (index + 2) progress offline _

/-- The loop does not touch the agents that it does not visit. -/
theorem sameFor_requeueLoop (rank : Int → Nat) (fault : DbError) (now : Time)
    {agentIds : List String} {other : String} (absent : other ∉ agentIds)
    (raising : Option (Nat × Progress)) (store : Store) :
    SameFor other store ((requeueLoop now agentIds).runUntil (exec rank) (interrupted rank) fault
      raising store).2 := by
  induction agentIds generalizing raising store with
  | nil =>
      rw [requeueLoop, CallProgram.pure_eq, CallProgram.runUntil_done]
      exact SameFor.refl other store
  | cons agentId agentIds ih =>
      rw [List.mem_cons, not_or] at absent
      have partly := fun closed requeued =>
        sameFor_sweepUpTo now closed requeued store absent.1
      have rest := fun raising => (partly _ _).trans
        (ih absent.2 raising (sweepUpTo now (fun _ => true) (fun _ => true) store agentId))
      rw [runUntil_requeueLoop_cons]
      rcases raising with _ | ⟨_ | _ | _ | index, progress⟩
      · exact rest none
      · dsimp only
        split
        · exact partly _ _
        · exact SameFor.refl other store
      · exact partly progress fun _ => false
      · exact partly (fun _ => true) progress
      · exact rest (some (index, progress))

/-- Each agent takes three calls of the loop. -/
theorem reaches_next (index : Nat) (progress : Progress) (position call element : Nat) :
    reaches (some (index + 3, progress)) (3 * (position + 1) + call) element =
      reaches (some (index, progress)) (3 * position + call) element := by
  have shifted : 3 * (position + 1) + call = 3 * position + call + 3 := by omega
  rw [shifted, reaches_succ]

theorem reaches_eq_false {index call : Nat} (early : index < call) (progress : Progress)
    (element : Nat) : reaches (some (index, progress)) call element = false := by
  have before : ¬ call < index := by omega
  have apart : ¬ call = index := by omega
  simp [reaches, before, apart]

theorem requeueLoop_view (rank : Int → Nat) (fault : DbError) (now : Time)
    {agentIds : List String} (distinct : agentIds.Nodup) {agentId : String} {position : Nat}
    (visited : agentIds[position]? = some agentId) (raising : Option (Nat × Progress))
    {store : Store} (known : store.agent agentId ≠ none) :
    let after := ((requeueLoop now agentIds).runUntil (exec rank) (interrupted rank) fault
      raising store).2
    if reaches raising (3 * position) 0 then
      SweptFor agentId (fun row => reaches raising (3 * position + 1) row)
        (fun taskId => reaches raising (3 * position + 2) taskId.toNat) store after
    else SameFor agentId store after := by
  induction agentIds generalizing position raising store with
  | nil => cases visited
  | cons first agentIds ih =>
      rw [List.nodup_cons] at distinct
      rw [runUntil_requeueLoop_cons]
      cases position with
      | zero =>
          obtain rfl : first = agentId := by simpa using visited
          have partly := fun closed requeued =>
            sweptFor_sweepUpTo now closed requeued known
          have rest := fun raising => (partly (fun _ => true) (fun _ => true)).same
            (sameFor_requeueLoop rank fault now distinct.1 raising
              (sweepUpTo now (fun _ => true) (fun _ => true) store first))
          rcases raising with _ | ⟨_ | _ | _ | index, progress⟩
          · exact rest none
          · by_cases started : progress 0 = true
            · simpa [reaches, started] using partly (fun _ => false) (fun _ => false)
            · simpa [reaches, started] using SameFor.refl first store
          · simpa [reaches] using partly progress (fun _ => false)
          · simpa [reaches] using partly (fun _ => true) progress
          · simpa [reaches] using rest (some (index, progress))
      | succ position =>
          have member : agentId ∈ agentIds := List.mem_of_getElem? visited
          have different : agentId ≠ first := by
            rintro rfl
            exact distinct.1 member
          have partly := fun closed requeued =>
            sameFor_sweepUpTo now closed requeued store different
          have whole := partly (fun _ => true) (fun _ => true)
          have knownAfter : (sweepUpTo now (fun _ => true) (fun _ => true) store first).agent
              agentId ≠ none := by
            rw [whole.agent]
            exact known
          have rest := fun raising => ih distinct.2 visited raising knownAfter
          rcases raising with _ | ⟨_ | _ | _ | index, progress⟩
          · have swept := rest none
            simp only [reaches, if_true] at swept ⊢
            exact whole.swept swept
          · rw [reaches_eq_false (by omega)]
            dsimp only
            split
            · contradiction
            · split
              · exact partly _ _
              · exact SameFor.refl agentId store
          · rw [reaches_eq_false (by omega)]
            exact partly progress fun _ => false
          · rw [reaches_eq_false (by omega)]
            exact partly (fun _ => true) progress
          · have swept := rest (some (index, progress))
            have first := reaches_next index progress position 0 0
            simp only [Nat.add_zero] at first
            simp only [reaches_next, first] at swept ⊢
            split at swept
            · rename_i started
              rw [if_pos started]
              exact whole.swept swept
            · rename_i started
              rw [if_neg started]
              exact whole.trans swept

/-- A loop that returns has made every write for every agent. -/
theorem reaches_of_requeueLoop_ok (rank : Int → Nat) (fault : DbError) (now : Time)
    {agentIds : List String} {raising : Option (Nat × Progress)} {store : Store} {result : Unit}
    (returned : ((requeueLoop now agentIds).runUntil (exec rank) (interrupted rank) fault raising
      store).1 = .ok result) {call : Nat} (early : call < 3 * agentIds.length) (element : Nat) :
    reaches raising call element = true := by
  induction agentIds generalizing raising store call with
  | nil => simp at early
  | cons agentId agentIds ih =>
      rw [runUntil_requeueLoop_cons] at returned
      rw [List.length_cons] at early
      rcases raising with _ | ⟨_ | _ | _ | index, progress⟩
      · rfl
      · cases returned
      · cases returned
      · cases returned
      · by_cases first : call < 3
        · have before : call < index + 1 + 1 + 1 := by omega
          simp [reaches, before]
        · have earlier : call - 3 < 3 * agentIds.length := by omega
          have later := ih returned earlier
          rw [← reaches_succ index progress (call - 3) element 3] at later
          rwa [Nat.sub_add_cancel (by omega)] at later

end MongoBroker

end DistributedComputing
