import DistributedComputing.StoreLedger
import DistributedComputing.BrokerInterface

/-!
# Events behind a change of the tables

An operation of a broker is explained by the ledger events that it amounts to.
-/

namespace DistributedComputing

open TransitionRuns

abbrev BrokerEvent :=
  LedgerEvent Int String

/-- The events were possible one after the other, and lead from one ledger to the other. -/
structure Explains (events : List BrokerEvent) (before after : Store) : Prop where
  possible : Along Ledger.step Ledger.Possible before.ledger events
  ledger_eq : after.ledger = run Ledger.step before.ledger events

namespace Explains

theorem quiet {before after : Store} (same : after.ledger = before.ledger) :
    Explains [] before after :=
  ⟨trivial, same⟩

theorem single {event : BrokerEvent} {before after : Store}
    (possible : before.ledger.Possible event) (equal : after.ledger = before.ledger.step event) :
    Explains [event] before after :=
  ⟨⟨possible, trivial⟩, equal⟩

theorem append {first second : List BrokerEvent} {before middle after : Store}
    (start : Explains first before middle) (rest : Explains second middle after) :
    Explains (first ++ second) before after := by
  constructor
  · rw [along_append]
    refine ⟨start.possible, ?_⟩
    rw [← start.ledger_eq]
    exact rest.possible
  · rw [run_append, ← start.ledger_eq]
    exact rest.ledger_eq

theorem cons {event : BrokerEvent} {events : List BrokerEvent} {before middle after : Store}
    (possible : before.ledger.Possible event) (equal : middle.ledger = before.ledger.step event)
    (rest : Explains events middle after) : Explains (event :: events) before after :=
  append (single possible equal) rest

/-- What is explained depends on the start only through its ledger. -/
theorem of_ledger_eq {events : List BrokerEvent} {before other after : Store}
    (same : before.ledger = other.ledger) (explains : Explains events other after) :
    Explains events before after :=
  ⟨by rw [same]; exact explains.possible, by rw [same]; exact explains.ledger_eq⟩

end Explains

theorem Store.agent_foldl {Item : Type} {change : Store → Item → Store}
    (kept : ∀ store item agentId, (change store item).agent agentId = store.agent agentId)
    (items : List Item) (store : Store) (agentId : String) :
    (items.foldl change store).agent agentId = store.agent agentId := by
  induction items generalizing store with
  | nil => rfl
  | cons item items ih => exact (ih (change store item)).trans (kept store item agentId)

/-- A task that a poll may hand out. -/
structure Claimable (store : Store) (taskId : Int) : Prop where
  queued : store.ledger.state taskId = some .queued
  unassigned : store.ledger.assignee taskId = none

theorem Claimable.of_claim_other {store after : Store} {agentId : String}
    {taskId other : Int} (claimable : Claimable store other) (different : other ≠ taskId)
    (claimed : after.ledger = store.ledger.step (.claim agentId taskId)) :
    Claimable after other := by
  constructor
  · rw [claimed]
    simpa [Ledger.step, different] using claimable.queued
  · rw [claimed]
    simpa [Ledger.step, different] using claimable.unassigned

/-- A loop that assigns claimable tasks with distinct ids is a sequence of claims. -/
theorem explains_claims {Item : Type} (assign : Store → Item → Store) (taskIdOf : Item → Int)
    (agentId : String)
    (assign_ledger : ∀ store item, Claimable store (taskIdOf item) →
      (assign store item).ledger = store.ledger.step (.claim agentId (taskIdOf item)))
    {items : List Item} (distinct : (items.map taskIdOf).Nodup) {store : Store}
    (registered : store.ledger.status agentId ≠ none)
    (claimable : ∀ item ∈ items, Claimable store (taskIdOf item)) :
    Explains (items.map fun item => .claim agentId (taskIdOf item)) store
      (items.foldl assign store) := by
  induction items generalizing store with
  | nil => exact .quiet rfl
  | cons item items ih =>
      rw [List.map_cons, List.nodup_cons] at distinct
      have ready := claimable item (by simp)
      have equal := assign_ledger store item ready
      refine .cons ⟨ready.queued, ready.unassigned, registered⟩ equal (ih distinct.2 ?_ ?_)
      · rw [equal]
        exact registered
      · intro other member
        have different : taskIdOf other ≠ taskIdOf item := fun same =>
          distinct.1 (List.mem_map.mpr ⟨other, member, same⟩)
        exact (claimable other (by simp [member])).of_claim_other different equal

/-- An agent that a sweep may take offline. -/
def Expirable (store : Store) (agentId : String) : Prop :=
  ∃ row, store.agent agentId = some row ∧ row.status ≠ .offline

/-- A loop that takes distinct agents offline is a sequence of expiries. -/
theorem explains_expiries (takeOffline : Store → String → Store)
    (takeOffline_ledger : ∀ store agentId, Expirable store agentId →
      (takeOffline store agentId).ledger = store.ledger.step (.expire agentId))
    (takeOffline_agent : ∀ store agentId other, other ≠ agentId →
      (takeOffline store agentId).agent other = store.agent other)
    {agentIds : List String} (distinct : agentIds.Nodup) {store : Store}
    (expirable : ∀ agentId ∈ agentIds, Expirable store agentId) :
    Explains (agentIds.map .expire) store (agentIds.foldl takeOffline store) := by
  induction agentIds generalizing store with
  | nil => exact .quiet rfl
  | cons agentId agentIds ih =>
      rw [List.nodup_cons] at distinct
      have ready := expirable agentId (by simp)
      have equal := takeOffline_ledger store agentId ready
      refine .cons ?_ equal (ih distinct.2 ?_)
      · obtain ⟨row, found, online⟩ := ready
        exact ⟨row.status, Store.status_of_agent found, online⟩
      · intro other member
        have different : other ≠ agentId := by
          rintro rfl
          exact distinct.1 member
        obtain ⟨row, found, online⟩ := expirable other (by simp [member])
        exact ⟨row, by rw [takeOffline_agent store agentId other different, found], online⟩

/-- The events of a poll.  The status is set before the claims here; the brokers set it
after them, which makes no difference in the end. -/
def pollEvents (agentId : String) (freeSlots : Int) (dispatches : List TaskDispatch) :
    List BrokerEvent :=
  if freeSlots ≤ 0 then []
  else
    .setStatus agentId (if dispatches.isEmpty then .idle else .busy) ::
      dispatches.map fun dispatch => .claim agentId dispatch.taskId

theorem pollEvents_noReport {agentId : String} {freeSlots : Int}
    {dispatches : List TaskDispatch} (task : Int) (state : TaskState) (exitCode : Option Int) :
    .report task state exitCode ∉ pollEvents agentId freeSlots dispatches := by
  unfold pollEvents
  split <;> simp

theorem run_claims_setStatus (ledger : Ledger Int String) (agentId : String)
    (status : AgentStatus) (taskIds : List Int) :
    (run Ledger.step ledger (taskIds.map (.claim agentId))).step (.setStatus agentId status) =
      run Ledger.step (ledger.step (.setStatus agentId status))
        (taskIds.map (.claim agentId)) := by
  induction taskIds generalizing ledger with
  | nil => rfl
  | cons taskId taskIds ih => exact ih _

theorem along_claims_setStatus {ledger : Ledger Int String} {agentId : String}
    (status : AgentStatus) {taskIds : List Int}
    (along : Along Ledger.step Ledger.Possible ledger (taskIds.map (.claim agentId))) :
    Along Ledger.step Ledger.Possible (ledger.step (.setStatus agentId status))
      (taskIds.map (.claim agentId)) := by
  induction taskIds generalizing ledger with
  | nil => trivial
  | cons taskId taskIds ih =>
      refine ⟨⟨along.1.1, along.1.2.1, by simp [Ledger.step]⟩, ?_⟩
      have commuted : (ledger.step (.setStatus agentId status)).step (.claim agentId taskId) =
          (ledger.step (.claim agentId taskId)).step (.setStatus agentId status) := rfl
      rw [commuted]
      exact ih along.2

/-- Claims followed by the status of the agent are the events of a poll. -/
theorem explains_poll {agentId : String} {freeSlots : Int} {dispatches : List TaskDispatch}
    {before claimed after : Store} (positive : ¬ freeSlots ≤ 0)
    (claims : Explains (dispatches.map fun dispatch => .claim agentId dispatch.taskId)
      before claimed)
    (statusSet : after.ledger = claimed.ledger.step
      (.setStatus agentId (if dispatches.isEmpty then .idle else .busy))) :
    Explains (pollEvents agentId freeSlots dispatches) before after := by
  have asIds : (dispatches.map fun dispatch => (.claim agentId dispatch.taskId : BrokerEvent)) =
      (dispatches.map TaskDispatch.taskId).map (.claim agentId) := by
    simp [Function.comp_def]
  rw [pollEvents, if_neg positive, asIds]
  rw [asIds] at claims
  constructor
  · exact ⟨trivial, along_claims_setStatus _ claims.possible⟩
  · rw [statusSet, claims.ledger_eq, run_cons, run_claims_setStatus]

/-! ## What each operation does when the database does not fail -/

/-- The agents that a sweep finds. -/
def Store.staleAgents (store : Store) (now : Time) (offlineAfterSec : Int) : List String :=
  (store.agents.rows.filter fun row =>
    decide (row.status ≠ .offline) &&
      decide (row.lastHeartbeat < now - offlineAfterSec * 1000)).map AgentRow.agentId

theorem Store.nodup_staleAgents (store : Store) (now : Time) (offlineAfterSec : Int) :
    (store.staleAgents now offlineAfterSec).Nodup :=
  store.agents.unique.sublist (List.filter_sublist.map AgentRow.agentId)

theorem Store.expirable_of_stale {store : Store} {now : Time} {offlineAfterSec : Int}
    {agentId : String} (stale : agentId ∈ store.staleAgents now offlineAfterSec) :
    Expirable store agentId := by
  obtain ⟨row, member, rfl⟩ := List.mem_map.mp stale
  rw [List.mem_filter, Bool.and_eq_true, decide_eq_true_eq] at member
  exact ⟨row, KeyedTable.lookup_of_mem member.1, member.2.1⟩

/-- An outcome of an operation: its result or exception, and the tables after it. -/
abbrev Outcome (Result : Type) :=
  Except DbError Result × Store

def UpsertSpec (agentId : String) (store : Store) (outcome : Outcome Bool) : Prop :=
  outcome.1 = .ok true ∧ Explains [.setStatus agentId .idle] store outcome.2

def HeartbeatSpec (heartbeat : AgentHeartbeat) (store : Store) : Outcome Bool → Prop
  | (.error _, _) => False
  | (.ok false, after) => store.agent heartbeat.agentId = none ∧ after = store
  | (.ok true, after) =>
      store.agent heartbeat.agentId ≠ none ∧
        Explains [.setStatus heartbeat.agentId heartbeat.status] store after

def GetTaskSpec (taskId : Int) (store : Store) (outcome : Outcome (Option TaskRecord)) : Prop :=
  outcome.2 = store ∧ ∃ record : TaskRow → TaskRecord,
    (∀ row, (record row).state = row.state) ∧ outcome.1 = .ok ((store.task taskId).map record)

def GetAgentSpec (store : Store) (outcome : Outcome (Option AgentRecord)) : Prop :=
  outcome.2 = store

def CreateSpec (store : Store) : Outcome Int → Prop
  | (.error _, after) => after = store
  | (.ok taskId, after) =>
      (taskId ≤ 0 ∧ after = store) ∨ (0 < taskId ∧ Explains [.create taskId] store after)

def PollSpec (agentId : String) (freeSlots : Int) (store : Store) :
    Outcome (Option (List TaskDispatch)) → Prop
  | (.error _, after) => after = store
  | (.ok none, after) => store.agent agentId = none ∧ after = store
  | (.ok (some dispatches), after) =>
      store.agent agentId ≠ none ∧ (freeSlots ≤ 0 → dispatches = []) ∧
        Explains (pollEvents agentId freeSlots dispatches) store after

def UpdateSpec (taskId : Int) (update : TaskStatusUpdate) (store : Store) : Outcome Bool → Prop
  | (.error _, after) => after = store
  | (.ok false, after) => store.task taskId = none ∧ after = store
  | (.ok true, after) =>
      store.task taskId ≠ none ∧ Explains [.report taskId update.state update.exitCode] store after

def CancelSpec (taskId : Int) (store : Store) : Outcome CancelTaskResult → Prop
  | (.ok .ok, after) => Explains [.cancel taskId] store after
  | (_, after) => after = store

def SweepSpec (now : Time) (offlineAfterSec : Int) (store : Store) (outcome : Outcome Int) :
    Prop :=
  outcome.1 = .ok (store.staleAgents now offlineAfterSec).length ∧
    Explains ((store.staleAgents now offlineAfterSec).map .expire) store outcome.2

end DistributedComputing
