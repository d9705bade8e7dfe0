import DistributedComputing.PgBrokerEvents
import DistributedComputing.PgSessions

/-!
# What the transactions of the PostgreSQL broker commit

At its commit every transaction is a sequence of ledger events, whatever was committed
since it began.  Only a sweep is less than that: it returns the tasks that it has seen.
-/

namespace DistributedComputing

open TransitionRuns

/-! ## Sweeps and leases -/

namespace Lease

variable {Agent : Type}

/-- End the lease if one of the agents holds it. -/
def closeHeldIn [DecidableEq Agent] (agents : List Agent) (lease : Lease Agent) : Lease Agent :=
  if lease.holder ∈ agents then lease.close .agentOffline else lease

theorem openHolders_map_closeHeldIn [DecidableEq Agent] (agents : List Agent)
    (leases : List (Lease Agent)) :
    openHolders (leases.map (closeHeldIn agents)) =
      (openHolders leases).filter fun holder => decide (holder ∉ agents) := by
  induction leases with
  | nil => rfl
  | cons lease leases ih =>
      unfold openHolders at ih ⊢
      rcases lease with ⟨holder, _ | ending⟩
      · by_cases held : holder ∈ agents
        · simpa [closeHeldIn, close, held] using ih
        · simpa [closeHeldIn, held] using ih
      · by_cases held : holder ∈ agents
        · simpa [closeHeldIn, close, held] using ih
        · simpa [closeHeldIn, held] using ih

end Lease

namespace Ledger

variable {Task Agent : Type}

/-- An agent with an open lease has the task, and no other lease of the task is open. -/
def Exclusive (ledger : Ledger Task Agent) : Prop :=
  ∀ task, Lease.openHolders (ledger.leases task) = [] ∨
    ∃ agent, Lease.openHolders (ledger.leases task) = [agent] ∧ ledger.Holds agent task

/-- The task exists and is the agent's. -/
def AssignedTo (ledger : Ledger Task Agent) (agent : Agent) (task : Task) : Prop :=
  ledger.state task ≠ none ∧ ledger.assignee task = some agent

/-- The task is back in the queue. -/
def Returned (ledger : Ledger Task Agent) (task : Task) : Prop :=
  ledger.state task = some .queued ∧ ledger.assignee task = none

/-- The agents went offline, their leases ended, and tasks of theirs were returned, each
task with an open lease of theirs among them. -/
structure Sweeps [DecidableEq Agent] (agents : List Agent) (before after : Ledger Task Agent) :
    Prop where
  status : ∀ agent, after.status agent =
    if agent ∈ agents then some .offline else before.status agent
  leases : ∀ task, after.leases task = (before.leases task).map (Lease.closeHeldIn agents)
  exitCode : after.exitCode = before.exitCode
  tasks : ∀ task,
    (after.state task = before.state task ∧ after.assignee task = before.assignee task) ∨
      ((∃ agent ∈ agents, before.Holds agent task) ∧ after.Returned task)
  returned : ∀ agent ∈ agents, ∀ task,
    agent ∈ Lease.openHolders (before.leases task) → after.Returned task

theorem Exclusive.unleased {ledger : Ledger Task Agent} (exclusive : ledger.Exclusive)
    (task : Task) (free : ∀ agent, ¬ ledger.Holds agent task) :
    Lease.openHolders (ledger.leases task) = [] := by
  rcases exclusive task with nothing | ⟨agent, _, holds⟩
  · exact nothing
  · exact absurd holds (free agent)

theorem Exclusive.holds {ledger : Ledger Task Agent} (exclusive : ledger.Exclusive)
    {agent : Agent} {task : Task} (leased : agent ∈ Lease.openHolders (ledger.leases task)) :
    ledger.Holds agent task := by
  rcases exclusive task with nothing | ⟨other, only, holds⟩
  · rw [nothing] at leased
    cases leased
  · rw [only, List.mem_singleton] at leased
    rw [leased]
    exact holds

theorem empty_exclusive : (empty : Ledger Task Agent).Exclusive :=
  fun _ => .inl rfl

theorem Exclusive.sweeps [DecidableEq Agent] {agents : List Agent}
    {before after : Ledger Task Agent} (exclusive : before.Exclusive)
    (sweeps : Sweeps agents before after) : after.Exclusive := by
  intro task
  rw [sweeps.leases task, Lease.openHolders_map_closeHeldIn]
  rcases exclusive task with nothing | ⟨agent, only, assigned, active⟩
  · exact .inl (by rw [nothing]; rfl)
  · rw [only]
    by_cases swept : agent ∈ agents
    · exact .inl (by simp [swept])
    · rcases sweeps.tasks task with ⟨state, assignee⟩ | ⟨⟨other, isSwept, holds⟩, _⟩
      · refine .inr ⟨agent, by simp [swept], ?_, ?_⟩
        · rw [assignee, assigned]
        · rw [state]
          exact active
      · rw [holds.1, Option.some.injEq] at assigned
        rw [assigned] at isSwept
        exact absurd isSwept swept

variable [DecidableEq Task] [DecidableEq Agent]

/-- What the events of a transaction other than a sweep do to leases. -/
theorem Exclusive.step {ledger : Ledger Task Agent} (exclusive : ledger.Exclusive)
    {event : LedgerEvent Task Agent} (possible : ledger.Possible event) :
    (ledger.step event).Exclusive := by
  intro task
  cases event with
  | setStatus agent status => exact exclusive task
  | create created =>
      by_cases same : task = created
      · subst same
        have unknown : ledger.state task = none := possible
        have free := exclusive.unleased task (by simp [Holds, unknown])
        exact .inl free
      · simpa [Ledger.step, Holds, same] using exclusive task
  | claim agent claimed =>
      by_cases same : task = claimed
      · subst same
        have free := exclusive.unleased task (by simp [Holds, possible.2.1])
        refine .inr ⟨agent, ?_, by simp [Ledger.step], .inl (by simp [Ledger.step])⟩
        simp [Ledger.step, free]
      · simpa [Ledger.step, Holds, same] using exclusive task
  | report reported state exitCode =>
      by_cases same : task = reported
      · subst same
        cases isOver : state.terminal with
        | true => exact .inl (by simp [Ledger.step, isOver])
        | false =>
            have active : state = .running ∨ state = .queued := by
              cases state <;> simp_all [TaskState.terminal]
            rcases exclusive task with nothing | ⟨agent, only, assigned, _⟩
            · exact .inl (by simpa [Ledger.step, isOver] using nothing)
            · refine .inr ⟨agent, by simpa [Ledger.step, isOver] using only, assigned, ?_⟩
              simpa [Ledger.step] using active
      · have kept := exclusive task
        cases isOver : state.terminal <;> simpa [Ledger.step, Holds, same, isOver] using kept
  | cancel canceled =>
      by_cases same : task = canceled
      · subst same
        exact .inl (by simp [Ledger.step])
      · simpa [Ledger.step, Holds, same] using exclusive task
  | expire agent =>
      have isSweep : Sweeps [agent] ledger (ledger.step (.expire agent)) := by
        have kept : ∀ other task, ledger.Holds other task → other ≠ agent →
            ¬ ledger.Holds agent task := by
          rintro other task ⟨assigned, _⟩ different ⟨assignedToo, _⟩
          rw [assigned] at assignedToo
          exact different (Option.some.inj assignedToo)
        refine ⟨?_, ?_, rfl, ?_, ?_⟩
        · intro other
          by_cases same : other = agent <;> simp [Ledger.step, same]
        · intro other
          simp [Ledger.step, Lease.closeHeldIn, Lease.closeHeldBy]
        · intro other
          by_cases holds : ledger.Holds agent other
          · exact .inr ⟨⟨agent, by simp, holds⟩, by simp [Ledger.step, Returned, holds]⟩
          · exact .inl (by simp [Ledger.step, holds])
        · intro other isAgent task leased
          rw [List.mem_singleton] at isAgent
          subst isAgent
          have holds := exclusive.holds leased
          simp [Ledger.step, Returned, holds]
      exact exclusive.sweeps isSweep task

/-- A task that is assigned stays assigned, but for the expiry of its agent. -/
theorem AssignedTo.step {ledger : Ledger Task Agent} {event : LedgerEvent Task Agent}
    (possible : ledger.Possible event) (noExpiry : ∀ agent, event ≠ .expire agent)
    {agent : Agent} {task : Task} (isAssigned : ledger.AssignedTo agent task) :
    (ledger.step event).AssignedTo agent task := by
  obtain ⟨known, assigned⟩ := isAssigned
  unfold AssignedTo
  cases event with
  | setStatus other status => exact ⟨known, assigned⟩
  | expire other => exact absurd rfl (noExpiry other)
  | create created =>
      by_cases same : task = created
      · subst same
        exact absurd possible known
      · simpa [Ledger.step, same] using ⟨known, assigned⟩
  | claim other claimed =>
      by_cases same : task = claimed
      · subst same
        rw [possible.2.1] at assigned
        cases assigned
      · simpa [Ledger.step, same] using ⟨known, assigned⟩
  | report reported state exitCode =>
      refine ⟨?_, assigned⟩
      by_cases same : task = reported <;> simp [Ledger.step, same, known]
  | cancel canceled =>
      refine ⟨?_, assigned⟩
      by_cases same : task = canceled <;> simp [Ledger.step, same, known]

theorem AssignedTo.run {ledger : Ledger Task Agent} {events : List (LedgerEvent Task Agent)}
    (along : Along Ledger.step Ledger.Possible ledger events)
    (noExpiry : ∀ agent, .expire agent ∉ events) {agent : Agent} {task : Task}
    (isAssigned : ledger.AssignedTo agent task) :
    (TransitionRuns.run Ledger.step ledger events).AssignedTo agent task := by
  induction events generalizing ledger with
  | nil => exact isAssigned
  | cons event events ih =>
      have first : ∀ other, event ≠ .expire other := by
        rintro other rfl
        exact noExpiry other List.mem_cons_self
      have rest : ∀ other, .expire other ∉ events := fun other member =>
        noExpiry other (List.mem_cons_of_mem _ member)
      exact ih along.2 rest (isAssigned.step along.1 first)

/-- Only a claim gives a task to an agent. -/
theorem claim_of_assignee {ledger : Ledger Task Agent} {events : List (LedgerEvent Task Agent)}
    {agent : Agent} {task : Task} (before : ledger.assignee task ≠ some agent)
    (after : (TransitionRuns.run Ledger.step ledger events).assignee task = some agent) :
    .claim agent task ∈ events := by
  induction events generalizing ledger with
  | nil => exact absurd after before
  | cons event events ih =>
      by_cases now : (ledger.step event).assignee task = some agent
      · refine List.mem_cons.mpr (.inl ?_)
        cases event with
        | setStatus other status => exact absurd now before
        | report reported state exitCode => exact absurd now before
        | cancel canceled => exact absurd now before
        | create created => by_cases same : task = created <;> simp_all [Ledger.step]
        | expire other => by_cases held : ledger.Holds other task <;> simp_all [Ledger.step]
        | claim other claimed => by_cases same : task = claimed <;> simp_all [Ledger.step]
      · exact List.mem_cons_of_mem _ (ih now after)

/-- A claim without expiries around it takes a task that nobody has, and keeps it. -/
theorem assignee_of_claim {ledger : Ledger Task Agent} {events : List (LedgerEvent Task Agent)}
    (unknown : ∀ task, ledger.state task = none → ledger.assignee task = none)
    (along : Along Ledger.step Ledger.Possible ledger events)
    (noExpiry : ∀ agent, .expire agent ∉ events) {agent : Agent} {task : Task}
    (claimed : .claim agent task ∈ events) :
    ledger.assignee task = none ∧
      (TransitionRuns.run Ledger.step ledger events).assignee task = some agent := by
  obtain ⟨earlier, later, rfl⟩ := List.append_of_mem claimed
  rw [along_append] at along
  obtain ⟨first, possible, rest⟩ := along
  rw [run_append]
  constructor
  · cases assigned : ledger.assignee task with
    | none => rfl
    | some other =>
        have known : ledger.state task ≠ none := fun isUnknown => by
          simp [unknown task isUnknown] at assigned
        have kept := AssignedTo.run first (fun other member => noExpiry other (by simp [member]))
          ⟨known, assigned⟩
        have free := possible.2.1
        rw [kept.2] at free
        cases free
  · refine (AssignedTo.run rest (fun other member => noExpiry other (by simp [member])) ?_).2
    simp [AssignedTo, Ledger.step]

end Ledger

/-! ## Commits -/

inductive PgOperation
  | upsertAgent (agent : AgentInput)
  | updateHeartbeat (heartbeat : AgentHeartbeat)
  | createTask (task : TaskInput)
  | pollTasksForAgent (agentId : String) (freeSlots : Int)
  | updateTaskStatus (taskId : Int) (update : TaskStatusUpdate)
  | cancelTask (taskId : Int)
  | markOfflineAgentsAndRequeue (offlineAfterSec : Int)

inductive PgResult
  | registered (done : Bool)
  | beaten (found : Bool)
  | created (taskId : Int)
  | polled (dispatches : Option (List TaskDispatch))
  | updated (found : Bool)
  | canceled (result : CancelTaskResult)
  | requeued (count : Int)

/-- The transaction of an operation, with the clock readings of an attempt. -/
def PgOperation.program (timestamptz : Time → String → Option Time) (attempt : Attempt) :
    PgOperation → PgProgram PgResult
  | upsertAgent agent => do
      let done ← PgSessions.upsertAgent attempt agent
      return .registered done
  | updateHeartbeat heartbeat => do
      let found ← PgSessions.updateHeartbeat attempt heartbeat
      return .beaten found
  | createTask task => do
      let taskId ← PgSessions.createTask attempt task
      return .created taskId
  | pollTasksForAgent agentId freeSlots => do
      let dispatches ← PgSessions.pollTasksForAgent attempt agentId freeSlots
      return .polled dispatches
  | updateTaskStatus taskId update => do
      let found ← PgSessions.updateTaskStatus timestamptz attempt taskId update
      return .updated found
  | cancelTask taskId => do
      let result ← PgSessions.cancelTask attempt taskId
      return .canceled result
  | markOfflineAgentsAndRequeue offlineAfterSec => do
      let count ← PgSessions.markOfflineAgentsAndRequeue attempt offlineAfterSec
      return .requeued count

/-- The attempt with nothing going wrong. -/
def Attempt.undisturbed (attempt : Attempt) : Attempt :=
  { attempt with transaction := some .none }

namespace PgSessions

/-- The task is as the poll has seen it, and fits the agent. -/
def Fitting (agent : AgentRow) (dispatch : TaskDispatch) (store : Store) : Prop :=
  ∃ row, store.task dispatch.taskId = some row ∧ PgBroker.fits agent row = .ok true ∧
    dispatch = PgBroker.taskDispatch row

theorem beaten_agentId (now : Time) (row : AgentRow) :
    (beaten now row).agentId = row.agentId := rfl

theorem withStatus_agentId (status : AgentStatus) (row : AgentRow) :
    (withStatus status row).agentId = row.agentId := rfl

/-- What a poll writes when it hands out these tasks. -/
def handOut (now : Time) (agentId : String) (freeSlots : Int) (handed : List TaskDispatch)
    (store : Store) : Store :=
  let beat := store.updateAgent agentId (beaten now) (beaten_agentId now)
  if freeSlots ≤ 0 then beat
  else
    (handed.foldl (PgBroker.assign now agentId) beat).updateAgent agentId
      (withStatus (if handed.isEmpty then .idle else .busy)) (withStatus_agentId _)

/-- What a cancel writes to a task, whatever the state that it has by then. -/
def cancel (now : Time) (taskId : Int) (store : Store) : Store :=
  (store.updateTask taskId (canceledTask now) fun _ => rfl).updateAssignments
    (fun row => decide (row.taskId = taskId) && row.unassignedAt.isNone)
    (canceledAssignment now)

end PgSessions

/-- The tasks that a poll hands out: in the order in which it has found them, as they are at
its commit. -/
structure HandedOut (attempt : Attempt) (agent : AgentRow) (freeSlots : Int)
    (reads : List Store) (handed : List TaskDispatch) (before : Store) : Prop where
  length_le : handed.length ≤ freeSlots.toNat
  found : handed ≠ [] → ∃ seen ∈ reads, ∃ rows,
    PgBroker.selectWhere (PgBroker.fits agent) seen.tasks.rows = .ok rows ∧
      (handed.map TaskDispatch.taskId).Sublist
        ((rows.insertionSort (OldestFirst attempt.rank)).map TaskRow.taskId)
  fitting : ∀ dispatch ∈ handed, PgSessions.Fitting agent dispatch before

/-- The agent is there and past the heartbeat threshold. -/
def Store.StaleAgent (store : Store) (now : Time) (offlineAfterSec : Int) (agentId : String) :
    Prop :=
  ∃ row, store.agent agentId = some row ∧ PgSessions.isStale now offlineAfterSec row = true

theorem Store.StaleAgent.known {store : Store} {now : Time} {offlineAfterSec : Int}
    {agentId : String} (stale : store.StaleAgent now offlineAfterSec agentId) :
    store.agent agentId ≠ none := by
  obtain ⟨row, found, _⟩ := stale
  simp [found]

/-- The agents are set offline, their open assignments are ended, and these tasks of theirs
are back in the queue, all with an open assignment among them. -/
structure SweptTables (now : Time) (agentIds : List String) (returned : List Int)
    (before after : Store) : Prop where
  agent : ∀ agentId, after.agent agentId = (before.agent agentId).map fun row =>
    if agentId ∈ agentIds then PgSessions.withStatus .offline row else row
  task : ∀ taskId, after.task taskId = (before.task taskId).map fun row =>
    if taskId ∈ returned then PgSessions.requeuedTask row else row
  taskAssignments : after.taskAssignments = (before.updateAssignments
    (fun row => decide (row.agentId ∈ agentIds) && row.unassignedAt.isNone)
    (PgSessions.offlineAssignment now)).taskAssignments
  active : ∀ taskId ∈ returned, ∃ row, before.task taskId = some row ∧
    ∃ agentId ∈ agentIds, row.assignedAgent = some agentId ∧
      (row.state = .running ∨ row.state = .queued)
  leased : ∀ row ∈ before.taskAssignments, row.unassignedAt = none → row.agentId ∈ agentIds →
    row.taskId ∈ returned

/-- What a commit with a result does, by an attempt that has read these databases.  A
registration, a heartbeat and a report do what the broker does in one step.  A task is
inserted under the id that was drawn for it.  A cancel has seen its task unfinished, and a
sweep takes the agents that were past the threshold when it looked and still are. -/
def CommitOf (timestamptz : Time → String → Option Time) (attempt : Attempt)
    (reads : List Store) : PgOperation → PgResult → Store → Store → Prop
  | .upsertAgent agent, .registered done, before, after =>
      PgBroker.upsertAgent [attempt.undisturbed] agent before = (.ok done, after)
  | .updateHeartbeat heartbeat, .beaten found, before, after =>
      found = true ∧
        PgBroker.updateHeartbeat [attempt.undisturbed] heartbeat before = (.ok found, after)
  | .createTask task, .created taskId, before, after =>
      PgBroker.jsonbError task = none ∧ ∃ fresh bounds,
        after = before.insertTask (PgBroker.newTask attempt.now taskId task) fresh bounds
  | .pollTasksForAgent agentId freeSlots, .polled dispatches, before, after =>
      ∃ handed, dispatches = some handed ∧ before.agent agentId ≠ none ∧
        (∃ agent, (∃ seen ∈ reads, seen.agent agentId = some agent) ∧
          HandedOut attempt agent freeSlots reads handed before) ∧
        after = PgSessions.handOut attempt.now agentId freeSlots handed before
  | .updateTaskStatus taskId update, .updated found, before, after =>
      found = true ∧
        PgBroker.updateTaskStatus timestamptz [attempt.undisturbed] taskId update before =
          (.ok found, after)
  | .cancelTask taskId, .canceled result, before, after =>
      result = .ok ∧ before.task taskId ≠ none ∧
        (∃ seen ∈ reads, ∃ row, seen.task taskId = some row ∧ row.state.terminal = false) ∧
        after = PgSessions.cancel attempt.now taskId before
  | .markOfflineAgentsAndRequeue offlineAfterSec, .requeued count, before, after =>
      ∃ agentIds : List String, agentIds.Nodup ∧ count = agentIds.length ∧
        (∃ seen ∈ reads, ∀ agentId, agentId ∈ agentIds ↔
          seen.StaleAgent attempt.now offlineAfterSec agentId ∧
            before.StaleAgent attempt.now offlineAfterSec agentId) ∧
        ∃ returned, SweptTables attempt.now agentIds returned before after
  | _, _, _, _ => False

/-- A result of a transaction that has changed nothing. -/
def PgResult.Silent : PgResult → Prop
  | beaten found => found = false
  | polled dispatches => dispatches = none
  | updated found => found = false
  | canceled result => result ≠ .ok
  | requeued count => count = 0
  | _ => False

/-! ## Commits as events -/

namespace PgSessions

theorem Fitting.claimable {agent : AgentRow} {dispatch : TaskDispatch} {store : Store}
    (fitting : Fitting agent dispatch store) : Claimable store dispatch.taskId := by
  obtain ⟨row, found, fits, _⟩ := fitting
  obtain ⟨queued, unassigned⟩ := PgBroker.claimable_of_fits fits
  exact ⟨by rw [Store.state_of_task found, queued],
    by rw [Store.assignee_of_task found, unassigned]⟩

theorem explains_cancel {taskId : Int} {store : Store} (known : store.task taskId ≠ none)
    (now : Time) : Explains [.report taskId .canceled none] store (cancel now taskId store) := by
  obtain ⟨row, found⟩ := Option.ne_none_iff_exists'.mp known
  refine .single (by simp [Ledger.Possible, Store.ledger_state, found]) ?_
  refine Store.ledger_finalReport found _ _ ?_ ?_ ?_ rfl ?_
  · exact fun _ => rfl
  · exact fun _ => rfl
  · exact fun _ => rfl
  · exact ⟨fun _ => rfl, fun _ => rfl, fun _ => rfl, fun _ => rfl,
      fun _ => by simp [canceledAssignment]⟩

end PgSessions

theorem Store.explains_insertTask (store : Store) (now : Time) (taskId : Int) (task : TaskInput)
    (fresh : store.task taskId = none) (bounds : 0 < taskId ∧ taskId ≤ store.taskSeq) :
    Explains [.create taskId] store
      (store.insertTask (PgBroker.newTask now taskId task) fresh bounds) := by
  refine .single ?_ (Store.ledger_insertTask _ fresh bounds rfl rfl rfl)
  simp [Ledger.Possible, Store.ledger_state, fresh]

namespace HandedOut

variable {attempt : Attempt} {agent : AgentRow} {freeSlots : Int} {reads : List Store}
  {handed : List TaskDispatch} {before : Store}

theorem distinct (handedOut : HandedOut attempt agent freeSlots reads handed before) :
    (handed.map TaskDispatch.taskId).Nodup := by
  by_cases nothing : handed = []
  · simp [nothing]
  · obtain ⟨seen, _, rows, selected, sublist⟩ := handedOut.found nothing
    have subset := (PgBroker.selectWhere_subset selected).1
    have sorted := (List.perm_insertionSort (OldestFirst attempt.rank) rows).map TaskRow.taskId
    exact (sorted.nodup_iff.mpr
      (seen.tasks.unique.sublist (subset.map TaskRow.taskId))).sublist sublist

/-- The tasks that fit at the commit are claimed by it. -/
theorem explains (handedOut : HandedOut attempt agent freeSlots reads handed before)
    {agentId : String} (known : before.agent agentId ≠ none) (now : Time) :
    Explains (pollEvents agentId freeSlots handed) before
      (PgSessions.handOut now agentId freeSlots handed before) := by
  obtain ⟨row, found⟩ := Option.ne_none_iff_exists'.mp known
  have quiet : (before.updateAgent agentId (PgSessions.beaten now)
      (PgSessions.beaten_agentId now)).ledger = before.ledger :=
    Store.ledger_updateAgent_quiet agentId _ _ fun _ => rfl
  unfold PgSessions.handOut
  dsimp only
  split
  · rename_i noSlots
    rw [pollEvents, if_pos noSlots]
    exact .quiet quiet
  · rename_i positive
    have registered : (before.updateAgent agentId (PgSessions.beaten now)
        (PgSessions.beaten_agentId now)).ledger.status agentId ≠ none := by
      rw [quiet, Store.status_of_agent found]
      simp
    have claims := explains_claims (PgBroker.assign now agentId) TaskDispatch.taskId agentId
      (PgBroker.assign_ledger now agentId) handedOut.distinct registered fun dispatch member =>
        ⟨by rw [quiet]; exact (handedOut.fitting dispatch member).claimable.queued,
          by rw [quiet]; exact (handedOut.fitting dispatch member).claimable.unassigned⟩
    have kept : ∀ store dispatch other,
        (PgBroker.assign now agentId store dispatch).agent other = store.agent other :=
      fun _ _ _ => rfl
    have present : (handed.foldl (PgBroker.assign now agentId)
        (before.updateAgent agentId (PgSessions.beaten now)
          (PgSessions.beaten_agentId now))).agent agentId = some (PgSessions.beaten now row) := by
      rw [Store.agent_foldl kept]
      simp [found]
    refine explains_poll positive (.of_ledger_eq quiet.symm claims) ?_
    exact Store.ledger_updateAgent present _ _ fun _ => rfl

end HandedOut

/-- What a sweep commits, in terms of the ledger. -/
theorem SweptTables.sweeps {now : Time} {offlineAfterSec : Int} {agentIds : List String}
    {returned : List Int} {before after : Store}
    (swept : SweptTables now agentIds returned before after)
    (stale : ∀ agentId ∈ agentIds, before.StaleAgent now offlineAfterSec agentId) :
    Ledger.Sweeps agentIds before.ledger after.ledger where
  status agentId := by
    rw [Store.ledger_status, Store.ledger_status, swept.agent]
    by_cases isSwept : agentId ∈ agentIds
    · obtain ⟨row, found, _⟩ := stale agentId isSwept
      simp [isSwept, found, PgSessions.withStatus]
    · simp [isSwept]
  leases taskId := by
    have closes : ClosesOpenRows
        (fun row => decide (row.agentId ∈ agentIds) && row.unassignedAt.isNone)
        (PgSessions.offlineAssignment now) (fun row => decide (row.agentId ∈ agentIds))
        .agentOffline :=
      ⟨fun _ => rfl, fun _ => rfl, fun _ => rfl, fun _ => rfl,
        fun _ => by simp [PgSessions.offlineAssignment]⟩
    change Store.leases _ taskId = (before.leases taskId).map _
    unfold Store.leases
    rw [swept.taskAssignments]
    simp only [Store.updateAssignments, List.filter_map, Function.comp_def, closes.sameTask,
      List.map_map, closes.lease_eq]
    apply List.map_congr_left
    intro row _
    by_cases owned : row.agentId ∈ agentIds <;>
      simp [Lease.closeHeldIn, AssignmentRow.lease, owned]
  exitCode := by
    funext taskId
    rw [Store.ledger_exitCode, Store.ledger_exitCode, swept.task]
    cases before.task taskId with
    | none => rfl
    | some row => by_cases back : taskId ∈ returned <;> simp [back, PgSessions.requeuedTask]
  tasks taskId := by
    by_cases back : taskId ∈ returned
    · obtain ⟨row, found, agentId, isSwept, assigned, active⟩ := swept.active taskId back
      refine .inr ⟨⟨agentId, isSwept, ?_, ?_⟩, ?_, ?_⟩
      · rw [Store.assignee_of_task found, assigned]
      · simpa [Store.state_of_task found] using active
      · simp [Store.ledger_state, swept.task, found, back, PgSessions.requeuedTask]
      · simp [Store.ledger_assignee, swept.task, found, back, PgSessions.requeuedTask]
    · refine .inl ⟨?_, ?_⟩
      · simp [Store.ledger_state, swept.task, back]
      · simp [Store.ledger_assignee, swept.task, back]
  returned agentId isSwept taskId leased := by
    obtain ⟨row, member, rfl, rfl, stillOpen⟩ := (before.mem_openHolders taskId agentId).mp leased
    have back := swept.leased row member stillOpen isSwept
    obtain ⟨task, held, _⟩ := swept.active row.taskId back
    constructor
    · simp [Store.ledger_state, swept.task, held, back, PgSessions.requeuedTask]
    · simp [Store.ledger_assignee, swept.task, held, back, PgSessions.requeuedTask]

/-- The events of an operation other than a sweep. -/
def PgOperation.events : PgOperation → PgResult → List BrokerEvent
  | .upsertAgent agent, _ => [.setStatus agent.agentId .idle]
  | .updateHeartbeat heartbeat, _ => [.setStatus heartbeat.agentId heartbeat.status]
  | .createTask _, .created taskId => [.create taskId]
  | .pollTasksForAgent agentId freeSlots, .polled (some handed) =>
      pollEvents agentId freeSlots handed
  | .updateTaskStatus taskId update, _ => [.report taskId update.state update.exitCode]
  | .cancelTask taskId, _ => [.report taskId .canceled none]
  | _, _ => []

theorem PgOperation.expire_not_mem_events (operation : PgOperation) (result : PgResult)
    (agentId : String) : .expire agentId ∉ operation.events result := by
  unfold events
  split
  case h_4 => unfold pollEvents; split <;> simp
  all_goals simp

section Commits

variable {timestamptz : Time → String → Option Time} {attempt : Attempt} {reads : List Store}
  {operation : PgOperation} {result : PgResult} {before after : Store}
  (commit : CommitOf timestamptz attempt reads operation result before after)

include commit

/-- A commit is a sweep, or the events of its operation. -/
theorem CommitOf.cases :
    (∃ offlineAfterSec agentIds, operation = .markOfflineAgentsAndRequeue offlineAfterSec ∧
        (∀ agentId ∈ agentIds, before.StaleAgent attempt.now offlineAfterSec agentId) ∧
        Ledger.Sweeps agentIds before.ledger after.ledger) ∨
      Explains (operation.events result) before after := by
  have single : [attempt.undisturbed] ≠ [] := by simp
  have faultFree : ∀ other ∈ [attempt.undisturbed], other.transaction = some .none := by
    simp [Attempt.undisturbed]
  unfold CommitOf at commit
  split at commit
  · rename_i agent done
    have made := PgBroker.upsertAgent_spec single faultFree agent before
    rw [commit] at made
    exact .inr made.2
  · rename_i heartbeat found
    obtain ⟨rfl, committed⟩ := commit
    have made := PgBroker.updateHeartbeat_spec single faultFree heartbeat before
    rw [committed] at made
    exact .inr made.2
  · obtain ⟨_, fresh, bounds, rfl⟩ := commit
    exact .inr (before.explains_insertTask attempt.now _ _ fresh bounds)
  · obtain ⟨handed, rfl, known, ⟨agent, _, handedOut⟩, rfl⟩ := commit
    exact .inr (handedOut.explains known attempt.now)
  · rename_i taskId update found
    obtain ⟨rfl, committed⟩ := commit
    have made := PgBroker.updateTaskStatus_spec single faultFree timestamptz taskId update before
    rw [committed] at made
    exact .inr made.2
  · obtain ⟨_, known, _, rfl⟩ := commit
    exact .inr (PgSessions.explains_cancel known attempt.now)
  · obtain ⟨agentIds, _, _, ⟨seen, _, chosen⟩, returned, swept⟩ := commit
    have stale := fun agentId member => ((chosen agentId).mp member).2
    exact .inl ⟨_, agentIds, rfl, stale, swept.sweeps stale⟩
  · exact commit.elim

/-- Every commit keeps the leases exclusive. -/
theorem CommitOf.exclusive (exclusive : before.ledger.Exclusive) : after.ledger.Exclusive := by
  rcases commit.cases with ⟨_, agentIds, _, _, sweeps⟩ | explains
  · exact exclusive.sweeps sweeps
  · rw [explains.ledger_eq]
    exact run_invariant_along Ledger.step (fun _ _ possible kept => kept.step possible) exclusive
      explains.possible

/-- Only a sweep takes a task from its agent, and it returns the task to the queue. -/
theorem CommitOf.assignee {taskId : Int} {agentId : String}
    (assigned : before.ledger.assignee taskId = some agentId) :
    after.ledger.assignee taskId = some agentId ∨
      (∃ offlineAfterSec, operation = .markOfflineAgentsAndRequeue offlineAfterSec ∧
          before.StaleAgent attempt.now offlineAfterSec agentId) ∧
        before.ledger.Holds agentId taskId ∧ after.ledger.Returned taskId := by
  rcases commit.cases with ⟨offlineAfterSec, agentIds, isSweep, stale, sweeps⟩ | explains
  · rcases sweeps.tasks taskId with ⟨_, kept⟩ | ⟨⟨other, isSwept, holds⟩, returned⟩
    · exact .inl (kept.trans assigned)
    · have sameAgent : other = agentId := by
        rw [holds.1] at assigned
        exact Option.some.inj assigned
      subst sameAgent
      exact .inr ⟨⟨offlineAfterSec, isSweep, stale other isSwept⟩, holds, returned⟩
  · have known : before.ledger.state taskId ≠ none := by
      intro unknown
      cases found : before.task taskId with
      | none => simp [Store.ledger_assignee, found] at assigned
      | some row => simp [Store.ledger_state, found] at unknown
    rw [explains.ledger_eq]
    exact .inl (Ledger.AssignedTo.run explains.possible
      (operation.expire_not_mem_events result) ⟨known, assigned⟩).2

/-- Only a poll of an agent gives it a task that it did not have. -/
theorem CommitOf.isPoll {taskId : Int} {agentId : String}
    (unassigned : before.ledger.assignee taskId ≠ some agentId)
    (assigned : after.ledger.assignee taskId = some agentId) :
    ∃ freeSlots, operation = .pollTasksForAgent agentId freeSlots := by
  rcases commit.cases with ⟨_, agentIds, _, _, sweeps⟩ | explains
  · rcases sweeps.tasks taskId with ⟨_, kept⟩ | ⟨_, returned⟩
    · exact absurd (kept ▸ assigned) unassigned
    · rw [returned.2] at assigned
      cases assigned
  · rw [explains.ledger_eq] at assigned
    have claimed := Ledger.claim_of_assignee unassigned assigned
    unfold PgOperation.events at claimed
    split at claimed
    case h_4 agent freeSlots handed =>
      unfold pollEvents at claimed
      split at claimed
      · cases claimed
      · have claims : ∃ dispatch ∈ handed, agent = agentId ∧ dispatch.taskId = taskId := by
          simpa using claimed
        obtain ⟨_, _, rfl, _⟩ := claims
        exact ⟨freeSlots, rfl⟩
    all_goals simp at claimed

end Commits

/-- A poll that hands out a task gives it to its agent, and nobody had it. -/
theorem CommitOf.assignee_of_handed {timestamptz : Time → String → Option Time}
    {attempt : Attempt} {reads : List Store} {agentId : String} {freeSlots : Int}
    {dispatches : List TaskDispatch} {before after : Store}
    (commit : CommitOf timestamptz attempt reads (.pollTasksForAgent agentId freeSlots)
      (.polled (some dispatches)) before after) {taskId : Int}
    (handed : taskId ∈ dispatches.map TaskDispatch.taskId) :
    before.ledger.assignee taskId = none ∧ after.ledger.assignee taskId = some agentId := by
  obtain ⟨_, ⟨⟩, known, ⟨agent, _, handedOut⟩, rfl⟩ := commit
  obtain ⟨dispatch, member, rfl⟩ := List.mem_map.mp handed
  have positive : ¬ freeSlots ≤ 0 := by
    intro none
    have few := handedOut.length_le
    have some := List.length_pos_of_mem member
    omega
  have explains := handedOut.explains known attempt.now
  rw [explains.ledger_eq]
  have possible := explains.possible
  simp only [pollEvents, if_neg positive] at possible ⊢
  refine Ledger.assignee_of_claim (fun task unknown => ?_) possible (by simp) ?_
  · cases found : before.task task with
    | none => simp [Store.ledger_assignee, found]
    | some row => simp [Store.ledger_state, found] at unknown
  · simpa using ⟨dispatch, member, rfl⟩

end DistributedComputing
