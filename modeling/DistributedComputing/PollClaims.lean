import DistributedComputing.Deployment

/-!
# The tasks that one attempt of a poll claims

An attempt that raises may have claimed tasks all the same: its commit may have taken
effect, or its loop may have been cut short.  Which tasks an attempt claims, and when it
raises after claiming some, is read off the attempt and the tables that it finds.
-/

namespace DistributedComputing

open TransitionRuns

namespace Ledger

variable {Task Agent : Type}

/-- The task was queued, and it runs for the agent. -/
def Moved (agent : Agent) (before after : Ledger Task Agent) (task : Task) : Prop :=
  before.state task = some .queued ∧ after.state task = some .running ∧
    after.assignee task = some agent

/-- The tasks that moved are the given ones; the others are as before. -/
structure Claimed (agent : Agent) (tasks : List Task) (before after : Ledger Task Agent) :
    Prop where
  moved : ∀ task ∈ tasks, Moved agent before after task
  others : ∀ task, task ∉ tasks →
    after.state task = before.state task ∧ after.assignee task = before.assignee task

theorem Claimed.of_same {agent : Agent} {before after : Ledger Task Agent}
    (sameState : after.state = before.state) (sameAssignee : after.assignee = before.assignee) :
    Claimed agent [] before after where
  moved := by simp
  others task _ := ⟨by rw [sameState], by rw [sameAssignee]⟩

theorem Claimed.refl (agent : Agent) (ledger : Ledger Task Agent) :
    Claimed agent [] ledger ledger :=
  .of_same rfl rfl

/-- A task that moved once does not move again. -/
theorem Claimed.append {agent : Agent} {tasks more : List Task}
    {before middle after : Ledger Task Agent} (first : Claimed agent tasks before middle)
    (second : Claimed agent more middle after) : Claimed agent (tasks ++ more) before after where
  moved := by
    intro task member
    by_cases again : task ∈ more
    · obtain ⟨queued, running, assigned⟩ := second.moved task again
      have fresh : task ∉ tasks := by
        intro already
        have running := (first.moved task already).2.1
        rw [queued] at running
        cases running
      exact ⟨(first.others task fresh).1.symm.trans queued, running, assigned⟩
    · have early : task ∈ tasks := (List.mem_append.mp member).resolve_right again
      obtain ⟨queued, running, assigned⟩ := first.moved task early
      obtain ⟨sameState, sameAssignee⟩ := second.others task again
      exact ⟨queued, sameState.trans running, sameAssignee.trans assigned⟩
  others := by
    intro task absent
    rw [List.mem_append, not_or] at absent
    obtain ⟨sameState, sameAssignee⟩ := first.others task absent.1
    obtain ⟨sameStateToo, sameAssigneeToo⟩ := second.others task absent.2
    exact ⟨sameStateToo.trans sameState, sameAssigneeToo.trans sameAssignee⟩

theorem Claimed.moved_iff {agent : Agent} {tasks : List Task}
    {before after : Ledger Task Agent} (claimed : Claimed agent tasks before after)
    (task : Task) : Moved agent before after task ↔ task ∈ tasks := by
  refine ⟨?_, claimed.moved task⟩
  rintro ⟨queued, running, _⟩
  by_contra absent
  rw [(claimed.others task absent).1, queued] at running
  cases running

section Events

variable [DecidableEq Task] [DecidableEq Agent]

theorem claimed_claim {agent : Agent} {task : Task} {ledger : Ledger Task Agent}
    (queued : ledger.state task = some .queued) :
    Claimed agent [task] ledger (ledger.step (.claim agent task)) where
  moved := by
    intro other member
    rw [List.mem_singleton.mp member]
    exact ⟨queued, by simp [step], by simp [step]⟩
  others := by
    intro other absent
    have different : other ≠ task := by simpa using absent
    simp [step, different]

theorem claimed_claims {agent : Agent} {tasks : List Task} {ledger : Ledger Task Agent}
    (possible : Along Ledger.step Ledger.Possible ledger (tasks.map (.claim agent))) :
    Claimed agent tasks ledger (run Ledger.step ledger (tasks.map (.claim agent))) := by
  induction tasks generalizing ledger with
  | nil => exact Claimed.refl agent ledger
  | cons task tasks ih => exact (claimed_claim possible.1.1).append (ih possible.2)

end Events

end Ledger

open Ledger Store

theorem Explains.claimed {agentId : String} {freeSlots : Int} {dispatches : List TaskDispatch}
    {before after : Store}
    (explains : Explains (pollEvents agentId freeSlots dispatches) before after)
    (noSlots : freeSlots ≤ 0 → dispatches = []) :
    Claimed agentId (dispatches.map TaskDispatch.taskId) before.ledger after.ledger := by
  have possible := explains.possible
  rw [explains.ledger_eq]
  unfold pollEvents at possible ⊢
  split at possible
  · rename_i none
    rw [if_pos none, noSlots none]
    exact Claimed.refl agentId before.ledger
  · rename_i positive
    have asIds : (dispatches.map fun dispatch => (.claim agentId dispatch.taskId : BrokerEvent)) =
        (dispatches.map TaskDispatch.taskId).map (.claim agentId) := by
      simp [Function.comp_def]
    rw [if_neg positive]
    rw [asIds] at possible ⊢
    have quiet : Claimed agentId [] before.ledger (before.ledger.step
        (.setStatus agentId (if dispatches.isEmpty then .idle else .busy))) :=
      .of_same rfl rfl
    exact quiet.append (claimed_claims possible.2)

/-- The ids in the result of a poll. -/
def dispatchedIds (result : Option (List TaskDispatch)) : List Int :=
  (result.getD []).map TaskDispatch.taskId

theorem PollSpec.claimed {agentId : String} {freeSlots : Int} {store after : Store}
    {result : Option (List TaskDispatch)}
    (spec : PollSpec agentId freeSlots store (.ok result, after)) :
    Claimed agentId (dispatchedIds result) store.ledger after.ledger := by
  cases result with
  | none =>
      obtain ⟨_, rfl⟩ := spec
      exact Claimed.refl agentId after.ledger
  | some dispatches => exact spec.2.2.claimed spec.2.1

/-! ## The loop without transactions, cut short -/

namespace MongoBroker

open MongoCall

/-- The status that a poll sets after its loop. -/
def polledStatus (dispatches : List TaskDispatch) : AgentSet where
  status := some (if dispatches.isEmpty then .idle else .busy)

def finishPoll (agentId : String) (dispatches : List TaskDispatch) :
    MongoProgram (Option (List TaskDispatch)) := do
  let _ ← issue (.agentsUpdateOne agentId (polledStatus dispatches))
  return some dispatches

theorem claimed_assign {store : Store} {candidate : TaskRow} (free : StillFree store candidate)
    (now : Time) (agentId : String) :
    Claimed agentId [candidate.taskId] store.ledger
      (store.updateTask candidate.taskId (assignSet now agentId).apply
        (assignSet now agentId).taskId_apply).ledger where
  moved := by
    intro taskId member
    rw [List.mem_singleton.mp member]
    refine ⟨by rw [state_of_task free.found, free.queued], ?_, ?_⟩
    · simp [ledger_state, free.found, assignSet, TaskSet.apply]
    · simp [ledger_assignee, free.found, assignSet, TaskSet.apply]
  others := by
    intro taskId absent
    have different : taskId ≠ candidate.taskId := by simpa using absent
    simp [ledger_state, ledger_assignee, different]

theorem claimed_updateAgent (agentId : String) (store : Store) (set : AgentSet) :
    Claimed agentId [] store.ledger
      (store.updateAgent agentId set.apply set.agentId_apply).ledger :=
  .of_same rfl rfl

section Interrupted

variable (rank : Int → Nat) (agentId : String) (progress : Progress) (store : Store)

theorem interrupted_agentsUpdateOne (set : AgentSet) :
    interrupted rank (.agentsUpdateOne agentId set) progress store =
      if progress 0 then store.updateAgent agentId set.apply set.agentId_apply else store := by
  obtain ⟨_, updated, _⟩ := exec_agentsUpdateOne rank agentId set store
  simp only [interrupted, updated]

theorem claimed_interrupted_status (set : AgentSet) :
    Claimed agentId [] store.ledger
      (interrupted rank (.agentsUpdateOne agentId set) progress store).ledger := by
  rw [interrupted_agentsUpdateOne]
  split
  · exact claimed_updateAgent agentId store set
  · exact Claimed.refl agentId store.ledger

theorem claimed_interrupted_insert (row : AssignmentRow) :
    Claimed agentId [] store.ledger
      (interrupted rank (.taskAssignmentsInsertOne row) progress store).ledger := by
  simp only [interrupted]
  split
  · exact .of_same rfl rfl
  · exact Claimed.refl agentId store.ledger

variable {store}

theorem claimed_interrupted_assign {candidate : TaskRow} (free : StillFree store candidate)
    (now : Time) :
    Claimed agentId (if progress 0 then [candidate.taskId] else []) store.ledger
      (interrupted rank (.tasksUpdateOne (assignFilter candidate.taskId) (assignSet now agentId))
        progress store).ledger := by
  simp only [interrupted, exec_assign free]
  split
  · exact claimed_assign free now agentId
  · exact Claimed.refl agentId store.ledger

end Interrupted

/-- The rest of a poll from the loop on, when the call with the given number raises: each
candidate takes two calls, and the first of them claims it. -/
theorem runUntil_assignLoop (rank : Int → Nat) (fault : DbError) (now : Time)
    (agentId : String) {candidates : List TaskRow}
    (distinct : (candidates.map TaskRow.taskId).Nodup) {store : Store}
    (free : ∀ candidate ∈ candidates, StillFree store candidate)
    (dispatches : List TaskDispatch) (index : Nat) (progress : Progress) :
    ∃ tasks after, Claimed agentId tasks store.ledger after.ledger ∧
      if index ≤ 2 * candidates.length then
        (assignLoop now agentId candidates dispatches >>= finishPoll agentId).runUntil (exec rank)
            (interrupted rank) fault (some (index, progress)) store = (.error fault, after) ∧
          (tasks ≠ [] ↔ candidates ≠ [] ∧ (index = 0 → progress 0 = true))
      else
        (assignLoop now agentId candidates dispatches >>= finishPoll agentId).runUntil (exec rank)
            (interrupted rank) fault (some (index, progress)) store =
          (.ok (some (dispatches ++ candidates.map taskDispatch)), after) ∧
        tasks = candidates.map TaskRow.taskId := by
  induction candidates generalizing store dispatches index with
  | nil =>
      obtain ⟨_, status, _⟩ := exec_agentsUpdateOne rank agentId (polledStatus dispatches) store
      cases index with
      | zero =>
          refine ⟨[], _, claimed_interrupted_status rank agentId progress store
            (polledStatus dispatches), ?_⟩
          rw [if_pos (by simp)]
          exact ⟨CallProgram.runUntil_zero _ _ fault progress _ _ store, by simp⟩
      | succ index =>
          refine ⟨[], _, claimed_updateAgent agentId store (polledStatus dispatches), ?_⟩
          rw [if_neg (by simp), List.map_nil, List.append_nil]
          exact ⟨CallProgram.runUntil_perform_of_ok _ _ fault index progress status _, rfl⟩
  | cons candidate candidates ih =>
      rw [List.map_cons, List.nodup_cons] at distinct
      have ready := free candidate (by simp)
      have claim := exec_assign ready rank now agentId
      have claimed := claimed_assign ready now agentId
      rcases index with _ | _ | index
      · refine ⟨_, _, claimed_interrupted_assign rank agentId progress ready now, ?_⟩
        rw [if_pos (by simp)]
        refine ⟨CallProgram.runUntil_zero _ _ fault progress _ _ store, ?_⟩
        cases progress 0 <;> simp
      · refine ⟨[candidate.taskId], _, claimed.append
          (claimed_interrupted_insert rank agentId progress _
            { taskId := candidate.taskId, agentId := agentId, assignedAt := now }), ?_⟩
        rw [if_pos (by simp; omega)]
        refine ⟨?_, by simp⟩
        refine (CallProgram.runUntil_succ_of_ok _ _ fault 0 progress _ claim).trans ?_
        exact CallProgram.runUntil_zero _ _ fault progress _ _ _
      · have freeAfter : ∀ other ∈ candidates,
            StillFree (assignOne now agentId store candidate) other := by
          intro other member
          have different : other.taskId ≠ candidate.taskId := fun same =>
            distinct.1 (List.mem_map.mpr ⟨other, member, same⟩)
          exact (free other (by simp [member])).assignOne_other different
        obtain ⟨tasks, after, later, ended⟩ :=
          ih distinct.2 freeAfter (dispatches ++ [taskDispatch candidate]) index
        have unfolded :
            (assignLoop now agentId (candidate :: candidates) dispatches >>=
              finishPoll agentId).runUntil (exec rank) (interrupted rank) fault
                (some (index + 1 + 1, progress)) store =
              (assignLoop now agentId candidates (dispatches ++ [taskDispatch candidate]) >>=
                finishPoll agentId).runUntil (exec rank) (interrupted rank) fault
                  (some (index, progress)) (assignOne now agentId store candidate) := by
          refine (CallProgram.runUntil_succ_of_ok _ _ fault _ progress _ claim).trans ?_
          exact CallProgram.runUntil_succ_of_ok _ _ fault index progress _ rfl
        have wholly : Claimed agentId [candidate.taskId] store.ledger
            (assignOne now agentId store candidate).ledger :=
          ⟨claimed.moved, claimed.others⟩
        refine ⟨candidate.taskId :: tasks, after, wholly.append later, ?_⟩
        rw [unfolded]
        split at ended
        · rename_i early
          rw [if_pos (by simp; omega)]
          exact ⟨ended.1, by simp⟩
        · rename_i late
          rw [if_neg (by simp; omega)]
          refine ⟨by simpa using ended.1, by simpa using ended.2⟩

end MongoBroker

/-! ## Attempts -/

/-- The rows that a poll hands out when nothing fails. -/
def Deployment.handedOut (deployment : Deployment) (attempt : Attempt) (agentId : String)
    (freeSlots : Int) (store : Store) : List TaskRow :=
  match store.agent agentId with
  | none => []
  | some agent =>
      if freeSlots ≤ 0 then []
      else
        match deployment with
        | .pgsql _ =>
            match PgBroker.selectWhere (PgBroker.fits agent) store.tasks.rows with
            | .error _ => []
            | .ok rows => oldest attempt.rank freeSlots rows
        | .mongo | .mongoStandalone =>
            MongoBroker.candidatesOf attempt.rank agent freeSlots store

/-- One pass through the lambda of `PollTasksForAgent`. -/
def Deployment.pollOnce (deployment : Deployment) (agentId : String) (freeSlots : Int)
    (attempt : Attempt) : DbAction (Option (List TaskDispatch)) :=
  match deployment with
  | .pgsql _ =>
      PgBroker.transaction attempt (PgBroker.pollTasksForAgentBody attempt agentId freeSlots)
  | .mongo | .mongoStandalone =>
      withTransaction attempt (MongoBroker.pollTasksForAgentTransaction attempt agentId freeSlots)
        (MongoBroker.pollTasksForAgentNoTransaction attempt agentId freeSlots)

/-- A call of a poll outside a transaction raises between the first claim and the end.
Before the loop there are three calls, and after it one. -/
def RaisesAfterClaim (handedOut : List TaskRow) (index : Nat) (progress : Progress) : Prop :=
  handedOut ≠ [] ∧ 3 ≤ index ∧ index ≤ 3 + 2 * handedOut.length ∧ (index = 3 → progress 0 = true)

/-- The attempt claims tasks and then raises, so that nobody is told of them: the commit
takes effect without acknowledgement, or there is no transaction and a later call raises. -/
def Deployment.LosesClaims (deployment : Deployment) (agentId : String) (freeSlots : Int)
    (attempt : Attempt) (store : Store) : Prop :=
  let handedOut := deployment.handedOut attempt agentId freeSlots store
  match deployment with
  | .pgsql _ => attempt.transaction = some .commitLost ∧ handedOut ≠ []
  | .mongo | .mongoStandalone =>
      match attempt.transaction with
      | some fault => fault = .commitLost ∧ handedOut ≠ []
      | none => ∃ index progress, attempt.raisingCall = some (index, progress) ∧
          RaisesAfterClaim handedOut index progress

/-- What an attempt claims: the tasks that it returns, or some unless it raises harmlessly. -/
def AttemptClaims (agentId : String) (loses : Prop) (store : Store)
    (outcome : Outcome (Option (List TaskDispatch))) : Prop :=
  ∃ tasks, Claimed agentId tasks store.ledger outcome.2.ledger ∧
    match outcome.1 with
    | .ok result => tasks = dispatchedIds result ∧ ¬ loses
    | .error _ => tasks ≠ [] ↔ loses

theorem AttemptClaims.of_iff {agentId : String} {loses losesToo : Prop} {store : Store}
    {outcome : Outcome (Option (List TaskDispatch))}
    (claims : AttemptClaims agentId loses store outcome) (same : loses ↔ losesToo) :
    AttemptClaims agentId losesToo store outcome := by
  rwa [← propext same]

/-- How the body of a poll in a transaction ends. -/
def PollEnds (agentId : String) (handedOut : List TaskRow) (store : Store) :
    Except DbError (TxEnd Store (Option (List TaskDispatch))) → Prop
  | .error _ => handedOut = []
  | .ok (.abort result) => dispatchedIds result = [] ∧ handedOut = []
  | .ok (.commit result after) =>
      dispatchedIds result = handedOut.map TaskRow.taskId ∧
        Claimed agentId (dispatchedIds result) store.ledger after.ledger

theorem PollEnds.attempt {agentId : String} {handedOut : List TaskRow} {store : Store}
    {body : Store → Except DbError (TxEnd Store (Option (List TaskDispatch)))}
    (ends : PollEnds agentId handedOut store (body store)) (fault : TxFault) (raised : DbError) :
    AttemptClaims agentId (fault = .commitLost ∧ handedOut ≠ []) store
      (TxEnd.attempt fault raised body store) := by
  have quiet := Claimed.refl agentId store.ledger
  rcases ended : body store with error | ⟨result⟩ | ⟨result, after⟩ <;> rw [ended] at ends
  · have nothing : handedOut = [] := ends
    cases fault <;> exact ⟨[], by simpa [TxEnd.attempt, ended] using quiet,
      by simp [TxEnd.attempt, ended, nothing]⟩
  · obtain ⟨noTasks, nothing⟩ := ends
    cases fault <;> exact ⟨[], by simpa [TxEnd.attempt, ended] using quiet,
      by simp [TxEnd.attempt, ended, nothing, noTasks]⟩
  · obtain ⟨sameIds, claimed⟩ := ends
    cases fault with
    | none =>
        exact ⟨_, by simpa [TxEnd.attempt, ended] using claimed, by simp [TxEnd.attempt, ended]⟩
    | beforeCommit => exact ⟨[], quiet, by simp⟩
    | commitLost =>
        exact ⟨_, by simpa [TxEnd.attempt, ended] using claimed,
          by simp [TxEnd.attempt, ended, sameIds]⟩

namespace PgBroker

theorem pollTasksForAgentBody_ends (timestamptz : Time → String → Option Time)
    (attempt : Attempt) (agentId : String) (freeSlots : Int) (store : Store) :
    PollEnds agentId ((Deployment.pgsql timestamptz).handedOut attempt agentId freeSlots store)
      store (pollTasksForAgentBody attempt agentId freeSlots store) := by
  have spec := pollTasksForAgentBody_spec attempt agentId freeSlots store
  unfold Deployment.handedOut
  unfold pollTasksForAgentBody at spec ⊢
  cases found : store.agent agentId with
  | none => exact ⟨rfl, rfl⟩
  | some agent =>
      simp only [found] at spec ⊢
      split at spec
      · rename_i noSlots
        rw [if_pos noSlots, if_pos noSlots]
        exact ⟨rfl, PollSpec.claimed spec⟩
      · rename_i positive
        rw [if_neg positive, if_neg positive]
        have sameRows : (store.updateAgent agentId fun row =>
            { row with lastHeartbeat := attempt.now }).tasks.rows = store.tasks.rows := rfl
        rw [sameRows] at spec ⊢
        cases selected : selectWhere (fits agent) store.tasks.rows with
        | error error => rfl
        | ok rows =>
            rw [selected] at spec
            refine ⟨?_, PollSpec.claimed spec⟩
            simp [dispatchedIds, taskDispatch]

end PgBroker

namespace MongoBroker

open MongoCall

/-- The same rows for both kinds of deployment. -/
def handedOut (attempt : Attempt) (agentId : String) (freeSlots : Int) (store : Store) :
    List TaskRow :=
  Deployment.mongo.handedOut attempt agentId freeSlots store

theorem pollTasksForAgentTransaction_ends (attempt : Attempt) (agentId : String)
    (freeSlots : Int) (store : Store) :
    PollEnds agentId (handedOut attempt agentId freeSlots store) store
      (sessionBody attempt.rank (pollTasksForAgentTransaction attempt agentId freeSlots) store) := by
  have spec := pollTasksForAgentNoTransaction_spec attempt agentId freeSlots store
  rw [run_pollTasksForAgentNoTransaction] at spec
  rw [pollTasksForAgentTransaction_eq, sessionBody_bind, run_pollTasksForAgentNoTransaction]
  unfold handedOut Deployment.handedOut
  cases found : store.agent agentId with
  | none => exact ⟨rfl, rfl⟩
  | some agent =>
      simp only [found] at spec ⊢
      by_cases noSlots : freeSlots ≤ 0
      · rw [if_pos noSlots] at spec
        rw [if_pos noSlots, if_pos noSlots]
        exact ⟨rfl, PollSpec.claimed spec⟩
      · rw [if_neg noSlots] at spec
        rw [if_neg noSlots, if_neg noSlots]
        refine ⟨?_, PollSpec.claimed spec⟩
        simp only [dispatchedIds, Option.getD_some, List.map_map]
        rfl

/-- The rest of a poll from the loop on, as a part of the attempt. -/
theorem assignLoop_attemptClaims (attempt : Attempt) (agentId : String) {handed : List TaskRow}
    {store polled : Store} (polledClaims : Claimed agentId [] store.ledger polled.ledger)
    (distinct : (handed.map TaskRow.taskId).Nodup)
    (free : ∀ candidate ∈ handed, StillFree polled candidate) (index : Nat)
    (progress : Progress) :
    AttemptClaims agentId (RaisesAfterClaim handed (index + 3) progress) store
      ((assignLoop attempt.now agentId handed [] >>= finishPoll agentId).runUntil
        (exec attempt.rank) (interrupted attempt.rank) attempt.error (some (index, progress))
          polled) := by
  obtain ⟨tasks, after, claims, ended⟩ := runUntil_assignLoop attempt.rank attempt.error
    attempt.now agentId distinct free [] index progress
  split at ended
  · rename_i within
    rw [ended.1]
    refine ⟨tasks, polledClaims.append claims, ended.2.trans ?_⟩
    unfold RaisesAfterClaim
    constructor
    · rintro ⟨some, started⟩
      exact ⟨some, by omega, by omega, fun first => started (by omega)⟩
    · rintro ⟨some, _, _, started⟩
      exact ⟨some, fun first => started (by omega)⟩
  · rename_i beyond
    rw [ended.1, List.nil_append]
    refine ⟨tasks, polledClaims.append claims, ?_, ?_⟩
    · rw [ended.2]
      simp [dispatchedIds, taskDispatch]
    · rintro ⟨_, _, within, _⟩
      omega

/-- A poll without a transaction when the call with the given number raises. -/
theorem runUntil_pollTasksForAgentNoTransaction (attempt : Attempt) (agentId : String)
    (freeSlots : Int) (store : Store) (index : Nat) (progress : Progress) :
    AttemptClaims agentId
      (RaisesAfterClaim (handedOut attempt agentId freeSlots store) index progress) store
      ((pollTasksForAgentNoTransaction attempt agentId freeSlots).runUntil (exec attempt.rank)
        (interrupted attempt.rank) attempt.error (some (index, progress)) store) := by
  have quiet := Claimed.refl agentId store.ledger
  generalize rows : handedOut attempt agentId freeSlots store = handed
  -- A call that raises before the loop claims nothing, and neither does an empty answer.
  have early : ∀ raised error after, raised < 3 → Claimed agentId [] store.ledger after.ledger →
      AttemptClaims agentId (RaisesAfterClaim handed raised progress) store
        (.error error, after) := by
    intro raised error after before claims
    refine ⟨[], claims, ?_⟩
    simp only [ne_eq, not_true_eq_false, false_iff]
    rintro ⟨_, atLeast, _⟩
    omega
  have nothing : ∀ result after, dispatchedIds result = [] → handed = [] →
      Claimed agentId [] store.ledger after.ledger →
      AttemptClaims agentId (RaisesAfterClaim handed index progress) store (.ok result, after) := by
    intro result after noTasks none claims
    exact ⟨[], claims, noTasks.symm, fun loses => loses.1 none⟩
  unfold handedOut Deployment.handedOut at rows
  rcases index with _ | index
  · rw [pollTasksForAgentNoTransaction, CallProgram.perform_bind, CallProgram.runUntil_zero]
    refine early 0 _ _ (by omega) ?_
    rw [interrupted, exec_agentsFindOne, ite_self]
    · exact quiet
    all_goals intros; contradiction
  · rw [pollTasksForAgentNoTransaction, CallProgram.runUntil_perform_of_ok _ _ _ _ _
      (exec_agentsFindOne attempt.rank agentId store)]
    cases found : store.agent agentId with
    | none =>
        rw [found] at rows
        exact nothing none store rfl rows.symm quiet
    | some agent =>
        obtain ⟨_, heartbeat, _⟩ := exec_agentsUpdateOne attempt.rank agentId
          { lastHeartbeat := some attempt.now } store
        have polledClaims : Claimed agentId [] store.ledger
            (withHeartbeat attempt.now agentId store).ledger :=
          claimed_updateAgent agentId store { lastHeartbeat := some attempt.now }
        rw [found] at rows
        dsimp only at rows ⊢
        rcases index with _ | index
        · rw [CallProgram.perform_bind, CallProgram.runUntil_zero]
          exact early 1 _ _ (by omega) (claimed_interrupted_status _ agentId progress store _)
        · rw [CallProgram.runUntil_perform_of_ok _ _ _ _ _ heartbeat]
          by_cases noSlots : freeSlots ≤ 0
          · rw [if_pos noSlots] at rows ⊢
            exact nothing (some []) _ rfl rows.symm polledClaims
          · rw [if_neg noSlots] at rows ⊢
            rcases index with _ | index
            · rw [CallProgram.perform_bind, CallProgram.runUntil_zero]
              refine early 2 _ _ (by omega) ?_
              rw [interrupted, exec_tasksFind, ite_self]
              · exact polledClaims
              all_goals intros; contradiction
            · rw [CallProgram.runUntil_perform_of_ok _ _ _ _ _
                (exec_tasksFind attempt.rank (candidateFilter agent) freeSlots _)]
              have candidates : candidatesOf attempt.rank agent freeSlots
                  (withHeartbeat attempt.now agentId store) = handed := rows
              obtain ⟨distinct, free⟩ := candidates_free attempt.rank agent freeSlots
                (withHeartbeat attempt.now agentId store)
              rw [candidates] at distinct free
              change AttemptClaims agentId _ store
                ((assignLoop attempt.now agentId (candidatesOf attempt.rank agent freeSlots
                  (withHeartbeat attempt.now agentId store)) [] >>= finishPoll agentId).runUntil
                    (exec attempt.rank) (interrupted attempt.rank) attempt.error
                      (some (index, progress)) (withHeartbeat attempt.now agentId store))
              rw [candidates]
              exact assignLoop_attemptClaims attempt agentId polledClaims distinct free index
                progress

/-- An attempt of the Mongo broker, whichever kind of deployment it has. -/
theorem pollOnce_claims (attempt : Attempt) (agentId : String) (freeSlots : Int) (store : Store) :
    AttemptClaims agentId (Deployment.mongo.LosesClaims agentId freeSlots attempt store) store
      (Deployment.mongo.pollOnce agentId freeSlots attempt store) := by
  unfold Deployment.LosesClaims Deployment.pollOnce withTransaction
  cases transaction : attempt.transaction with
  | some fault =>
      have ends := pollTasksForAgentTransaction_ends attempt agentId freeSlots store
      exact ends.attempt fault attempt.error
  | none =>
      dsimp only [runCalls]
      rcases raising : attempt.raisingCall with _ | ⟨index, progress⟩
      · have spec := pollTasksForAgentNoTransaction_spec attempt agentId freeSlots store
        rw [CallProgram.runUntil_none]
        rcases ended : (pollTasksForAgentNoTransaction attempt agentId freeSlots).run
          (exec attempt.rank) store with ⟨error | result, after⟩ <;> rw [ended] at spec
        · rw [show after = store from spec]
          exact ⟨[], Claimed.refl agentId store.ledger, by simp⟩
        · exact ⟨_, spec.claimed, rfl, by simp⟩
      · refine (runUntil_pollTasksForAgentNoTransaction attempt agentId freeSlots store index
          progress).of_iff ?_
        simp only [Option.some.injEq, Prod.mk.injEq]
        constructor
        · exact fun raises => ⟨index, progress, ⟨rfl, rfl⟩, raises⟩
        · rintro ⟨_, _, ⟨rfl, rfl⟩, raises⟩
          exact raises

end MongoBroker

theorem Deployment.pollOnce_claims (deployment : Deployment) (attempt : Attempt)
    (agentId : String) (freeSlots : Int) (store : Store) :
    AttemptClaims agentId (deployment.LosesClaims agentId freeSlots attempt store) store
      (deployment.pollOnce agentId freeSlots attempt store) := by
  cases deployment with
  | mongo => exact MongoBroker.pollOnce_claims attempt agentId freeSlots store
  | mongoStandalone => exact MongoBroker.pollOnce_claims attempt agentId freeSlots store
  | pgsql timestamptz =>
      have ends := PgBroker.pollTasksForAgentBody_ends timestamptz attempt agentId freeSlots store
      refine (ends.attempt (attempt.transaction.getD .beforeCommit) attempt.error).of_iff ?_
      unfold Deployment.LosesClaims
      rcases attempt.transaction with _ | _ | _ | _ <;> simp

end DistributedComputing
