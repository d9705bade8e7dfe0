import DistributedComputing.BrokerPasses

/-!
# Methods as loops of passes

Every method of either broker makes attempts at its pass until one returns.  From this
alone follow what a method can return and what it preserves, whatever fails.
-/

namespace DistributedComputing

open MongoCall RetryLoop

namespace Deployment

/-- What the methods do with an exception that outlasts the retries: those of `PgBroker` let
it pass, and those of `MongoBroker` return a default. -/
def caught {Result : Type} : Deployment → Result → DbAction Result → DbAction Result
  | pgsql _, _, action => action
  | mongo, fallback, action => MongoBroker.orElse fallback action
  | mongoStandalone, fallback, action => MongoBroker.orElse fallback action

/-- A failure leaves all or nothing of the attempt: it is one transaction, or none of its
calls fails. -/
def AtomicAttempt : Deployment → Attempt → Prop
  | pgsql _, _ => True
  | mongo, attempt => attempt.transaction ≠ none ∨ attempt.raisingCall = none
  | mongoStandalone, attempt => attempt.transaction ≠ none ∨ attempt.raisingCall = none

theorem HealthyAttempt.atomic {deployment : Deployment} {attempt : Attempt}
    (healthy : deployment.HealthyAttempt attempt) : deployment.AtomicAttempt attempt := by
  cases deployment with
  | pgsql timestamptz => trivial
  | mongo => exact .inr healthy.2
  | mongoStandalone => exact .inr healthy.2

/-- The method is a loop of attempts at the pass. -/
structure LoopOf (deployment : Deployment) {Result : Type}
    (method : List Attempt → DbAction Result) (fallback : Result)
    (pass : Attempt → DbAction Result) where
  act : Attempt → DbAction Result
  method_eq : ∀ attempts,
    method attempts = deployment.caught fallback (executeWithRetry attempts act)
  returnsAs : ∀ attempt, ReturnsAs (act attempt) (pass attempt)
  allOrNothing : ∀ attempt, deployment.AtomicAttempt attempt →
    AllOrNothing (act attempt) (pass attempt)
  healthy : ∀ attempt, deployment.HealthyAttempt attempt →
    ∀ store, act attempt store = pass attempt store

namespace LoopOf

section Consequences

variable {deployment : Deployment} {Result : Type} {method : List Attempt → DbAction Result}
  {fallback : Result} {pass : Attempt → DbAction Result}
  (loop : deployment.LoopOf method fallback pass) {attempts : List Attempt} {store : Store}

/-- A method returns what one pass returned, or its default when every attempt failed. -/
theorem returned {result : Result} {after : Store}
    (ended : method attempts store = (.ok result, after)) :
    (∃ attempt ∈ attempts, ∃ before, pass attempt before = (.ok result, after)) ∨
      (deployment.OnMongo ∧ result = fallback ∧
        ∃ error, executeWithRetry attempts loop.act store = (.error error, after)) := by
  have passed : executeWithRetry attempts loop.act store = (.ok result, after) →
      ∃ attempt ∈ attempts, ∃ before, pass attempt before = (.ok result, after) :=
    exists_pass_of_retry _ fun attempt _ => loop.returnsAs attempt
  have fromDefault : MongoBroker.orElse fallback (executeWithRetry attempts loop.act) store =
      (.ok result, after) → deployment.OnMongo →
        (∃ attempt ∈ attempts, ∃ before, pass attempt before = (.ok result, after)) ∨
          (deployment.OnMongo ∧ result = fallback ∧
            ∃ error, executeWithRetry attempts loop.act store = (.error error, after)) := by
    intro ended onMongo
    unfold MongoBroker.orElse at ended
    rcases looped : executeWithRetry attempts loop.act store with ⟨error | other, middle⟩
    · rw [looped] at ended
      cases ended
      exact .inr ⟨onMongo, rfl, error, rfl⟩
    · rw [looped] at ended
      cases ended
      exact .inl (passed looped)
  rw [loop.method_eq] at ended
  cases deployment with
  | pgsql timestamptz => exact .inl (passed ended)
  | mongo => exact fromDefault ended trivial
  | mongoStandalone => exact fromDefault ended trivial

theorem caught_store (action : DbAction Result) :
    (deployment.caught fallback action store).2 = (action store).2 := by
  cases deployment with
  | pgsql timestamptz => rfl
  | mongo => exact MongoBroker.orElse_store fallback action store
  | mongoStandalone => exact MongoBroker.orElse_store fallback action store

theorem caught_of_ok {action : DbAction Result} {result : Result} {after : Store}
    (ended : action store = (.ok result, after)) :
    deployment.caught fallback action store = (.ok result, after) := by
  cases deployment with
  | pgsql timestamptz => exact ended
  | mongo => exact MongoBroker.orElse_of_ok fallback ended
  | mongoStandalone => exact MongoBroker.orElse_of_ok fallback ended

include loop

/-- What the passes preserve, the method preserves, also when attempts fail. -/
theorem invariant {holds : Store → Prop}
    (atomic : ∀ attempt ∈ attempts, deployment.AtomicAttempt attempt)
    (preserved : ∀ attempt ∈ attempts, ∀ store, holds store → holds (pass attempt store).2)
    (initially : holds store) : holds (method attempts store).2 := by
  rw [loop.method_eq, caught_store]
  exact retry_invariant _ (fun attempt member => loop.allOrNothing attempt (atomic attempt member))
    preserved initially

/-- On a healthy schedule the method is one of its passes. -/
theorem exists_pass (healthy : deployment.Healthy attempts)
    (stable : ∀ attempt error after, pass attempt store = (.error error, after) → after = store) :
    ∃ attempt ∈ attempts,
      method attempts store = deployment.caught fallback (pass attempt) store := by
  have same : ∀ attempt ∈ attempts, loop.act attempt store = pass attempt store :=
    fun attempt member => loop.healthy attempt (healthy.attempt attempt member) store
  have stableActs : ∀ run ∈ attempts.map loop.act, ∀ error after,
      run store = (.error error, after) → after = store := by
    intro run member error after raised
    obtain ⟨attempt, attemptMember, rfl⟩ := List.mem_map.mp member
    rw [same attempt attemptMember] at raised
    exact stable attempt error after raised
  obtain ⟨run, member, equal⟩ := retry_eq_attempt
    (⟨"Retry loop exhausted unexpectedly"⟩ : DbError) (by simpa using healthy.nonempty) stableActs
  obtain ⟨attempt, attemptMember, rfl⟩ := List.mem_map.mp member
  refine ⟨attempt, attemptMember, ?_⟩
  have looped : executeWithRetry attempts loop.act store = pass attempt store :=
    equal.trans (same attempt attemptMember)
  rw [loop.method_eq]
  cases deployment with
  | pgsql timestamptz => exact looped
  | mongo => simp only [caught, MongoBroker.orElse, looped]
  | mongoStandalone => simp only [caught, MongoBroker.orElse, looped]

/-- A healthy first attempt whose pass returns is the only one. -/
theorem first_returns {attempt : Attempt} (healthy : deployment.HealthyAttempt attempt)
    (spare : List Attempt) {result : Result} {after : Store}
    (returns : pass attempt store = (.ok result, after)) :
    method (attempt :: spare) store = (.ok result, after) := by
  rw [loop.method_eq]
  apply caught_of_ok
  apply retry_cons_of_ok
  rw [loop.healthy attempt healthy, returns]

end Consequences

/-! ## The kinds of methods -/

/-- One transaction on PostgreSQL. -/
def transaction (timestamptz : Time → String → Option Time) {Result : Type} (fallback : Result)
    {body : Attempt → Store → Except DbError (TxEnd Store Result)}
    {pass : Attempt → DbAction Result}
    (settled : ∀ attempt store, TxEnd.settle store (body attempt store) = pass attempt store) :
    (pgsql timestamptz).LoopOf
      (fun attempts => executeWithRetry attempts fun attempt =>
        PgBroker.transaction attempt (body attempt)) fallback pass := by
  have whole : ∀ attempt, AllOrNothing (PgBroker.transaction attempt (body attempt))
      (pass attempt) := by
    intro attempt store
    rw [← settled]
    exact allOrNothing_attempt _ attempt.error (body attempt) store
  exact
    { act := fun attempt => PgBroker.transaction attempt (body attempt)
      method_eq := fun _ => rfl
      returnsAs := fun attempt => (whole attempt).returnsAs
      allOrNothing := fun attempt _ => whole attempt
      healthy := by
        intro attempt healthy store
        have noFault : attempt.transaction = some .none := healthy
        rw [← settled, PgBroker.transaction, noFault]
        exact TxEnd.attempt_none attempt.error (body attempt) store }

theorem returnsAs_runCalls {Result : Type} (attempt : Attempt) (program : MongoProgram Result) :
    ReturnsAs (runCalls attempt program) (program.run (exec attempt.rank)) :=
  fun _ _ _ returned =>
    CallProgram.run_of_runUntil (exec attempt.rank) (interrupted attempt.rank) attempt.error
      returned

section OnMongo

variable {deployment : Deployment} (onMongo : deployment.OnMongo) {Result : Type}
  (fallback : Result) {pass : Attempt → DbAction Result}

/-- The same attempt in a session that nothing disturbs. -/
def undisturbed (attempt : Attempt) : Attempt :=
  { attempt with transaction := some .none, raisingCall := none }

/-- One session on MongoDB, with the function for deployments without transactions. -/
def session {body : Attempt → MongoProgram (SessionEnd Result)}
    {noTransaction : Attempt → MongoProgram Result}
    (alone : ∀ attempt, MongoBroker.FaultFree attempt → ∀ store,
      withTransaction attempt (body attempt) (noTransaction attempt) store =
        (noTransaction attempt).run (exec attempt.rank) store)
    (sameBody : ∀ attempt, body (undisturbed attempt) = body attempt ∧
      noTransaction (undisturbed attempt) = noTransaction attempt)
    (ran : ∀ attempt store,
      (noTransaction attempt).run (exec attempt.rank) store = pass attempt store) :
    deployment.LoopOf
      (fun attempts => MongoBroker.orElse fallback (executeWithRetry attempts fun attempt =>
        withTransaction attempt (body attempt) (noTransaction attempt))) fallback pass := by
  have settled : ∀ attempt store,
      TxEnd.settle store (sessionBody attempt.rank (body attempt) store) = pass attempt store := by
    intro attempt store
    have calm := alone (undisturbed attempt) ⟨.inl rfl, rfl⟩ store
    rw [(sameBody attempt).1, (sameBody attempt).2] at calm
    rw [← ran, ← TxEnd.attempt_none attempt.error]
    exact calm
  have atomic : ∀ attempt fault, attempt.transaction = some fault →
      AllOrNothing (withTransaction attempt (body attempt) (noTransaction attempt))
        (pass attempt) := by
    intro attempt fault transactions store
    simp only [withTransaction, transactions]
    rw [← settled]
    exact allOrNothing_attempt fault attempt.error (sessionBody attempt.rank (body attempt)) store
  have single : ∀ attempt, MongoBroker.FaultFree attempt → ∀ store,
      withTransaction attempt (body attempt) (noTransaction attempt) store =
        pass attempt store := fun attempt faultFree store =>
    (alone attempt faultFree store).trans (ran attempt store)
  exact
    { act := fun attempt => withTransaction attempt (body attempt) (noTransaction attempt)
      method_eq := by
        rcases onMongo.eq_or with rfl | rfl <;> exact fun _ => rfl
      returnsAs := by
        intro attempt
        cases transactions : attempt.transaction with
        | some fault => exact (atomic attempt fault transactions).returnsAs
        | none =>
            intro state result after returned
            simp only [withTransaction, transactions] at returned
            rw [← ran]
            exact returnsAs_runCalls attempt _ state result after returned
      allOrNothing := by
        intro attempt isAtomic
        cases transactions : attempt.transaction with
        | some fault => exact atomic attempt fault transactions
        | none =>
            have quiet : attempt.raisingCall = none := by
              rcases onMongo.eq_or with rfl | rfl <;>
                simpa [AtomicAttempt, transactions] using isAtomic
            exact allOrNothing_of_eq (single attempt ⟨.inr transactions, quiet⟩)
      healthy := by
        intro attempt healthy
        apply single
        rcases onMongo.eq_or with rfl | rfl
        · exact ⟨.inl healthy.1, healthy.2⟩
        · exact ⟨.inr healthy.1, healthy.2⟩ }

/-- A call that took effect or did not when it raised. -/
def OneDocument (request : MongoCall) : Prop :=
  ∀ rank progress store,
    request.interrupted rank progress store =
      if progress 0 then (request.exec rank store).2 else store

/-- One call on MongoDB outside of sessions. -/
def single {request : Attempt → MongoCall} {finish : (attempt : Attempt) →
      (request attempt).Reply → Result}
    (oneDocument : ∀ attempt, OneDocument (request attempt))
    (ran : ∀ attempt store,
      (issue (request attempt) >>= fun reply => .done (finish attempt reply) :
        MongoProgram Result).run (exec attempt.rank) store = pass attempt store) :
    deployment.LoopOf
      (fun attempts => MongoBroker.orElse fallback (executeWithRetry attempts fun attempt =>
        runCalls attempt (issue (request attempt) >>= fun reply => .done (finish attempt reply))))
      fallback pass := by
  have whole : ∀ attempt, AllOrNothing
      (runCalls attempt (issue (request attempt) >>= fun reply => .done (finish attempt reply)))
      (pass attempt) := by
    intro attempt store
    rw [← ran]
    unfold runCalls
    rcases attempt.raisingCall with _ | ⟨_ | index, progress⟩
    · exact .inl (CallProgram.runUntil_none ..)
    · refine .inr ⟨attempt.error, ?_⟩
      have cut := oneDocument attempt attempt.rank progress store
      rw [CallProgram.perform_bind, CallProgram.runUntil_zero, cut, CallProgram.run_call]
      cases progress 0 with
      | false => exact .inl rfl
      | true =>
          refine .inr ?_
          rcases (request attempt).exec attempt.rank store with ⟨_ | reply, after⟩ <;> rfl
    · refine .inl ?_
      rw [CallProgram.perform_bind, CallProgram.run_call, CallProgram.runUntil]
      rcases (request attempt).exec attempt.rank store with ⟨_ | reply, after⟩ <;> rfl
  exact
    { act := fun attempt =>
        runCalls attempt (issue (request attempt) >>= fun reply => .done (finish attempt reply))
      method_eq := by
        rcases onMongo.eq_or with rfl | rfl <;> exact fun _ => rfl
      returnsAs := fun attempt => (whole attempt).returnsAs
      allOrNothing := fun attempt _ => whole attempt
      healthy := by
        intro attempt healthy store
        have faultFree : MongoBroker.FaultFree attempt := by
          rcases onMongo.eq_or with rfl | rfl
          · exact ⟨.inl healthy.1, healthy.2⟩
          · exact ⟨.inr healthy.1, healthy.2⟩
        rw [MongoBroker.runCalls_faultFree faultFree, ran] }

end OnMongo

end LoopOf

/-! ## The methods of the brokers -/

def upsertAgentLoop (deployment : Deployment) (agent : AgentInput) :
    deployment.LoopOf (fun attempts => deployment.broker.upsertAgent attempts agent) false
      (deployment.upsertAgentPass agent) := by
  have onMongo : ∀ {deployment : Deployment}, deployment.OnMongo →
      deployment.LoopOf (fun attempts => MongoBroker.upsertAgent attempts agent) false
        (deployment.upsertAgentPass agent) := fun onMongo =>
    LoopOf.single onMongo false (fun _ _ _ _ => rfl) fun attempt store => by
      rcases onMongo.eq_or with rfl | rfl <;> rfl
  exact match deployment with
    | pgsql timestamptz => LoopOf.transaction timestamptz false fun _ _ => rfl
    | mongo => onMongo trivial
    | mongoStandalone => onMongo trivial

def updateHeartbeatLoop (deployment : Deployment) (heartbeat : AgentHeartbeat) :
    deployment.LoopOf (fun attempts => deployment.broker.updateHeartbeat attempts heartbeat) false
      (updateHeartbeatPass heartbeat) := by
  have ran : ∀ attempt store, (MongoBroker.updateHeartbeatOnce attempt heartbeat).run
      (exec attempt.rank) store = updateHeartbeatPass heartbeat attempt store := by
    intro attempt store
    obtain ⟨result, ran, matched⟩ :=
      MongoBroker.run_updateHeartbeatOnce attempt heartbeat store
    rw [ran]
    unfold updateHeartbeatPass
    cases found : store.agent heartbeat.agentId with
    | none =>
        have unmatched : decide (0 < result.matchedCount) = false := by simp [matched, found]
        rw [unmatched, Store.updateAgent_of_absent found]
    | some row =>
        have hit : decide (0 < result.matchedCount) = true := by simp [matched, found]
        rw [hit]
        rfl
  have onMongo : ∀ {deployment : Deployment}, deployment.OnMongo →
      deployment.LoopOf (fun attempts => MongoBroker.updateHeartbeat attempts heartbeat) false
        (updateHeartbeatPass heartbeat) := fun onMongo =>
    LoopOf.single onMongo false (fun _ _ _ _ => rfl) ran
  have settled : ∀ attempt store, TxEnd.settle store
      (match store.agent heartbeat.agentId with
      | none => (.ok (.abort false) : Except DbError (TxEnd Store Bool))
      | some _ =>
          .ok (.commit true (store.updateAgent heartbeat.agentId
            (fun row => { row with status := heartbeat.status, lastHeartbeat := attempt.now })
            (agentId_reportedRow heartbeat attempt)))) =
        updateHeartbeatPass heartbeat attempt store := by
    intro attempt store
    unfold updateHeartbeatPass
    cases store.agent heartbeat.agentId <;> rfl
  exact match deployment with
    | pgsql timestamptz => LoopOf.transaction timestamptz false settled
    | mongo => onMongo trivial
    | mongoStandalone => onMongo trivial

def getAgentLoop (deployment : Deployment) (agentId : String) :
    deployment.LoopOf (fun attempts => deployment.broker.getAgent attempts agentId) none
      (deployment.getAgentPass agentId) := by
  have onMongo : ∀ {deployment : Deployment}, deployment.OnMongo →
      deployment.LoopOf (fun attempts => MongoBroker.getAgent attempts agentId) none
        (deployment.getAgentPass agentId) := by
    intro deployment onMongo
    have sameRecord : deployment.agentRecord = MongoBroker.agentRecord := by
      rcases onMongo.eq_or with rfl | rfl <;> rfl
    refine LoopOf.single onMongo none (fun _ _ _ _ => rfl) fun _ _ => ?_
    rw [getAgentPass, sameRecord]
    rfl
  exact match deployment with
    | pgsql timestamptz => LoopOf.transaction timestamptz none fun _ _ => rfl
    | mongo => onMongo trivial
    | mongoStandalone => onMongo trivial

def getTaskLoop (deployment : Deployment) (taskId : Int) :
    deployment.LoopOf (fun attempts => deployment.broker.getTask attempts taskId) none
      (deployment.getTaskPass taskId) := by
  have onMongo : ∀ {deployment : Deployment}, deployment.OnMongo →
      deployment.LoopOf (fun attempts => MongoBroker.getTask attempts taskId) none
        (deployment.getTaskPass taskId) := by
    intro deployment onMongo
    have sameRecord : deployment.taskRecord = MongoBroker.taskRecord := by
      rcases onMongo.eq_or with rfl | rfl <;> rfl
    refine LoopOf.single onMongo none (fun _ _ _ _ => rfl) fun _ _ => ?_
    rw [getTaskPass, sameRecord]
    rfl
  exact match deployment with
    | pgsql timestamptz => LoopOf.transaction timestamptz none fun _ _ => rfl
    | mongo => onMongo trivial
    | mongoStandalone => onMongo trivial

def createTaskLoop (deployment : Deployment) (task : TaskInput) :
    deployment.LoopOf (fun attempts => deployment.broker.createTask attempts task) 0
      (deployment.createTaskPass task) := by
  have onMongo : ∀ {deployment : Deployment}, deployment.OnMongo →
      deployment.LoopOf (fun attempts => MongoBroker.createTask attempts task) 0
        (deployment.createTaskPass task) := fun onMongo =>
    LoopOf.session onMongo 0
      (fun _ faultFree store => MongoBroker.withTransaction_createTask faultFree store task)
      (fun _ => ⟨rfl, rfl⟩) fun attempt store => run_createTask onMongo attempt store task
  exact match deployment with
    | pgsql timestamptz => LoopOf.transaction timestamptz 0 fun attempt store =>
        settle_createTaskBody timestamptz attempt store task
    | mongo => onMongo trivial
    | mongoStandalone => onMongo trivial

def pollTasksForAgentLoop (deployment : Deployment) (agentId : String) (freeSlots : Int) :
    deployment.LoopOf
      (fun attempts => deployment.broker.pollTasksForAgent attempts agentId freeSlots) (some [])
      (deployment.pollTasksForAgentPass agentId freeSlots) := by
  have onMongo : ∀ {deployment : Deployment}, deployment.OnMongo →
      deployment.LoopOf
        (fun attempts => MongoBroker.pollTasksForAgent attempts agentId freeSlots) (some [])
        (deployment.pollTasksForAgentPass agentId freeSlots) := fun onMongo =>
    LoopOf.session onMongo (some [])
      (fun _ faultFree store =>
        MongoBroker.withTransaction_pollTasksForAgent faultFree store agentId freeSlots)
      (fun _ => ⟨rfl, rfl⟩) fun attempt store =>
        run_pollTasksForAgent onMongo attempt store agentId freeSlots
  exact match deployment with
    | pgsql timestamptz => LoopOf.transaction timestamptz (some []) fun attempt store =>
        settle_pollTasksForAgentBody timestamptz attempt store agentId freeSlots
    | mongo => onMongo trivial
    | mongoStandalone => onMongo trivial

def updateTaskStatusLoop (deployment : Deployment) (taskId : Int) (update : TaskStatusUpdate) :
    deployment.LoopOf
      (fun attempts => deployment.broker.updateTaskStatus attempts taskId update) false
      (deployment.updateTaskStatusPass taskId update) := by
  have onMongo : ∀ {deployment : Deployment}, deployment.OnMongo →
      deployment.LoopOf (fun attempts => MongoBroker.updateTaskStatus attempts taskId update) false
        (deployment.updateTaskStatusPass taskId update) := fun onMongo =>
    LoopOf.session onMongo false
      (fun _ faultFree store =>
        MongoBroker.withTransaction_updateTaskStatus faultFree store taskId update)
      (fun _ => ⟨rfl, rfl⟩) fun attempt store =>
        run_updateTaskStatus onMongo attempt store taskId update
  exact match deployment with
    | pgsql timestamptz => LoopOf.transaction timestamptz false fun attempt store =>
        settle_updateTaskStatusBody timestamptz attempt store taskId update
    | mongo => onMongo trivial
    | mongoStandalone => onMongo trivial

def cancelTaskLoop (deployment : Deployment) (taskId : Int) :
    deployment.LoopOf (fun attempts => deployment.broker.cancelTask attempts taskId) .error
      (cancelTaskPass taskId) := by
  have onMongo : ∀ {deployment : Deployment}, deployment.OnMongo →
      deployment.LoopOf (fun attempts => MongoBroker.cancelTask attempts taskId) .error
        (cancelTaskPass taskId) := fun onMongo =>
    LoopOf.session onMongo CancelTaskResult.error
      (fun _ faultFree store => MongoBroker.withTransaction_cancelTask faultFree store taskId)
      (fun _ => ⟨rfl, rfl⟩) fun attempt store => run_cancelTask attempt store taskId
  exact match deployment with
    | pgsql timestamptz => LoopOf.transaction timestamptz CancelTaskResult.error fun attempt store =>
        settle_cancelTaskBody attempt store taskId
    | mongo => onMongo trivial
    | mongoStandalone => onMongo trivial

def markOfflineAgentsAndRequeueLoop (deployment : Deployment) (offlineAfterSec : Int) :
    deployment.LoopOf
      (fun attempts => deployment.broker.markOfflineAgentsAndRequeue attempts offlineAfterSec) 0
      (deployment.markOfflineAgentsAndRequeuePass offlineAfterSec) := by
  have onMongo : ∀ {deployment : Deployment}, deployment.OnMongo →
      deployment.LoopOf
        (fun attempts => MongoBroker.markOfflineAgentsAndRequeue attempts offlineAfterSec) 0
        (deployment.markOfflineAgentsAndRequeuePass offlineAfterSec) := fun onMongo =>
    LoopOf.session onMongo 0
      (fun _ faultFree store =>
        MongoBroker.withTransaction_markOfflineAgentsAndRequeue faultFree store offlineAfterSec)
      (fun _ => ⟨rfl, rfl⟩) fun attempt store =>
        run_markOfflineAgentsAndRequeue onMongo attempt store offlineAfterSec
  exact match deployment with
    | pgsql timestamptz => LoopOf.transaction timestamptz 0 fun attempt store =>
        settle_markOfflineAgentsAndRequeueBody timestamptz attempt store offlineAfterSec
    | mongo => onMongo trivial
    | mongoStandalone => onMongo trivial

end Deployment

end DistributedComputing
