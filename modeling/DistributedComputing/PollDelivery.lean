import DistributedComputing.MasterRuns
import DistributedComputing.PollClaims

/-!
# What a poll claims and what it delivers

The claims of an attempt are durable, but the list of dispatches is local to the attempt.
A retry starts with an empty list, so the answer of a poll lists the claims of its last
attempt only.
-/

namespace DistributedComputing

open TransitionRuns ControlService Ledger

/-- The ids in the outcome of a poll. -/
def deliveredIds (outcome : Except DbError (Option (List TaskDispatch))) : List Int :=
  match outcome with
  | .ok result => dispatchedIds result
  | .error _ => []

/-- The ids in the answer to a poll. -/
def Response.taskIds (response : Response) : List Int :=
  ((response.body.arrayMember "tasks").getD []).filterMap (Json.integerMember "task_id")

theorem taskIds_dispatchesResponse (dispatches : List TaskDispatch) :
    (dispatchesResponse dispatches).taskIds = dispatches.map TaskDispatch.taskId := by
  simp [Response.taskIds, dispatchesResponse, Json.arrayMember, Json.find, Json.asArray,
    List.filterMap_map]

section Retries

variable {agentId : String} {fn : Attempt → DbAction (Option (List TaskDispatch))}
  {Loses : Attempt → Store → Prop}

/-- The loop claims at least what it returns, and nothing else unless an attempt loses its
claims. -/
theorem executeWithRetry_claims
    (each : ∀ attempt store, AttemptClaims agentId (Loses attempt store) store (fn attempt store))
    (attempts : List Attempt) (store : Store) :
    ∃ tasks,
      Claimed agentId tasks store.ledger (executeWithRetry attempts fn store).2.ledger ∧
      deliveredIds (executeWithRetry attempts fn store).1 ⊆ tasks ∧
      (tasks ⊆ deliveredIds (executeWithRetry attempts fn store).1 ↔
        ∀ visit ∈ visits (RetryLoop.attemptStep fn) store
          (RetryLoop.attempted fn attempts store), ¬ Loses visit.2 visit.1) := by
  unfold executeWithRetry
  induction attempts generalizing store with
  | nil =>
      refine ⟨[], Claimed.refl agentId store.ledger, ?_, ?_⟩
      · exact List.Subset.refl []
      · simp [RetryLoop.attempted, visits]
  | cons attempt attempts ih =>
      obtain ⟨tasks, claims, told⟩ := each attempt store
      rcases ended : fn attempt store with ⟨error | result, after⟩ <;> rw [ended] at claims told
      · have loses : tasks ≠ [] ↔ Loses attempt store := told
        rcases attempts with _ | ⟨next, attempts⟩
        · refine ⟨tasks, by simpa [ended] using claims, by simp [ended, deliveredIds], ?_⟩
          simp [ended, deliveredIds, RetryLoop.attempted, visits, ← loses]
        · obtain ⟨more, later, delivered, complete⟩ := ih after
          rw [List.map_cons, RetryLoop.retry_cons_of_error _ (by simp) ended]
          refine ⟨tasks ++ more, claims.append later,
            fun task member => List.mem_append_right tasks (delivered member), ?_⟩
          rw [RetryLoop.attempted, ended, visits, RetryLoop.attemptStep, ended]
          simp only [List.mem_cons, forall_eq_or_imp, List.append_subset]
          rw [complete, ← loses]
          refine and_congr_left fun _ => ?_
          -- What the failed attempt claimed is running, so the rest cannot have claimed it.
          constructor
          · intro told some
            obtain ⟨task, member⟩ := List.exists_mem_of_ne_nil tasks some
            have running := (claims.moved task member).2.1
            have queued := (later.moved task (delivered (told member))).1
            rw [queued] at running
            cases running
          · intro none
            rw [not_not.mp none]
            exact List.nil_subset _
      · obtain ⟨rfl, spared⟩ := told
        rw [List.map_cons, RetryLoop.retry_cons_of_ok _ _ ended]
        refine ⟨_, claims, List.Subset.refl _, ?_⟩
        simp [deliveredIds, RetryLoop.attempted, ended, visits, spared]

end Retries

/-- The brokers differ in what they return when the last attempt raises, but neither
returns a task then. -/
theorem Deployment.pollTasksForAgent_eq (deployment : Deployment) (attempts : List Attempt)
    (agentId : String) (freeSlots : Int) (store : Store) :
    deliveredIds (deployment.broker.pollTasksForAgent attempts agentId freeSlots store).1 =
        deliveredIds (executeWithRetry attempts (deployment.pollOnce agentId freeSlots) store).1 ∧
      (deployment.broker.pollTasksForAgent attempts agentId freeSlots store).2 =
        (executeWithRetry attempts (deployment.pollOnce agentId freeSlots) store).2 := by
  have swallowed : ∀ action : DbAction (Option (List TaskDispatch)),
      deliveredIds (MongoBroker.orElse (some []) action store).1 = deliveredIds (action store).1 ∧
        (MongoBroker.orElse (some []) action store).2 = (action store).2 := by
    intro action
    unfold MongoBroker.orElse
    split <;> rename_i ended <;> simp [ended, deliveredIds, dispatchedIds]
  cases deployment with
  | pgsql timestamptz => exact ⟨rfl, rfl⟩
  | mongo => exact swallowed _
  | mongoStandalone => exact swallowed _

theorem poll_delivers_claims_iff (deployment : Deployment) (attempts : List Attempt)
    (agentId : String) (body : Body) (freeSlots : Int)
    (parsed : parseBody parseFreeSlots body = .ok freeSlots) (store : Store) :
    let answer := handlePollTasks deployment.broker attempts agentId body store
    (∀ taskId, Moved agentId store.ledger answer.2.ledger taskId ↔ taskId ∈ answer.1.taskIds) ↔
      ∀ visit ∈ visits (RetryLoop.attemptStep (deployment.pollOnce agentId freeSlots)) store
          (RetryLoop.attempted (deployment.pollOnce agentId freeSlots) attempts store),
        ¬ deployment.LosesClaims agentId freeSlots visit.2 visit.1 := by
  intro answer
  obtain ⟨tasks, claims, delivered, complete⟩ := executeWithRetry_claims
    (fun attempt store => deployment.pollOnce_claims attempt agentId freeSlots store)
    attempts store
  obtain ⟨sameIds, sameStore⟩ :=
    deployment.pollTasksForAgent_eq attempts agentId freeSlots store
  rw [← sameIds] at delivered complete
  rw [← sameStore] at claims
  have answered : answer.1.taskIds =
        deliveredIds (deployment.broker.pollTasksForAgent attempts agentId freeSlots store).1 ∧
      answer.2 = (deployment.broker.pollTasksForAgent attempts agentId freeSlots store).2 := by
    simp only [answer, handlePollTasks, parsed]
    rcases deployment.broker.pollTasksForAgent attempts agentId freeSlots store with
      ⟨_ | _ | dispatches, after⟩
    · exact ⟨rfl, rfl⟩
    · exact ⟨rfl, rfl⟩
    · exact ⟨taskIds_dispatchesResponse dispatches, rfl⟩
  rw [answered.1, answered.2, ← complete]
  simp only [claims.moved_iff]
  exact ⟨fun same task => (same task).mp, fun told task => ⟨fun member => told member,
    fun member => delivered member⟩⟩

/-- A registered agent and a task that waits for it. -/
def waitingTask (deployment : Deployment) : Store :=
  run (masterStep deployment {}) Store.empty ((firstPoll deployment).take 2)

def pollOneTask : Body :=
  .json (.object [("free_slots", .integer 1)])

theorem poll_delivers_claims_iff_waitingTask :
    let answer := handlePollTasks Deployment.mongo.broker [Deployment.mongo.calmAttempt 3000]
      "agent-1" pollOneTask (waitingTask .mongo)
    (∀ taskId, Moved "agent-1" (waitingTask .mongo).ledger answer.2.ledger taskId ↔
        taskId ∈ answer.1.taskIds) ↔
      ∀ visit ∈ visits (RetryLoop.attemptStep (Deployment.mongo.pollOnce "agent-1" 1))
          (waitingTask .mongo) (RetryLoop.attempted (Deployment.mongo.pollOnce "agent-1" 1)
            [Deployment.mongo.calmAttempt 3000] (waitingTask .mongo)),
        ¬ Deployment.mongo.LosesClaims "agent-1" 1 visit.2 visit.1 :=
  poll_delivers_claims_iff .mongo [Deployment.mongo.calmAttempt 3000] "agent-1" pollOneTask 1 rfl
    (waitingTask .mongo)

/-- The insert of the assignment row fails; the second attempt finds no task any more. -/
def insertFails : List Attempt :=
  [{ now := 3000, transaction := none, raisingCall := some (4, fun _ => false) },
    Deployment.mongoStandalone.calmAttempt 5000]

/-- The commit takes effect and its acknowledgement is lost. -/
def acknowledgementLost (deployment : Deployment) : List Attempt :=
  [{ now := 3000, transaction := some .commitLost }, deployment.calmAttempt 5000]

theorem poll_loses_claims :
    ((handlePollTasks Deployment.mongoStandalone.broker insertFails "agent-1" pollOneTask
        (waitingTask .mongoStandalone)).1.taskIds = [] ∧
      Moved "agent-1" (waitingTask .mongoStandalone).ledger
        (handlePollTasks Deployment.mongoStandalone.broker insertFails "agent-1" pollOneTask
          (waitingTask .mongoStandalone)).2.ledger 1) ∧
    (handlePollTasks Deployment.mongo.broker (acknowledgementLost .mongo) "agent-1" pollOneTask
        (waitingTask .mongo)).1.taskIds = [] ∧
      Moved "agent-1" (waitingTask .mongo).ledger
        (handlePollTasks Deployment.mongo.broker (acknowledgementLost .mongo) "agent-1"
          pollOneTask (waitingTask .mongo)).2.ledger 1 :=
  ⟨⟨rfl, rfl, rfl, rfl⟩, rfl, rfl, rfl, rfl⟩

end DistributedComputing
