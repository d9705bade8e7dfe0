import DistributedComputing.StepCalls

/-!
# What requests leave alone

Without failures of the database an operation is one of its passes.  A request that is not
answered with 200 leaves the tables as they are, and a status report or a cancel that is
writes its task and the open assignments of its task only.
-/

namespace DistributedComputing

open ControlService

/-- The task is in the state, and nothing differs but its row and the rows of its
assignments that were open. -/
structure OnlyTargetChanges (taskId : Int) (state : TaskState) (before after : Store) :
    Prop where
  agents : after.agents = before.agents
  otherTasks : ∀ other, other ≠ taskId → after.task other = before.task other
  taskAssignments : List.Forall₂
    (fun old new => new = old ∨ (old.taskId = taskId ∧ old.unassignedAt = none))
    before.taskAssignments after.taskAssignments
  taskSeq : after.taskSeq = before.taskSeq
  reached : ∃ row, after.task taskId = some row ∧ row.state = state

namespace Deployment

/-- On a healthy schedule a method fails without effect or is a pass that returns. -/
theorem LoopOf.healthy_cases {deployment : Deployment} {Result : Type}
    {method : List Attempt → DbAction Result} {fallback : Result}
    {pass : Attempt → DbAction Result} (loop : deployment.LoopOf method fallback pass)
    {attempts : List Attempt} (healthy : deployment.Healthy attempts) (store : Store)
    (stable : ∀ attempt error after, pass attempt store = (.error error, after) → after = store) :
    method attempts store = (.ok fallback, store) ∨
      (∃ error, method attempts store = (.error error, store)) ∨
      ∃ attempt ∈ attempts, ∃ result after, pass attempt store = (.ok result, after) ∧
        method attempts store = (.ok result, after) := by
  obtain ⟨attempt, member, equal⟩ := loop.exists_pass healthy stable
  rcases passed : pass attempt store with ⟨error | result, after⟩
  · obtain rfl := stable attempt error after passed
    cases deployment with
    | pgsql timestamptz => exact .inr (.inl ⟨error, equal.trans passed⟩)
    | mongo => exact .inl (equal.trans (by simp [caught, MongoBroker.orElse, passed]))
    | mongoStandalone => exact .inl (equal.trans (by simp [caught, MongoBroker.orElse, passed]))
  · exact .inr (.inr ⟨attempt, member, result, after, passed, equal.trans (caught_of_ok passed)⟩)

/-- On a healthy schedule a method whose passes return is one of them. -/
theorem LoopOf.eq_pass {deployment : Deployment} {Result : Type}
    {method : List Attempt → DbAction Result} {fallback : Result}
    {pass : Attempt → DbAction Result} (loop : deployment.LoopOf method fallback pass)
    {attempts : List Attempt} (healthy : deployment.Healthy attempts) (store : Store)
    (returns : ∀ attempt, ∃ result after, pass attempt store = (.ok result, after)) :
    ∃ attempt ∈ attempts, method attempts store = pass attempt store := by
  obtain ⟨attempt, member, equal⟩ := loop.exists_pass healthy (by
    intro attempt error after failed
    obtain ⟨result, other, passed⟩ := returns attempt
    rw [passed] at failed
    cases failed)
  obtain ⟨result, after, passed⟩ := returns attempt
  refine ⟨attempt, member, equal.trans ?_⟩
  rw [passed]
  exact caught_of_ok passed

section Passes

variable (deployment : Deployment) {attempt : Attempt} {store after : Store}

theorem forall₂_closeTask (taskId : Int) (time : Time) (reason : String) (store : Store) :
    List.Forall₂ (fun old new => new = old ∨ (old.taskId = taskId ∧ old.unassignedAt = none))
      store.taskAssignments (closeTask taskId time reason store).taskAssignments := by
  rw [closeTask, Store.updateAssignments, List.forall₂_map_right_iff, List.forall₂_same]
  intro row _
  split
  · rename_i isOpen
    simp only [Bool.and_eq_true, decide_eq_true_eq, Option.isNone_iff_eq_none] at isOpen
    exact .inr isOpen
  · exact .inl rfl

theorem updateHeartbeatPass_error {heartbeat : AgentHeartbeat} {error : DbError}
    (failed : updateHeartbeatPass heartbeat attempt store = (.error error, after)) :
    after = store := by
  unfold updateHeartbeatPass at failed
  split at failed <;> cases failed

/-- A heartbeat of an agent that is not there writes nothing. -/
theorem updateHeartbeatPass_false {heartbeat : AgentHeartbeat}
    (passed : updateHeartbeatPass heartbeat attempt store = (.ok false, after)) :
    after = store := by
  unfold updateHeartbeatPass at passed
  split at passed <;> cases passed
  rfl

theorem pollTasksForAgentPass_error {agentId : String} {freeSlots : Int} {error : DbError}
    (failed : deployment.pollTasksForAgentPass agentId freeSlots attempt store =
      (.error error, after)) : after = store := by
  unfold pollTasksForAgentPass at failed
  split at failed
  · cases failed
  · dsimp only at failed
    split at failed
    · cases failed
    · split at failed <;> cases failed
      rfl

theorem pollTasksForAgentPass_none {agentId : String} {freeSlots : Int}
    (passed : deployment.pollTasksForAgentPass agentId freeSlots attempt store =
      (.ok none, after)) : after = store := by
  unfold pollTasksForAgentPass at passed
  split at passed
  · cases passed
    rfl
  · dsimp only at passed
    split at passed
    · cases passed
    · split at passed <;> cases passed

theorem updateTaskStatusPass_false {taskId : Int} {update : TaskStatusUpdate}
    (passed : deployment.updateTaskStatusPass taskId update attempt store = (.ok false, after)) :
    after = store := by
  unfold updateTaskStatusPass at passed
  split at passed
  · cases passed
  · split at passed <;> cases passed
    rfl

theorem updateTaskStatusPass_true {taskId : Int} {update : TaskStatusUpdate}
    (passed : deployment.updateTaskStatusPass taskId update attempt store = (.ok true, after)) :
    OnlyTargetChanges taskId update.state store after := by
  unfold updateTaskStatusPass at passed
  split at passed
  · cases passed
  · rename_i times reported
    split at passed
    · cases passed
    · rename_i row found
      cases passed
      by_cases isOver : update.state.terminal = true
      · simp only [isOver, if_true]
        constructor
        · rfl
        · intro other different
          simp [closeTask, different]
        · exact forall₂_closeTask ..
        · rfl
        · exact ⟨deployment.reportedRow attempt.now update times row,
            by simp [closeTask, found], rfl⟩
      · simp only [isOver, Bool.false_eq_true, if_false]
        constructor
        · rfl
        · intro other different
          simp [different]
        · exact List.forall₂_same.mpr fun _ _ => .inl rfl
        · rfl
        · exact ⟨deployment.reportedRow attempt.now update times row, by simp [found], rfl⟩

/-- A cancel writes exactly when the task is there and not over. -/
theorem cancelTaskPass_cases (taskId : Int) (attempt : Attempt) (store : Store) :
    (∃ row, store.task taskId = some row ∧ row.state.terminal = false ∧
      ∃ after, cancelTaskPass taskId attempt store = (.ok .ok, after) ∧
        OnlyTargetChanges taskId .canceled store after) ∨
      ((∀ row, store.task taskId = some row → row.state.terminal = true) ∧
        ∃ result, (result = .notFound ∨ result = .invalidState) ∧
          cancelTaskPass taskId attempt store = (.ok result, store)) := by
  unfold cancelTaskPass
  cases found : store.task taskId with
  | none =>
      refine .inr ⟨?_, .notFound, .inl rfl, rfl⟩
      rintro row ⟨⟩
  | some row =>
      by_cases isOver : row.state.terminal = true
      · refine .inr ⟨?_, .invalidState, .inr rfl, by simp [isOver]⟩
        rintro _ ⟨⟩
        exact isOver
      · refine .inl ⟨row, rfl, by simpa using isOver, _, by simp [isOver]; rfl, ?_⟩
        constructor
        · rfl
        · intro other different
          simp [closeTask, different]
        · exact forall₂_closeTask ..
        · rfl
        · exact ⟨canceledRow attempt.now row, by simp [closeTask, found], rfl⟩

end Passes

end Deployment

open Deployment

section Handlers

variable {deployment : Deployment} {attempts : List Attempt}
  (healthy : deployment.Healthy attempts) (store : Store)

include healthy

theorem handleAgentHeartbeat_rejected (agentId : String) (body : Body)
    (rejected : (handleAgentHeartbeat deployment.broker attempts agentId body store).1.status ≠
      200) :
    (handleAgentHeartbeat deployment.broker attempts agentId body store).2 = store := by
  unfold handleAgentHeartbeat at rejected ⊢
  cases parsed : parseBody (Api.parseAgentHeartbeat agentId) body with
  | error response => rfl
  | ok heartbeat =>
      simp only [parsed] at rejected
      rcases (deployment.updateHeartbeatLoop heartbeat).healthy_cases healthy store
        fun _ _ _ failed => updateHeartbeatPass_error failed with
        ended | ⟨error, ended⟩ | ⟨attempt, _, _ | _, after, passed, ended⟩
      · simp only [ended]
      · simp only [ended]
      · simp only [ended]
        exact updateHeartbeatPass_false passed
      · simp only [ended] at rejected
        exact absurd rfl rejected

theorem handlePollTasks_rejected (agentId : String) (body : Body)
    (rejected : (handlePollTasks deployment.broker attempts agentId body store).1.status ≠ 200) :
    (handlePollTasks deployment.broker attempts agentId body store).2 = store := by
  unfold handlePollTasks at rejected ⊢
  cases parsed : parseBody parseFreeSlots body with
  | error response => rfl
  | ok freeSlots =>
      simp only [parsed] at rejected
      rcases (deployment.pollTasksForAgentLoop agentId freeSlots).healthy_cases healthy store
        fun _ _ _ failed => deployment.pollTasksForAgentPass_error failed with
        ended | ⟨error, ended⟩ | ⟨attempt, _, _ | dispatches, after, passed, ended⟩
      · simp only [ended]
      · simp only [ended]
      · simp only [ended]
        exact deployment.pollTasksForAgentPass_none passed
      · simp only [ended] at rejected
        exact absurd rfl rejected

theorem writeStatusUpdate_cases (taskId : Int) (update : TaskStatusUpdate) :
    ((writeStatusUpdate deployment.broker attempts taskId update store).1.status ≠ 200 ∧
        (writeStatusUpdate deployment.broker attempts taskId update store).2 = store) ∨
      ((writeStatusUpdate deployment.broker attempts taskId update store).1.status = 200 ∧
        OnlyTargetChanges taskId update.state store
          (writeStatusUpdate deployment.broker attempts taskId update store).2) := by
  unfold writeStatusUpdate
  rcases (deployment.updateTaskStatusLoop taskId update).healthy_cases healthy store
    fun _ _ _ failed => deployment.updateTaskStatusPass_error failed with
    ended | ⟨error, ended⟩ | ⟨attempt, _, _ | _, after, passed, ended⟩
  · simp only [ended]
    exact .inl ⟨by simp [taskNotFoundResponse, errorResponse], trivial⟩
  · simp only [ended]
    exact .inl ⟨by simp [dbErrorResponse, errorResponse], trivial⟩
  · simp only [ended]
    refine .inl ⟨by simp [taskNotFoundResponse, errorResponse], ?_⟩
    exact deployment.updateTaskStatusPass_false passed
  · simp only [ended]
    exact .inr ⟨rfl, deployment.updateTaskStatusPass_true passed⟩

/-- The first half of a status report passes on what it parsed or answers with an error. -/
theorem checkStatusUpdate_rejected {taskIdRaw : String} {body : Body} {response : Response}
    {after : Store}
    (failed : checkStatusUpdate deployment.broker attempts taskIdRaw body store =
      (.error response, after)) : response.status ≠ 200 := by
  rw [checkStatusUpdate_eq healthy] at failed
  obtain ⟨answered, -⟩ := Prod.mk.inj failed
  split at answered
  · cases answered
    simp [invalidTaskIdResponse, errorResponse]
  · split at answered
    · rename_i other parsed
      cases answered
      simp [parseBody_error parsed]
    · split at answered
      · cases answered
        simp [taskNotFoundResponse, errorResponse]
      · split at answered <;> cases answered
        simp [errorResponse]

theorem handleUpdateTaskStatus_cases {writeAttempts : List Attempt}
    (healthyWrite : deployment.Healthy writeAttempts) (taskIdRaw : String) (body : Body) :
    let answer := handleUpdateTaskStatus deployment.broker attempts writeAttempts taskIdRaw body
      store
    (answer.1.status ≠ 200 ∧ answer.2 = store) ∨
      (answer.1.status = 200 ∧ ∃ taskId update, Api.parseTaskId taskIdRaw = some taskId ∧
        parseBody Api.parseTaskStatusUpdate body = .ok update ∧
        OnlyTargetChanges taskId update.state store answer.2) := by
  have same := checkStatusUpdate_store deployment attempts store taskIdRaw body
  unfold handleUpdateTaskStatus
  rcases checked : checkStatusUpdate deployment.broker attempts taskIdRaw body store with
    ⟨response | ⟨taskId, update⟩, after⟩
  · rw [checked] at same
    exact .inl ⟨checkStatusUpdate_rejected healthy store checked, same⟩
  · obtain ⟨rfl, parsedId, parsed, _⟩ := checkStatusUpdate_ok checked
    rcases writeStatusUpdate_cases healthyWrite after taskId update with
      rejected | ⟨accepted, changes⟩
    · exact .inl rejected
    · exact .inr ⟨accepted, taskId, update, parsedId, parsed, changes⟩

theorem handleCancelTask_cases (taskIdRaw : String) :
    let answer := handleCancelTask deployment.broker attempts taskIdRaw store
    (answer.1.status ≠ 200 ∧ answer.2 = store ∧
        ∀ taskId row, Api.parseTaskId taskIdRaw = some taskId → store.task taskId = some row →
          row.state.terminal = true) ∨
      (answer.1.status = 200 ∧ ∃ taskId row, Api.parseTaskId taskIdRaw = some taskId ∧
        store.task taskId = some row ∧ row.state.terminal = false ∧
        OnlyTargetChanges taskId .canceled store answer.2) := by
  unfold handleCancelTask
  cases parsedId : Api.parseTaskId taskIdRaw with
  | none => exact .inl ⟨by simp [invalidTaskIdResponse, errorResponse], rfl, by rintro _ _ ⟨⟩⟩
  | some taskId =>
      have returns : ∀ attempt, ∃ result after,
          cancelTaskPass taskId attempt store = (.ok result, after) := by
        intro attempt
        rcases cancelTaskPass_cases taskId attempt store with
          ⟨_, _, _, after, passed, _⟩ | ⟨_, result, _, passed⟩
        · exact ⟨_, after, passed⟩
        · exact ⟨result, store, passed⟩
      obtain ⟨attempt, _, ended⟩ := (deployment.cancelTaskLoop taskId).eq_pass healthy store returns
      rcases cancelTaskPass_cases taskId attempt store with
        ⟨row, found, live, after, passed, changes⟩ | ⟨isOver, result, isResult, passed⟩
      · simp only [ended, passed]
        exact .inr ⟨rfl, taskId, row, rfl, found, live, changes⟩
      · have rejects : ∀ other row, some taskId = some other → store.task other = some row →
            row.state.terminal = true := by
          rintro _ row ⟨⟩ found
          exact isOver row found
        rcases isResult with rfl | rfl
        · simp only [ended, passed]
          exact .inl ⟨by simp [taskNotFoundResponse, errorResponse], trivial, rejects⟩
        · simp only [ended, passed]
          exact .inl ⟨by simp [errorResponse], trivial, rejects⟩

end Handlers

/-- A request that the broker may turn down: a heartbeat, a poll, a report or a cancel. -/
def Request.Guarded : Request → Prop
  | .agentHeartbeat _ _ => True
  | .pollTasks _ _ => True
  | .updateTaskStatus _ _ => True
  | .cancelTask _ => True
  | _ => False

theorem live_iff_queued_or_running (state : TaskState) :
    state.terminal = false ↔ state = .queued ∨ state = .running := by
  cases state <;> simp [TaskState.terminal]

theorem requests_change_only_their_target (deployment : Deployment) (config : MasterConfig)
    (schedule : Schedule) (healthy : deployment.Healthy schedule.first)
    (healthyWrite : deployment.Healthy schedule.second) (store : Store) :
    let answer := fun request => ControlService.handle config deployment.broker schedule request
      store
    (∀ request, request.Guarded → (answer request).1.status ≠ 200 → (answer request).2 = store) ∧
      (∀ taskIdRaw body, (answer (.updateTaskStatus taskIdRaw body)).1.status = 200 →
        ∃ taskId update, Api.parseTaskId taskIdRaw = some taskId ∧
          parseBody Api.parseTaskStatusUpdate body = .ok update ∧
          OnlyTargetChanges taskId update.state store
            (answer (.updateTaskStatus taskIdRaw body)).2) ∧
      (∀ taskIdRaw, (answer (.cancelTask taskIdRaw)).1.status = 200 →
        ∃ taskId, Api.parseTaskId taskIdRaw = some taskId ∧
          OnlyTargetChanges taskId .canceled store (answer (.cancelTask taskIdRaw)).2) ∧
      ∀ taskIdRaw, (answer (.cancelTask taskIdRaw)).1.status = 200 ↔
        ∃ taskId row, Api.parseTaskId taskIdRaw = some taskId ∧ store.task taskId = some row ∧
          (row.state = .queued ∨ row.state = .running) := by
  intro answer
  have reported := handleUpdateTaskStatus_cases healthy store healthyWrite
  have canceled := handleCancelTask_cases healthy store
  refine ⟨?_, ?_, ?_, ?_⟩
  · intro request guarded rejected
    cases request with
    | agentHeartbeat agentId body =>
        exact handleAgentHeartbeat_rejected healthy store agentId body rejected
    | pollTasks agentId body => exact handlePollTasks_rejected healthy store agentId body rejected
    | updateTaskStatus taskIdRaw body =>
        rcases reported taskIdRaw body with ⟨_, same⟩ | ⟨accepted, _⟩
        · exact same
        · exact absurd accepted rejected
    | cancelTask taskIdRaw =>
        rcases canceled taskIdRaw with ⟨_, same, _⟩ | ⟨accepted, _⟩
        · exact same
        · exact absurd accepted rejected
    | _ => exact guarded.elim
  · intro taskIdRaw body accepted
    rcases reported taskIdRaw body with ⟨rejected, _⟩ | ⟨_, changes⟩
    · exact absurd accepted rejected
    · exact changes
  · intro taskIdRaw accepted
    rcases canceled taskIdRaw with ⟨rejected, _⟩ | ⟨_, taskId, _, parsedId, _, _, changes⟩
    · exact absurd accepted rejected
    · exact ⟨taskId, parsedId, changes⟩
  · intro taskIdRaw
    rcases canceled taskIdRaw with ⟨rejected, _, isOver⟩ | ⟨accepted, taskId, row, parsedId,
      found, live, _⟩
    · refine ⟨fun accepted => absurd accepted rejected, ?_⟩
      rintro ⟨taskId, row, parsedId, found, live⟩
      rw [← live_iff_queued_or_running, isOver taskId row parsedId found] at live
      cases live
    · refine ⟨fun _ => ⟨taskId, row, parsedId, found, ?_⟩, fun _ => accepted⟩
      exact (live_iff_queued_or_running row.state).mp live

/-- A cancel of the task that an agent has just polled. -/
theorem requests_change_only_their_target_firstPoll :
    let polled := TransitionRuns.run (masterStep .mongo {}) Store.empty (firstPoll .mongo)
    let attempts := [Deployment.mongo.calmAttempt 5000]
    ∃ taskId, Api.parseTaskId "1" = some taskId ∧
      OnlyTargetChanges taskId .canceled polled
        (ControlService.handle {} Deployment.mongo.broker ⟨attempts, attempts⟩ (.cancelTask "1")
          polled).2 := by
  intro polled attempts
  have healthy := Deployment.mongo.healthy_calmAttempt 5000
  exact (requests_change_only_their_target .mongo {} ⟨attempts, attempts⟩ healthy healthy
    polled).2.2.1 "1" rfl

end DistributedComputing
