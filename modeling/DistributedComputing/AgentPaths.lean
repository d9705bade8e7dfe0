import DistributedComputing.HttpTargets
import Mathlib.Data.Set.Basic

/-!
# Agent ids in paths

A worker writes its agent id into the path of its requests as it is.  The master gets the id that
was configured exactly when none of its bytes means something in a request target.
-/

namespace DistributedComputing

/-- What `ValidateWorkerConfig` checks, in its order. -/
def validateWorkerConfig (masterUrl agentId : Bytes) (cpuCores slots cancelCheckIntervalSec : Int) :
    Except String Unit :=
  if masterUrl = [] then .error "MASTER_URL is required"
  else if agentId = [] then .error "AGENT_ID is required"
  else if cpuCores ≤ 0 then .error "CPU_CORES must be positive"
  else if slots ≤ 0 then .error "SLOTS must be positive"
  else if cancelCheckIntervalSec ≤ 0 then .error "CANCEL_CHECK_SEC must be positive"
  else .ok ()

/-- A worker whose configuration has been accepted. -/
structure ConfiguredWorker where
  masterUrl : Bytes
  agentId : Bytes
  cpuCores : Int
  slots : Int
  cancelCheckIntervalSec : Int
  accepted : validateWorkerConfig masterUrl agentId cpuCores slots cancelCheckIntervalSec = .ok ()

theorem ConfiguredWorker.agentId_ne_nil (worker : ConfiguredWorker) : worker.agentId ≠ [] := by
  intro empty
  have accepted := worker.accepted
  unfold validateWorkerConfig at accepted
  rw [if_pos empty] at accepted
  split at accepted <;> cases accepted

/-! ## Requests about an agent -/

inductive AgentOperation
  | upsert
  | heartbeat
  | pollTasks
  deriving DecidableEq

namespace AgentOperation

def method : AgentOperation → Bytes
  | .upsert => ascii "PUT"
  | .heartbeat => ascii "POST"
  | .pollTasks => ascii "POST"

def suffix : AgentOperation → Bytes
  | .upsert => []
  | .heartbeat => ascii "/heartbeat"
  | .pollTasks => ascii "/tasks:poll"

end AgentOperation

def agentsPath : Bytes :=
  ascii "/api/v1/agents/"

def buildAgentPath (agentId suffix : Bytes) : Bytes :=
  agentsPath ++ agentId ++ suffix

/-- A match of `/api/v1/agents/([^/]+)` with a suffix. -/
def matchAgent (suffix path : Bytes) : Option Bytes :=
  let rest := path.drop agentsPath.length
  let agentId := rest.take (rest.length - suffix.length)
  if path = agentsPath ++ agentId ++ suffix ∧ agentId ≠ [] ∧ byte '/' ∉ agentId then some agentId
  else none

/-- The routes of agents in the order of `RegisterRoutes`. -/
def agentRoutes : List AgentOperation :=
  [.upsert, .heartbeat, .pollTasks]

def routeAgent (request : Httplib.Request) : Option (AgentOperation × Bytes) :=
  agentRoutes.findSome? fun operation =>
    if operation.method = request.method then
      (matchAgent operation.suffix request.path).map fun agentId => (operation, agentId)
    else none

/-- The operation that the master performs for a request of a worker, and the agent for which it
does so. -/
def deliver (operation : AgentOperation) (agentId : Bytes) : Option (AgentOperation × Bytes) :=
  let path := cString (buildAgentPath agentId operation.suffix)
  (Httplib.receive (Httplib.requestLine operation.method (Httplib.pathWithQuery path))).bind
    routeAgent

/-- An agent id that stands for itself in a path. -/
structure IsPathSegment (agentId : Bytes) : Prop where
  noZero : 0 ∉ agentId
  noDelimiter : ∀ delimiter ∈ ascii "/?#", delimiter ∉ agentId
  noTab : agentId.getLast? ≠ some (byte '\t')
  noEscape : Httplib.decodePathComponent agentId = agentId
  short : (Httplib.encode agentId).length ≤ 8166

theorem matchAgent_eq_some_iff {suffix path agentId : Bytes} :
    matchAgent suffix path = some agentId ↔
      path = agentsPath ++ agentId ++ suffix ∧ agentId ≠ [] ∧ byte '/' ∉ agentId := by
  unfold matchAgent
  dsimp only
  constructor
  · intro matched
    split at matched
    · rename_i holds
      obtain rfl := Option.some.inj matched
      exact holds
    · cases matched
  · rintro ⟨rfl, holds⟩
    rw [List.append_assoc, List.drop_left, List.length_append, Nat.add_sub_cancel, List.take_left,
      if_pos ⟨by rw [List.append_assoc], holds⟩]

theorem mem_agentRoutes (operation : AgentOperation) : operation ∈ agentRoutes := by
  cases operation <;> decide

theorem takeWhile_suffix {agentId : Bytes} (noSlash : byte '/' ∉ agentId)
    (operation : AgentOperation) :
    (agentId ++ operation.suffix).takeWhile (fun value => decide (value ≠ byte '/')) = agentId := by
  cases operation with
  | upsert =>
      rw [AgentOperation.suffix, List.append_nil, List.takeWhile_eq_self_iff]
      exact fun value member => decide_eq_true fun same => noSlash (same ▸ member)
  | heartbeat => exact takeWhile_append_cons noSlash _
  | pollTasks => exact takeWhile_append_cons noSlash _

theorem suffix_injective : Function.Injective AgentOperation.suffix := by
  have all : ∀ first ∈ agentRoutes, ∀ second ∈ agentRoutes,
      first.suffix = second.suffix → first = second := by
    decide
  exact fun first second => all first (mem_agentRoutes _) second (mem_agentRoutes _)

/-- The suffix tells the operations apart. -/
theorem eq_of_matchAgent {operation other : AgentOperation} {agentId otherId path : Bytes}
    (first : matchAgent operation.suffix path = some agentId)
    (second : matchAgent other.suffix path = some otherId) :
    operation = other ∧ agentId = otherId := by
  obtain ⟨rfl, _, noSlash⟩ := matchAgent_eq_some_iff.mp first
  obtain ⟨same, _, noSlashToo⟩ := matchAgent_eq_some_iff.mp second
  rw [List.append_assoc, List.append_assoc, List.append_cancel_left_eq] at same
  have sameId : agentId = otherId := by
    rw [← takeWhile_suffix noSlash operation, same, takeWhile_suffix noSlashToo]
  subst sameId
  exact ⟨suffix_injective (List.append_cancel_left same), rfl⟩

theorem routeAgent_eq_some_iff {request : Httplib.Request} {operation : AgentOperation}
    {agentId : Bytes} :
    routeAgent request = some (operation, agentId) ↔
      operation.method = request.method ∧
        matchAgent operation.suffix request.path = some agentId := by
  have sound : ∀ {other : AgentOperation} {otherId : Bytes},
      routeAgent request = some (other, otherId) →
        other.method = request.method ∧ matchAgent other.suffix request.path = some otherId := by
    intro other otherId routed
    obtain ⟨route, _, matched⟩ := List.exists_of_findSome?_eq_some routed
    split at matched
    · rename_i sameMethod
      obtain ⟨found, isFound, same⟩ := Option.map_eq_some_iff.mp matched
      cases same
      exact ⟨sameMethod, isFound⟩
    · cases matched
  refine ⟨sound, ?_⟩
  rintro ⟨sameMethod, matched⟩
  cases routed : routeAgent request with
  | none =>
      have missing := List.findSome?_eq_none_iff.mp routed operation (mem_agentRoutes operation)
      rw [if_pos sameMethod, matched] at missing
      cases missing
  | some found =>
      obtain ⟨rfl, rfl⟩ := eq_of_matchAgent (sound routed).2 matched
      rfl

/-- A request about an agent arrives as what it is exactly when its path survives. -/
theorem deliver_eq_some_iff (operation : AgentOperation) (agentId : Bytes) :
    deliver operation agentId = some (operation, agentId) ↔
      agentId ≠ [] ∧ byte '/' ∉ agentId ∧
        Httplib.Survives (buildAgentPath agentId operation.suffix) := by
  have isMethod : operation.method ∈ Httplib.methods := by
    cases operation <;> decide
  have slash : (buildAgentPath agentId operation.suffix).head? = some (byte '/') := rfl
  rw [deliver, Option.bind_eq_some_iff, ← Httplib.receive_eq_path_iff isMethod slash]
  constructor
  · rintro ⟨⟨method, target, path⟩, received, routed⟩
    obtain ⟨rfl, matched⟩ := routeAgent_eq_some_iff.mp routed
    obtain ⟨rfl, nonempty, noSlash⟩ := matchAgent_eq_some_iff.mp matched
    exact ⟨nonempty, noSlash, target, received⟩
  · rintro ⟨nonempty, noSlash, target, received⟩
    exact ⟨_, received, routeAgent_eq_some_iff.mpr
      ⟨rfl, matchAgent_eq_some_iff.mpr ⟨rfl, nonempty, noSlash⟩⟩⟩

/-- The path of an agent is decoded in its segments. -/
theorem decodePathComponent_buildAgentPath (agentId : Bytes) (operation : AgentOperation) :
    Httplib.decodePathComponent (buildAgentPath agentId operation.suffix) =
      buildAgentPath (Httplib.decodePathComponent agentId) operation.suffix := by
  have outside : Httplib.isEscapeByte (byte '/') = false := by decide
  have front : ∀ rest, Httplib.decodePathComponent (agentsPath ++ rest) =
      agentsPath ++ Httplib.decodePathComponent rest := by
    intro rest
    have written : agentsPath = ascii "/api/v1/agents" ++ [byte '/'] := rfl
    have decoded : Httplib.decodePathComponent (ascii "/api/v1/agents") =
        ascii "/api/v1/agents" := by
      decide
    rw [written, List.append_assoc, List.append_assoc, List.singleton_append,
      List.singleton_append, Httplib.decodePathComponent_append outside, decoded,
      Httplib.decodePathComponent_of_ne (by decide)]
  rw [buildAgentPath, List.append_assoc, front, buildAgentPath, List.append_assoc]
  congr 1
  cases operation with
  | upsert => rw [AgentOperation.suffix, List.append_nil, List.append_nil]
  | heartbeat =>
      have decoded : Httplib.decodePathComponent (AgentOperation.suffix .heartbeat) =
          AgentOperation.suffix .heartbeat := by
        decide
      rw [← decoded]
      exact Httplib.decodePathComponent_append outside _ _
  | pollTasks =>
      have decoded : Httplib.decodePathComponent (AgentOperation.suffix .pollTasks) =
          AgentOperation.suffix .pollTasks := by
        decide
      rw [← decoded]
      exact Httplib.decodePathComponent_append outside _ _

theorem length_encode_buildAgentPath (agentId : Bytes) (operation : AgentOperation) :
    (Httplib.encode (buildAgentPath agentId operation.suffix)).length =
      15 + (Httplib.encode agentId).length + operation.suffix.length := by
  have front : (Httplib.encode agentsPath).length = 15 := by decide
  have back : (Httplib.encode operation.suffix).length = operation.suffix.length := by
    cases operation <;> decide
  unfold Httplib.encode at *
  rw [buildAgentPath, percentEncode_append, percentEncode_append, List.length_append,
    List.length_append, front, back]

/-- All requests of a worker arrive as what they are exactly when its id stands for itself. -/
theorem deliver_all_iff {agentId : Bytes} (nonempty : agentId ≠ []) :
    (∀ operation, deliver operation agentId = some (operation, agentId)) ↔
      IsPathSegment agentId := by
  simp only [deliver_eq_some_iff]
  constructor
  · intro survive
    obtain ⟨_, noSlash, upsert⟩ := survive .upsert
    obtain ⟨_, _, pollTasks⟩ := survive .pollTasks
    have inside : ∀ value ∈ agentId,
        value ∈ buildAgentPath agentId AgentOperation.upsert.suffix := by
      intro value member
      simp [buildAgentPath, member]
    have decoded := upsert.noEscape
    rw [decodePathComponent_buildAgentPath, buildAgentPath, buildAgentPath, AgentOperation.suffix,
      List.append_nil, List.append_nil] at decoded
    have last := upsert.noTab
    rw [buildAgentPath, AgentOperation.suffix, List.append_nil,
      List.getLast?_append_of_ne_nil _ nonempty] at last
    have short := pollTasks.short
    rw [length_encode_buildAgentPath] at short
    have suffix : AgentOperation.pollTasks.suffix.length = 11 := by decide
    refine ⟨fun member => upsert.noZero (inside _ member), ?_, last,
      List.append_cancel_left decoded, ?_⟩
    · simp only [ascii, String.reduceToList, List.map_cons, List.map_nil, List.forall_mem_cons]
      exact ⟨noSlash, fun member => upsert.noQuery (inside _ member),
        fun member => upsert.noFragment (inside _ member), fun _ impossible => nomatch impossible⟩
    · rw [suffix, Httplib.requestUriMaxLength] at short
      omega
  · intro segment operation
    have fixed : ∀ operation ∈ agentRoutes, ∀ delimiter ∈ [0, byte '?', byte '#'],
        delimiter ∉ agentsPath ∧ delimiter ∉ operation.suffix := by
      decide +kernel
    have known := fixed operation (mem_agentRoutes operation)
    have absent : ∀ delimiter ∈ [0, byte '?', byte '#'], delimiter ∉ agentId →
        delimiter ∉ buildAgentPath agentId operation.suffix := by
      intro delimiter isDelimiter outside
      obtain ⟨inPrefix, inSuffix⟩ := known delimiter isDelimiter
      simp [buildAgentPath, inPrefix, outside, inSuffix]
    have slash := segment.noDelimiter (byte '/') (by decide)
    have question := segment.noDelimiter (byte '?') (by decide)
    have hash := segment.noDelimiter (byte '#') (by decide)
    refine ⟨nonempty, slash, absent _ (by simp) segment.noZero, absent _ (by simp) question,
      absent _ (by simp) hash, ?_, ?_, ?_⟩
    · cases operation with
      | upsert =>
          rw [buildAgentPath, AgentOperation.suffix, List.append_nil,
            List.getLast?_append_of_ne_nil _ nonempty]
          exact segment.noTab
      | heartbeat =>
          rw [buildAgentPath, List.getLast?_append_of_ne_nil _ (by decide)]
          decide
      | pollTasks =>
          rw [buildAgentPath, List.getLast?_append_of_ne_nil _ (by decide)]
          decide
    · rw [decodePathComponent_buildAgentPath, segment.noEscape]
    · have suffix : operation.suffix.length ≤ 11 := by
        cases operation <;> decide
      have short := segment.short
      rw [length_encode_buildAgentPath, Httplib.requestUriMaxLength]
      omega

/-- The master knows every worker by its own id, and no two workers by the same. -/
structure IdentitiesSurvive (workers : Set ConfiguredWorker) : Prop where
  delivered : ∀ worker ∈ workers, ∀ operation,
    deliver operation worker.agentId = some (operation, worker.agentId)
  distinct : ∀ first ∈ workers, ∀ second ∈ workers, ∀ agentId,
    deliver .upsert first.agentId = some (.upsert, agentId) →
      deliver .upsert second.agentId = some (.upsert, agentId) → first.agentId = second.agentId

theorem identities_survive_iff (workers : Set ConfiguredWorker) :
    IdentitiesSurvive workers ↔ ∀ worker ∈ workers, IsPathSegment worker.agentId := by
  constructor
  · intro survive worker member
    exact (deliver_all_iff worker.agentId_ne_nil).mp (survive.delivered worker member)
  · intro segments
    have delivered : ∀ worker ∈ workers, ∀ operation,
        deliver operation worker.agentId = some (operation, worker.agentId) :=
      fun worker member => (deliver_all_iff worker.agentId_ne_nil).mpr (segments worker member)
    refine ⟨delivered, fun first isFirst second isSecond agentId known knownToo => ?_⟩
    rw [delivered first isFirst, Option.some_inj] at known
    rw [delivered second isSecond, Option.some_inj] at knownToo
    exact congrArg Prod.snd (known.trans knownToo.symm)

/-- A worker with default settings. -/
def ConfiguredWorker.named (agentId : Bytes) (nonempty : agentId ≠ []) : ConfiguredWorker where
  masterUrl := ascii "http://localhost:8080"
  agentId := agentId
  cpuCores := 1
  slots := 1
  cancelCheckIntervalSec := 1
  accepted := by
    rw [validateWorkerConfig, if_neg (by decide), if_neg nonempty]
    rfl

/-- Two workers are registered as the same agent. -/
theorem identities_collide : ¬ ∀ workers : Set ConfiguredWorker, IdentitiesSurvive workers := by
  intro survive
  have same := (survive Set.univ).distinct
    (.named (ascii "rack1?east") (by decide)) trivial
    (.named (ascii "rack1?west") (by decide)) trivial (ascii "rack1")
    (by decide) (by decide)
  exact absurd same (by decide)

end DistributedComputing
