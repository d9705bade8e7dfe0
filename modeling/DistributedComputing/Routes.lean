import DistributedComputing.AgentPaths
import DistributedComputing.QueryStrings

/-!
# Routes

The patterns that the service registers, and the requests that the worker and the command line
send.  No request matches two patterns, so their order means nothing, and every request arrives
at the handler that it is for with its id and its parameters.
-/

namespace DistributedComputing

open Httplib

/-! ## Patterns -/

/-- A pattern without a group, or with `([^/]+)` between a beginning and an end. -/
structure Route where
  method : Bytes
  front : Bytes
  suffix : Option Bytes
  deriving DecidableEq

namespace Route

/-- The path that matches with an id for the group. -/
def path (route : Route) (id : Bytes) : Bytes :=
  route.front ++ route.suffix.elim [] fun suffix => id ++ suffix

/-- What the group takes. -/
def Takes (route : Route) (id : Bytes) : Prop :=
  if route.suffix.isSome then id ≠ [] ∧ byte '/' ∉ id else id = []

instance (route : Route) (id : Bytes) : Decidable (route.Takes id) := by
  unfold Takes
  infer_instance

/-- What would be the group of a match. -/
def group (route : Route) (path : Bytes) : Bytes :=
  let rest := path.drop route.front.length
  route.suffix.elim [] fun suffix => rest.take (rest.length - suffix.length)

/-- `std::regex_match`. -/
def regexMatch (route : Route) (path : Bytes) : Option Bytes :=
  if path = route.path (route.group path) ∧ route.Takes (route.group path) then
    some (route.group path)
  else none

end Route

/-- The handlers of the service. -/
inductive Endpoint
  | upsertAgent
  | agentHeartbeat
  | pollTasks
  | createTask
  | getTask
  | listTasks
  | updateTaskStatus
  | cancelTask
  | getAgent
  | listAgents
  | getLogs
  | tailLogs
  | uploadLogs
  deriving DecidableEq

def tasksPath : Bytes :=
  ascii "/api/v1/tasks/"

namespace Endpoint

def route : Endpoint → Route
  | .upsertAgent => ⟨ascii "PUT", agentsPath, some []⟩
  | .agentHeartbeat => ⟨ascii "POST", agentsPath, some (ascii "/heartbeat")⟩
  | .pollTasks => ⟨ascii "POST", agentsPath, some (ascii "/tasks:poll")⟩
  | .createTask => ⟨ascii "POST", ascii "/api/v1/tasks", none⟩
  | .getTask => ⟨ascii "GET", tasksPath, some []⟩
  | .listTasks => ⟨ascii "GET", ascii "/api/v1/tasks", none⟩
  | .updateTaskStatus => ⟨ascii "POST", tasksPath, some (ascii "/status")⟩
  | .cancelTask => ⟨ascii "POST", tasksPath, some (ascii "/cancel")⟩
  | .getAgent => ⟨ascii "GET", agentsPath, some []⟩
  | .listAgents => ⟨ascii "GET", ascii "/api/v1/agents", none⟩
  | .getLogs => ⟨ascii "GET", tasksPath, some (ascii "/logs")⟩
  | .tailLogs => ⟨ascii "GET", tasksPath, some (ascii "/logs:tail")⟩
  | .uploadLogs => ⟨ascii "POST", tasksPath, some (ascii "/logs:upload")⟩

end Endpoint

/-- The handlers in the order of `RegisterRoutes`. -/
def registeredRoutes : List Endpoint :=
  [.upsertAgent, .agentHeartbeat, .pollTasks, .createTask, .getTask, .listTasks,
    .updateTaskStatus, .cancelTask, .getAgent, .listAgents, .getLogs, .tailLogs, .uploadLogs]

/-- The handlers of GET answer HEAD as well. -/
def handledMethod (method : Bytes) : Bytes :=
  if method = ascii "HEAD" then ascii "GET" else method

/-- `Server::routing`: the first handler of the method whose pattern matches the path. -/
def routing (routes : List Endpoint) (method path : Bytes) : Option (Endpoint × Bytes) :=
  routes.findSome? fun endpoint =>
    if endpoint.route.method = handledMethod method then
      (endpoint.route.regexMatch path).map fun id => (endpoint, id)
    else none

/-! ## Matches -/

namespace Route

theorem takes_of_none {route : Route} (noSuffix : route.suffix = none) {id : Bytes} :
    route.Takes id ↔ id = [] := by
  unfold Takes
  rw [noSuffix]
  exact Iff.rfl

theorem takes_of_some {route : Route} {suffix : Bytes} (isSuffix : route.suffix = some suffix)
    {id : Bytes} : route.Takes id ↔ id ≠ [] ∧ byte '/' ∉ id := by
  unfold Takes
  rw [isSuffix]
  exact Iff.rfl

theorem regexMatch_eq_some_iff {route : Route} {path id : Bytes} :
    route.regexMatch path = some id ↔ path = route.path id ∧ route.Takes id := by
  unfold regexMatch
  constructor
  · intro matched
    split at matched
    · rename_i holds
      obtain rfl := Option.some.inj matched
      exact holds
    · cases matched
  · rintro ⟨rfl, takes⟩
    have same : route.group (route.path id) = id := by
      unfold group Route.path
      cases isSuffix : route.suffix with
      | none => exact ((takes_of_none isSuffix).mp takes).symm
      | some suffix =>
          rw [Option.elim_some, Option.elim_some, List.drop_left, List.length_append,
            Nat.add_sub_cancel, List.take_left]
    rw [same, if_pos ⟨rfl, takes⟩]

end Route

theorem mem_registeredRoutes (endpoint : Endpoint) : endpoint ∈ registeredRoutes := by
  cases endpoint <;> decide

theorem route_injective : Function.Injective Endpoint.route := by
  have all : ∀ first ∈ registeredRoutes, ∀ second ∈ registeredRoutes,
      first.route = second.route → first = second := by
    decide
  exact fun first second => all first (mem_registeredRoutes _) second (mem_registeredRoutes _)

/-- The end of a pattern begins with a slash, so that the group is what comes before the first. -/
theorem takeWhile_of_route {endpoint : Endpoint} {suffix id : Bytes}
    (isSuffix : endpoint.route.suffix = some suffix) (noSlash : byte '/' ∉ id) :
    (id ++ suffix).takeWhile (fun value => decide (value ≠ byte '/')) = id := by
  have ends : ∀ known ∈ registeredRoutes, ∀ ending ∈ known.route.suffix,
      ending = [] ∨ ending = byte '/' :: ending.tail := by
    decide
  rcases ends endpoint (mem_registeredRoutes _) suffix isSuffix with empty | slash
  · rw [empty, List.append_nil, List.takeWhile_eq_self_iff]
    exact fun value member => decide_eq_true fun same => noSlash (same ▸ member)
  · rw [slash]
    exact takeWhile_append_cons noSlash _

/-- The ninth byte of a pattern tells what its ids are of. -/
theorem front_eq_of_path {first second : Endpoint} {suffix ending id other : Bytes}
    (isSuffix : first.route.suffix = some suffix) (isEnding : second.route.suffix = some ending)
    (same : first.route.path id = second.route.path other) :
    first.route.front = second.route.front := by
  have long : ∀ known ∈ registeredRoutes, known.route.suffix.isSome →
      8 < known.route.front.length := by
    decide
  have told : ∀ known ∈ registeredRoutes, ∀ alike ∈ registeredRoutes,
      known.route.suffix.isSome → alike.route.suffix.isSome →
        known.route.front[8]? = alike.route.front[8]? →
          known.route.front = alike.route.front := by
    decide
  have firstSome : first.route.suffix.isSome := by rw [isSuffix, Option.isSome_some]
  have secondSome : second.route.suffix.isSome := by rw [isEnding, Option.isSome_some]
  refine told first (mem_registeredRoutes _) second (mem_registeredRoutes _) firstSome secondSome ?_
  have ninth := congrArg (fun path : Bytes => path[8]?) same
  dsimp only [Route.path] at ninth
  rwa [List.getElem?_append_left (long first (mem_registeredRoutes _) firstSome),
    List.getElem?_append_left (long second (mem_registeredRoutes _) secondSome)] at ninth

/-- A pattern without a group is too short to be matched with a group. -/
theorem path_ne_of_suffix {first second : Endpoint} {suffix id other : Bytes}
    (noSuffix : first.route.suffix = none) (isSuffix : second.route.suffix = some suffix)
    (filled : other ≠ []) : first.route.path id ≠ second.route.path other := by
  have short : ∀ known ∈ registeredRoutes, known.route.suffix = none →
      known.route.front.length ≤ 14 := by
    decide
  have long : ∀ known ∈ registeredRoutes, known.route.suffix.isSome →
      14 ≤ known.route.front.length := by
    decide
  intro same
  have lengths := congrArg List.length same
  have bound := short first (mem_registeredRoutes _) noSuffix
  have other_bound := long second (mem_registeredRoutes _) (by rw [isSuffix, Option.isSome_some])
  have positive := List.length_pos_iff.mpr filled
  rw [Route.path, Route.path, noSuffix, isSuffix, Option.elim_none, Option.elim_some] at lengths
  simp only [List.length_append, List.length_nil] at lengths
  omega

/-- No path matches two patterns of one method. -/
theorem eq_of_path {first second : Endpoint} {id other : Bytes}
    (sameMethod : first.route.method = second.route.method) (firstTakes : first.route.Takes id)
    (secondTakes : second.route.Takes other)
    (same : first.route.path id = second.route.path other) : first = second ∧ id = other := by
  have equal : ∀ {known alike : Route}, known.method = alike.method → known.front = alike.front →
      known.suffix = alike.suffix → known = alike := by
    rintro ⟨_, _, _⟩ ⟨_, _, _⟩ rfl rfl rfl
    rfl
  cases isSuffix : first.route.suffix with
  | none =>
      rw [Route.takes_of_none isSuffix] at firstTakes
      cases isEnding : second.route.suffix with
      | none =>
          rw [Route.takes_of_none isEnding] at secondTakes
          rw [Route.path, Route.path, isSuffix, isEnding, Option.elim_none, Option.elim_none,
            List.append_nil, List.append_nil] at same
          exact ⟨route_injective (equal sameMethod same (isSuffix.trans isEnding.symm)),
            firstTakes.trans secondTakes.symm⟩
      | some ending =>
          rw [Route.takes_of_some isEnding] at secondTakes
          exact absurd same (path_ne_of_suffix isSuffix isEnding secondTakes.1)
  | some suffix =>
      rw [Route.takes_of_some isSuffix] at firstTakes
      cases isEnding : second.route.suffix with
      | none => exact absurd same.symm (path_ne_of_suffix isEnding isSuffix firstTakes.1)
      | some ending =>
          rw [Route.takes_of_some isEnding] at secondTakes
          have sameFront := front_eq_of_path isSuffix isEnding same
          rw [Route.path, Route.path, isSuffix, isEnding, sameFront, Option.elim_some,
            Option.elim_some] at same
          have sameRest := List.append_cancel_left same
          have sameId : id = other := by
            rw [← takeWhile_of_route isSuffix firstTakes.2, sameRest,
              takeWhile_of_route isEnding secondTakes.2]
          rw [sameId] at sameRest
          have sameSuffix := List.append_cancel_left sameRest
          exact ⟨route_injective (equal sameMethod sameFront
            (isSuffix.trans (sameSuffix ▸ isEnding.symm))), sameId⟩

/-- A handler is called for the requests that match its pattern, in any order of the patterns. -/
theorem routing_eq_some_iff {routes : List Endpoint} (known : ∀ endpoint, endpoint ∈ routes)
    {method path id : Bytes} {endpoint : Endpoint} :
    routing routes method path = some (endpoint, id) ↔
      endpoint.route.method = handledMethod method ∧ path = endpoint.route.path id ∧
        endpoint.route.Takes id := by
  have sound : ∀ {other : Endpoint} {otherId : Bytes},
      routing routes method path = some (other, otherId) →
        other.route.method = handledMethod method ∧ path = other.route.path otherId ∧
          other.route.Takes otherId := by
    intro other otherId routed
    obtain ⟨candidate, _, matched⟩ := List.exists_of_findSome?_eq_some routed
    split at matched
    · rename_i sameMethod
      obtain ⟨found, isFound, same⟩ := Option.map_eq_some_iff.mp matched
      cases same
      exact ⟨sameMethod, Route.regexMatch_eq_some_iff.mp isFound⟩
    · cases matched
  refine ⟨sound, ?_⟩
  rintro ⟨sameMethod, isPath, takes⟩
  cases routed : routing routes method path with
  | none =>
      have missing := List.findSome?_eq_none_iff.mp routed endpoint (known endpoint)
      rw [if_pos sameMethod, Route.regexMatch_eq_some_iff.mpr ⟨isPath, takes⟩] at missing
      cases missing
  | some found =>
      obtain ⟨foundMethod, foundPath, foundTakes⟩ := sound routed
      obtain ⟨rfl, rfl⟩ := eq_of_path (sameMethod.trans foundMethod.symm) takes foundTakes
        (isPath.symm.trans foundPath)
      rfl

end DistributedComputing
