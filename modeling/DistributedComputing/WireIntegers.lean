import DistributedComputing.AgentClient
import DistributedComputing.BackendMirror

/-!
# Integers on the wire

The mappers accept every JSON integer and convert it to `int`, which keeps what is left
of it modulo `2 ^ 32`.
-/

namespace DistributedComputing

/-- A place where the master reads integers from a body. -/
inductive IntegerReader
  | parseAgentInput (agentId : String)
  | parseTaskCreate
  | parseTaskStatusUpdate
  | handlePollTasks

namespace IntegerReader

abbrev Record : IntegerReader → Type
  | parseAgentInput _ => AgentInput
  | parseTaskCreate => TaskInput
  | parseTaskStatusUpdate => TaskStatusUpdate
  | handlePollTasks => Int

def parse : (reader : IntegerReader) → Json → Except String reader.Record
  | parseAgentInput agentId => Api.parseAgentInput agentId
  | parseTaskCreate => Api.parseTaskCreate
  | parseTaskStatusUpdate => Api.parseTaskStatusUpdate
  | handlePollTasks => ControlService.parseFreeSlots

/-- The integers of the body that are used. -/
def sent : IntegerReader → Json → List (Option Int)
  | parseAgentInput _, body =>
      let resources := (body.objectMember "resources").getD (.object [])
      [resources.integerMember "cpu_cores", resources.integerMember "ram_mb",
        resources.integerMember "slots"]
  | parseTaskCreate, body => [body.integerMember "timeout_sec"]
  | parseTaskStatusUpdate, body => [body.integerMember "exit_code"]
  | handlePollTasks, body => [body.integerMember "free_slots"]

/-- The fields of the record that they enter. -/
def stored : (reader : IntegerReader) → reader.Record → List (Option Int)
  | parseAgentInput _, agent => [some agent.cpuCores, some agent.ramMb, some agent.slots]
  | parseTaskCreate, task => [task.timeoutSec]
  | parseTaskStatusUpdate, update => [update.exitCode]
  | handlePollTasks, freeSlots => [some freeSlots]

/-- The body has the members that the reader insists on, with the right types. -/
def Shaped : IntegerReader → Json → Prop
  | parseAgentInput _, body =>
      body.stringMember "os" ≠ none ∧ body.stringMember "version" ≠ none ∧
        ∃ resources, body.objectMember "resources" = some resources ∧
          ∀ name ∈ ["cpu_cores", "ram_mb", "slots"], resources.integerMember name ≠ none
  | parseTaskCreate, body => body.stringMember "command" ≠ none
  | parseTaskStatusUpdate, body => ∃ state, body.stringMember "state" = some state ∧
      taskStateFromApi state ≠ none
  | handlePollTasks, body => body.integerMember "free_slots" ≠ none

/-- A body that is accepted holds integers within 32 bits only, and these are stored. -/
def StoredAsSent (reader : IntegerReader) (body : Json) : Prop :=
  ∀ record, reader.parse body = .ok record →
    reader.stored record = reader.sent body ∧
      ∀ value, some value ∈ reader.sent body → FitsInt value

theorem toInt32_eq_iff (value : Int) : toInt32 value = value ↔ FitsInt value := by
  constructor
  · intro same
    have bounds := toInt32_bounds value
    rwa [same] at bounds
  · rintro ⟨low, high⟩
    exact toInt32_of_bounds low high

/-- Whatever its size, an integer is stored as what is left of it. -/
theorem stored_eq {reader : IntegerReader} {body : Json} {record : reader.Record}
    (accepted : reader.parse body = .ok record) :
    reader.stored record = (reader.sent body).map (Option.map toInt32) := by
  cases reader with
  | parseAgentInput agentId =>
      unfold parse Api.parseAgentInput at accepted
      dsimp only at accepted
      split at accepted
      · rename_i os version resources _ _ isResources
        split at accepted
        · rename_i cpuCores ramMb slots isCpuCores isRamMb isSlots
          cases accepted
          simp [stored, sent, isResources, isCpuCores, isRamMb, isSlots]
        · cases accepted
      · cases accepted
  | parseTaskCreate =>
      unfold parse Api.parseTaskCreate at accepted
      dsimp only at accepted
      split at accepted
      · cases accepted
      · cases accepted
        rfl
  | parseTaskStatusUpdate =>
      unfold parse Api.parseTaskStatusUpdate at accepted
      dsimp only at accepted
      split at accepted
      · cases accepted
      · split at accepted
        · cases accepted
        · cases accepted
          rfl
  | handlePollTasks =>
      unfold parse ControlService.parseFreeSlots at accepted
      dsimp only at accepted
      split at accepted
      · rename_i freeSlots isFreeSlots
        cases accepted
        simp [stored, sent, isFreeSlots]
      · cases accepted

/-- Every body of the right shape is accepted, whatever its integers are. -/
theorem accepted_iff (reader : IntegerReader) (body : Json) :
    (∃ record, reader.parse body = .ok record) ↔ reader.Shaped body := by
  cases reader with
  | parseAgentInput agentId =>
      simp only [parse, Shaped, Api.parseAgentInput]
      cases body.stringMember "os" with
      | none => simp
      | some os =>
          cases body.stringMember "version" with
          | none => simp
          | some version =>
              cases body.objectMember "resources" with
              | none => simp
              | some resources =>
                  cases isCpuCores : resources.integerMember "cpu_cores" <;>
                    cases isRamMb : resources.integerMember "ram_mb" <;>
                    cases isSlots : resources.integerMember "slots" <;>
                    simp [isCpuCores, isRamMb, isSlots]
  | parseTaskCreate =>
      simp only [parse, Shaped, Api.parseTaskCreate]
      cases body.stringMember "command" <;> simp
  | parseTaskStatusUpdate =>
      simp only [parse, Shaped, Api.parseTaskStatusUpdate]
      cases body.stringMember "state" with
      | none => simp
      | some state => cases known : taskStateFromApi state <;> simp [known]
  | handlePollTasks =>
      simp only [parse, Shaped, ControlService.parseFreeSlots]
      cases body.integerMember "free_slots" <;> simp

theorem storedAsSent_iff (reader : IntegerReader) (body : Json) :
    reader.StoredAsSent body ↔
      (reader.Shaped body → ∀ value, some value ∈ reader.sent body → FitsInt value) := by
  rw [← reader.accepted_iff body]
  constructor
  · rintro faithful ⟨record, accepted⟩
    exact (faithful record accepted).2
  · intro small record accepted
    have fits := small ⟨record, accepted⟩
    refine ⟨?_, fits⟩
    have unchanged : (reader.sent body).map (Option.map toInt32) = (reader.sent body).map id := by
      apply List.map_congr_left
      intro held member
      cases held with
      | none => rfl
      | some value => exact congrArg some ((toInt32_eq_iff value).mpr (fits value member))
    rw [stored_eq accepted, unchanged, List.map_id]

end IntegerReader

/-! ## Timeouts at the worker -/

/-- A positive timeout of the body is positive where the worker reads it: zero and less stand
for no timeout there. -/
def KeepsTimeout (body : Json) : Prop :=
  ∀ task, Api.parseTaskCreate body = .ok task →
    ∀ timeoutSec, body.integerMember "timeout_sec" = some timeoutSec → 0 < timeoutSec →
      ∀ dispatch : TaskDispatch, dispatch.timeoutSec = task.timeoutSec →
        ∃ received, AgentClient.parseDispatch (Api.taskDispatchToJson dispatch) =
            some (some received) ∧
          0 < received.timeoutSec.getD 0

theorem toInt32_pos_iff (value : Int) :
    0 < toInt32 value ↔ 0 < value % 2 ^ 32 ∧ value % 2 ^ 32 < 2 ^ 31 := by
  unfold toInt32
  rw [Int.bmod_def]
  split <;> omega

theorem keepsTimeout_iff (body : Json) :
    KeepsTimeout body ↔
      (IntegerReader.parseTaskCreate.Shaped body →
        ∀ timeoutSec, body.integerMember "timeout_sec" = some timeoutSec → 0 < timeoutSec →
          0 < timeoutSec % 2 ^ 32 ∧ timeoutSec % 2 ^ 32 < 2 ^ 31) := by
  have readBack : ∀ (task : TaskInput) (dispatch : TaskDispatch) (timeoutSec : Int),
      Api.parseTaskCreate body = .ok task →
        body.integerMember "timeout_sec" = some timeoutSec →
        dispatch.timeoutSec = task.timeoutSec →
          (AgentClient.received dispatch).timeoutSec = some (toInt32 timeoutSec) := by
    intro task dispatch timeoutSec accepted sent same
    have stored : [task.timeoutSec] = [body.integerMember "timeout_sec"].map (Option.map toInt32) :=
      IntegerReader.stored_eq
        (show IntegerReader.parseTaskCreate.parse body = .ok task from accepted)
    simp only [sent, List.map_cons, List.map_nil, Option.map_some, List.cons.injEq, and_true]
      at stored
    simp [AgentClient.received, same, stored]
  rw [← IntegerReader.accepted_iff]
  simp only [← toInt32_pos_iff]
  constructor
  · rintro keeps ⟨task, accepted⟩ timeoutSec sent positive
    let dispatch : TaskDispatch :=
      { command := task.command, args := task.args, env := task.env,
        timeoutSec := task.timeoutSec, constraints := task.constraints }
    obtain ⟨received, decoded, stays⟩ := keeps task accepted timeoutSec sent positive dispatch rfl
    rw [AgentClient.parseDispatch_taskDispatchToJson] at decoded
    cases decoded
    rwa [readBack task dispatch timeoutSec accepted sent rfl] at stays
  · intro small task accepted timeoutSec sent positive dispatch same
    refine ⟨_, AgentClient.parseDispatch_taskDispatchToJson dispatch, ?_⟩
    rw [readBack task dispatch timeoutSec accepted sent same]
    exact small ⟨task, accepted⟩ timeoutSec sent positive

theorem integers_are_stored_as_sent_iff (body : Json) :
    (∀ reader : IntegerReader, reader.StoredAsSent body ↔
      (reader.Shaped body → ∀ value, some value ∈ reader.sent body → FitsInt value)) ∧
    (KeepsTimeout body ↔
      (IntegerReader.parseTaskCreate.Shaped body →
        ∀ timeoutSec, body.integerMember "timeout_sec" = some timeoutSec → 0 < timeoutSec →
          0 < timeoutSec % 2 ^ 32 ∧ timeoutSec % 2 ^ 32 < 2 ^ 31)) :=
  ⟨fun reader => reader.storedAsSent_iff body, keepsTimeout_iff body⟩

/-- A timeout of `2 ^ 32` seconds is accepted and stands for none. -/
theorem timeout_becomes_none :
    let body := Json.object [("command", .string "true"), ("timeout_sec", .integer 4294967296)]
    ¬ IntegerReader.parseTaskCreate.StoredAsSent body ∧ ¬ KeepsTimeout body := by
  intro body
  have shaped : IntegerReader.parseTaskCreate.Shaped body := by
    simp [IntegerReader.Shaped, body, Json.stringMember, Json.find, Json.asString]
  constructor
  · intro faithful
    have fits := (IntegerReader.storedAsSent_iff _ _).mp faithful shaped 4294967296
      (List.mem_singleton.mpr rfl)
    exact absurd fits.2 (by decide)
  · intro keeps
    have kept := (keepsTimeout_iff body).mp keeps shaped 4294967296 rfl (by decide)
    exact absurd kept.1 (by decide)

end DistributedComputing
