import DistributedComputing.DecimalTexts
import DistributedComputing.LogStoreRefinement
import DistributedComputing.UploadLimits

/-!
# Following a log that grows

A request for the tail of a log asks for the size of the file and reads to its end later, and
the client goes on from the size.  What is appended in between is printed, and printed again
by the next request.
-/

namespace DistributedComputing

open TransitionRuns

/-- The text of a number is read back as that number. -/
theorem stoull_toString {number : Nat} (fits : number < 2 ^ 64) :
    stoull (toString number) = some (UInt64.ofNat number) := by
  obtain ⟨first, rest, text⟩ := exists_decimalText number
  obtain ⟨notMinus, notPlus⟩ := text.not_sign
  unfold stoull
  rw [text.chars, text.dropWhile_isSpace]
  simpa [notMinus, notPlus, text.takeWhile_isDigit, text.foldl_rest] using fits

/-- What `ReadFileInternal` reads of a file that had the given size before. -/
def tailRead (offset : UInt64) (sizeBytes : Nat) (bytes : List UInt8) : List UInt8 :=
  if offset.toNat < sizeBytes then readFrom (streamoff offset.toNat) bytes else []

/-- Of a file that has the size that was found, everything from the offset on. -/
theorem tailRead_length (data : ByteString) (offset : UInt64) :
    tailRead offset data.bytes.length data.bytes = data.bytes.drop offset.toNat := by
  have fits := data.size_lt
  unfold tailRead
  by_cases inside : offset.toNat < data.bytes.length
  · have position : streamoff offset.toNat = offset.toNat := if_pos (by omega)
    rw [if_pos inside, position]
    simp [readFrom]
  · rw [if_neg inside, List.drop_of_length_le (by omega)]

/-- The file with more bytes.  It does not grow beyond the largest size of a file. -/
def ByteString.append (data : ByteString) (bytes : List UInt8) : ByteString :=
  if fits : (data.bytes ++ bytes).length < 2 ^ 63 then ⟨data.bytes ++ bytes, fits⟩ else data

/-- The log, a request for its tail whose size query is done, and the client. -/
structure LogFollow where
  log : ByteString
  found : Option Nat := none
  offset : UInt64 := 0
  printed : List UInt8 := []

/-- The reads of `ReadFileInternal` reach the end of the file at one moment, so that what they
return is read then. -/
inductive FollowAction
  | append (bytes : List UInt8)
  | querySize
  | readRest

namespace LogFollow

/-- The client that follows a log starts at its beginning. -/
def start (log : ByteString) : LogFollow where
  log := log

/-- `from` of the request, as the master parses it. -/
def requestOffset (state : LogFollow) : UInt64 :=
  (stoull (toString state.offset.toNat)).getD 0

/-- The rest of a request whose size query is done: the body is printed, and the next offset
is `X-Log-Size`, whatever the body is. -/
def receive (state : LogFollow) (size : Nat) : LogFollow :=
  let body := tailRead state.requestOffset size state.log.bytes
  { log := state.log
    found := none
    offset := (stoull (toString size)).getD (state.offset + UInt64.ofNat body.length)
    printed := state.printed ++ body }

def step (state : LogFollow) : FollowAction → LogFollow
  | .append bytes => { state with log := state.log.append bytes }
  | .querySize => { state with found := some (state.found.getD state.log.bytes.length) }
  | .readRest => state.found.elim state state.receive

/-- Between the size query and the read of a request that reads, nothing is appended. -/
def NotWhileReading (state : LogFollow) : FollowAction → Prop
  | .append bytes => ∀ size ∈ state.found, state.offset.toNat < size → bytes = []
  | _ => True

/-- What was printed is the log up to the next offset, and a request in progress found the
size that the log has, unless it reads nothing. -/
structure Faithful (state : LogFollow) : Prop where
  printed : state.printed = state.log.bytes.take state.offset.toNat
  offset_le : state.offset.toNat ≤ state.log.bytes.length
  found : ∀ size ∈ state.found, state.offset.toNat ≤ size ∧ size ≤ state.log.bytes.length ∧
    (state.offset.toNat < size → size = state.log.bytes.length)

theorem requestOffset_eq (state : LogFollow) : state.requestOffset = state.offset := by
  rw [requestOffset, stoull_toString state.offset.toNat_lt, Option.getD_some]
  exact UInt64.ofNat_toNat

/-- A request in a tree that nobody changes: the handler answers with the body and the size
that the client goes on with. -/
theorem handleTailLogs_answer {service : HttpService} {root : Location} {logs : LogMap}
    {master : MasterState} (held : service.logStore.Represents root logs master.files)
    {taskId : LogTaskId} {stream : LogStream} {state : LogFollow}
    (isLog : logs taskId stream = some state.log) (now : Time) :
    (service.handleTailLogs now taskId.text.toByteArray (some stream.text.toByteArray)
        (some (toString state.offset.toNat).toByteArray) master).1 =
      .ok
        { status := 200
          content := .plain
            (tailRead state.requestOffset state.log.bytes.length state.log.bytes)
          headers := [("X-Log-Size", toString state.log.bytes.length)] } := by
  have known : ¬ (stream.text ≠ "stdout" ∧ stream.text ≠ "stderr") := by
    cases stream <;> simp [LogStream.text]
  have result : (service.logStore.readFromOffset now (toString taskId.number) stream.text
      ((stoull (toString state.offset.toNat)).getD 0) master.files).1 =
        logs.read taskId stream state.requestOffset.toNat :=
    (held.readInternal now taskId stream state.requestOffset).1
  rw [LogMap.read, isLog] at result
  unfold HttpService.handleTailLogs
  simp only [HttpService.paramText_toByteArray, taskId.parseTaskId_text, Option.map_some,
    Option.getD_some, if_neg known, Option.bind_some, result, if_true, tailRead_length]

theorem faithful_start (log : ByteString) : (start log).Faithful where
  printed := by simp [start]
  offset_le := by simp [start]
  found := by simp [start]

section Step

variable {state : LogFollow} (faithful : state.Faithful)

include faithful

theorem Faithful.append {bytes : List UInt8} (quiet : state.NotWhileReading (.append bytes)) :
    (state.step (.append bytes)).Faithful := by
  have bound := faithful.offset_le
  change ({ state with log := state.log.append bytes } : LogFollow).Faithful
  unfold ByteString.append
  by_cases fits : (state.log.bytes ++ bytes).length < 2 ^ 63
  · rw [dif_pos fits]
    constructor
    · rw [List.take_append_of_le_length bound]
      exact faithful.printed
    · simp only [List.length_append]
      omega
    · intro size isFound
      obtain ⟨least, most, whole⟩ := faithful.found size isFound
      simp only [List.length_append]
      refine ⟨least, by omega, fun reads => ?_⟩
      rw [quiet size isFound reads, whole reads]
      rfl
  · rw [dif_neg fits]
    exact faithful

theorem Faithful.querySize : (state.step .querySize).Faithful where
  printed := faithful.printed
  offset_le := faithful.offset_le
  found := by
    rintro size ⟨⟩
    cases before : state.found with
    | none => exact ⟨faithful.offset_le, le_rfl, fun _ => rfl⟩
    | some earlier => exact faithful.found earlier before

/-- The next offset is the size that was found. -/
theorem Faithful.receive_offset {size : Nat} (isFound : size ∈ state.found) :
    (state.receive size).offset.toNat = size := by
  have fits := state.log.size_lt
  obtain ⟨_, most, _⟩ := faithful.found size isFound
  have small : size < UInt64.size := by
    unfold UInt64.size
    omega
  unfold LogFollow.receive
  dsimp only
  rw [stoull_toString (by omega), Option.getD_some, UInt64.toNat_ofNat_of_lt' small]

/-- A request reads everything that was not printed yet, or there is nothing of that kind. -/
theorem Faithful.receive {size : Nat} (isFound : size ∈ state.found) :
    (state.receive size).Faithful := by
  have fits := state.log.size_lt
  have next := faithful.receive_offset isFound
  obtain ⟨least, most, whole⟩ := faithful.found size isFound
  constructor
  · rw [next]
    change state.printed ++ tailRead state.requestOffset size state.log.bytes =
      state.log.bytes.take size
    rw [requestOffset_eq, faithful.printed, tailRead]
    by_cases reads : state.offset.toNat < size
    · have split := tailRead_length state.log state.offset
      rw [tailRead] at split
      rw [whole reads, split, List.take_length, List.take_append_drop]
    · have nothingNew : state.offset.toNat = size := by omega
      rw [if_neg reads, nothingNew, List.append_nil]
  · exact next.trans_le most
  · rintro _ ⟨⟩

theorem Faithful.readRest : (state.step .readRest).Faithful := by
  change (state.found.elim state state.receive).Faithful
  cases before : state.found with
  | none => exact faithful
  | some size => exact faithful.receive before

theorem Faithful.step {action : FollowAction} (quiet : state.NotWhileReading action) :
    (state.step action).Faithful := by
  cases action with
  | append bytes => exact faithful.append quiet
  | querySize => exact faithful.querySize
  | readRest => exact faithful.readRest

theorem Faithful.printed_prefix : state.printed <+: state.log.bytes := by
  rw [faithful.printed]
  exact List.take_prefix _ _

/-- A request that nothing is appended in leaves nothing to be printed. -/
theorem Faithful.poll (idle : state.found = none) :
    (run LogFollow.step state [.querySize, .readRest]).printed = state.log.bytes := by
  have asked := faithful.querySize
  have isFound : state.log.bytes.length ∈ (state.step .querySize).found := by
    change some (state.found.getD state.log.bytes.length) = some state.log.bytes.length
    rw [idle, Option.getD_none]
  have answered : run LogFollow.step state [.querySize, .readRest] =
      (state.step .querySize).receive state.log.bytes.length := by
    change (state.step .querySize).found.elim (state.step .querySize)
      (state.step .querySize).receive = _
    rw [isFound, Option.elim_some]
  rw [answered, (asked.receive isFound).printed, asked.receive_offset isFound]
  exact List.take_length

end Step

/-- If nothing is appended between the size query and the read of a request that reads, then
what was printed is always the beginning of the log, and after a request in which nothing is
appended at all it is the whole log. -/
theorem follow_prints_log (log : ByteString) (actions : List FollowAction)
    (quiet : Along step NotWhileReading (start log) actions) :
    let state := run step (start log) actions
    state.printed <+: state.log.bytes ∧
      (state.found = none →
        let polled := run step state [.querySize, .readRest]
        polled.printed = polled.log.bytes) := by
  have preserved : ∀ state action, NotWhileReading state action → Faithful state →
      Faithful (step state action) := fun _ _ quiet faithful => faithful.step quiet
  have faithful := run_invariant_along step preserved (faithful_start log) quiet
  exact ⟨faithful.printed_prefix, faithful.poll⟩

/-- A byte that arrives between the size query and the read is printed twice. -/
theorem follow_repeats_appended_byte :
    let state := run step (start ⟨[97], by decide⟩)
      [.querySize, .append [98], .readRest, .querySize, .readRest]
    ¬ state.printed <+: state.log.bytes := by
  decide

theorem follow_prints_log_between_requests :
    let actions := [.querySize, .readRest, .append [98]]
    let state := run step (start ⟨[97], by decide⟩) actions
    state.printed <+: state.log.bytes := by
  have quiet : Along step NotWhileReading (start ⟨[97], by decide⟩)
      [.querySize, .readRest, .append [98]] := by
    refine ⟨trivial, trivial, ?_, trivial⟩
    rintro size ⟨⟩
  exact (follow_prints_log _ _ quiet).1

end LogFollow

end DistributedComputing
