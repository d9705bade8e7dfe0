import DistributedComputing.CallTraces
import DistributedComputing.HttpHandlers
import DistributedComputing.LogStoreRefinement
import DistributedComputing.StringUtils
import DistributedComputing.WorkerApp

/-!
# The two limits on the size of a log

A worker checks the size of a log file before it uploads it, and the master checks the size
of the text that arrives.  Between the checks the worker repairs the text, and a repair makes
three bytes of one.
-/

namespace DistributedComputing

open CallProgram

/-- The payload of `UploadTaskLog`.  `dump` throws for a text that is not UTF-8. -/
def AgentClient.uploadTaskLog (stream : String) (data : List UInt8) : Option Json := do
  let safeData ← StringUtils.sanitizeUtf8Lossy data
  let text ← String.fromUTF8? safeData.toByteArray
  return .object [("stream", .string stream), ("data", .string text)]

/-- A file with the given content. -/
def LogFile.holding (content : List UInt8) : LogFile where
  size := .ok content.length
  data := some content

theorem Utf8.WellFormed.isValidUTF8 {bytes : List UInt8} (formed : Utf8.WellFormed bytes) :
    bytes.toByteArray.IsValidUTF8 := by
  obtain ⟨text, rfl⟩ := Utf8.wellFormed_iff_exists_text.mp formed
  exact .intro text rfl

theorem fromUTF8?_toByteArray (text : String) :
    String.fromUTF8? text.toByteArray = some text := by
  unfold String.fromUTF8?
  rw [dif_pos text.isValidUTF8]
  rfl

/-- What a worker sends for a log is the repaired log. -/
theorem AgentClient.uploadTaskLog_eq (stream : String) (data : List UInt8) :
    ∃ text : String, text.utf8ByteSize = (Utf8.repair data).length ∧
      uploadTaskLog stream data =
        some (.object [("stream", .string stream), ("data", .string text)]) := by
  let text := String.fromUTF8 _ (Utf8.wellFormed_repair data).isValidUTF8
  have decoded : String.fromUTF8? (Utf8.repair data).toByteArray = some text :=
    fromUTF8?_toByteArray text
  refine ⟨text, ?_, ?_⟩
  · rw [← String.size_toByteArray]
    exact List.size_toByteArray
  · rw [uploadTaskLog, StringUtils.sanitizeUtf8Lossy_eq, Option.bind_eq_bind, Option.bind_some,
      decoded]
    rfl

namespace WorkerApp

/-- A file is accepted by its size, and read as a whole. -/
theorem finishes_readFileWithLimit {path : String} {maxBytes : Nat} {content data : List UInt8} :
    (readFileWithLimit path maxBytes).Finishes [⟨.readLog path, .holding content⟩] (.ok data) ↔
      content.length ≤ maxBytes ∧ data = content := by
  unfold readFileWithLimit
  rw [finishes_perform_bind_iff]
  constructor
  · rintro ⟨file, rest, calls, finished⟩
    cases calls
    dsimp only [LogFile.holding] at finished
    split at finished
    · cases finished
    · obtain ⟨_, equal⟩ := finishes_done_iff.mp finished
      cases equal
      exact ⟨by omega, rfl⟩
  · rintro ⟨small, rfl⟩
    refine ⟨_, [], rfl, ?_⟩
    dsimp only [LogFile.holding]
    rw [if_neg (by omega)]
    exact .done _

end WorkerApp

namespace HttpService

variable (service : HttpService)

theorem paramText_toByteArray (text : String) : paramText text.toByteArray = text := by
  rw [paramText, fromUTF8?_toByteArray, Option.getD_some]

/-- The check of the size, and what follows it. -/
theorem storeLog_status (now : Time) (taskId : Int) (stream data : String) (state : MasterState) :
    ∃ answer, (service.storeLog now taskId stream data state).1 = .ok answer ∧
      (answer.status = 413 ↔ service.maxLogUploadBytes < data.utf8ByteSize) := by
  unfold storeLog
  split
  · exact ⟨_, rfl, iff_of_true rfl ‹_›⟩
  · split
    · exact ⟨_, rfl, iff_of_false (show ¬ 500 = 413 by decide) ‹_›⟩
    · exact ⟨_, rfl, iff_of_false (show ¬ 200 = 413 by decide) ‹_›⟩

/-- An upload whose body the parser reads is stored or refused. -/
theorem handleUploadLogs_of_parse {now : Time} {taskId stream data : String} {number : Int}
    {body : ByteArray} (isId : Api.parseTaskId taskId = some number)
    (isStream : stream = "stdout" ∨ stream = "stderr") (notEmpty : ¬ body.isEmpty)
    (parsed : service.parse body =
      .ok (.object [("stream", .string stream), ("data", .string data)])) (state : MasterState) :
    service.handleUploadLogs now taskId.toByteArray body state =
      service.storeLog now number stream data state := by
  have known : ¬ (stream ≠ "stdout" ∧ stream ≠ "stderr") := by
    rintro ⟨notStdout, notStderr⟩
    exact isStream.elim notStdout notStderr
  let payload : Json := .object [("stream", .string stream), ("data", .string data)]
  have streamRead : payload.value "stream" "stdout" = .ok stream := rfl
  have dataRead : payload.stringMember "data" = some data := rfl
  have read : service.parseJsonBody body = .ok payload := by
    rw [parseJsonBody, if_neg notEmpty, parsed]
  unfold handleUploadLogs withJsonBody
  simp only [paramText_toByteArray, isId, read, streamRead, dataRead, if_neg known]

end HttpService

/-- The worker does not upload the file, or the master does not refuse it as too large.  The
request is what `dump` makes of the payload. -/
def LimitsAgree (service : HttpService) (worker : WorkerConfig) (dump : Json → ByteArray)
    (path : String) (content : List UInt8) (taskId stream : String) (schedule : Schedule)
    (now : Time) (state : MasterState) : Prop :=
  ∀ data, (WorkerApp.readFileWithLimit path worker.maxUploadBytes).Finishes
      [⟨.readLog path, .holding content⟩] (.ok data) →
    ∃ payload answer, AgentClient.uploadTaskLog stream data = some payload ∧
      (service.handle schedule now (.uploadLogs taskId.toByteArray (dump payload)) state).1 =
        .ok answer ∧ answer.status ≠ 413

/-- The parser reads back what `dump` made of the document. -/
def HttpService.ReadsBack (service : HttpService) (dump : Json → ByteArray) (document : Json) :
    Prop :=
  ¬ (dump document).isEmpty ∧ service.parse (dump document) = .ok document

/-- With one limit on both sides. -/
theorem limits_agree_iff (service : HttpService) (worker : WorkerConfig)
    (sameLimit : worker.maxUploadBytes = service.maxLogUploadBytes) (dump : Json → ByteArray)
    (path : String) (content : List UInt8) {taskId stream : String} {number : Int}
    (isId : Api.parseTaskId taskId = some number)
    (isStream : stream = "stdout" ∨ stream = "stderr")
    (readsBack : ∀ payload, AgentClient.uploadTaskLog stream content = some payload →
      service.ReadsBack dump payload)
    (schedule : Schedule) (now : Time) (state : MasterState) :
    LimitsAgree service worker dump path content taskId stream schedule now state ↔
      (content.length ≤ service.maxLogUploadBytes →
        content.length + 2 * Utf8.strays content ≤ service.maxLogUploadBytes) := by
  obtain ⟨text, size, sent⟩ := AgentClient.uploadTaskLog_eq stream content
  obtain ⟨notEmpty, parsed⟩ := readsBack _ sent
  obtain ⟨answer, answered, refused⟩ := service.storeLog_status now number stream text state
  rw [← service.handleUploadLogs_of_parse isId isStream notEmpty parsed] at answered
  rw [size, Utf8.length_repair] at refused
  let payload : Json := .object [("stream", .string stream), ("data", .string text)]
  have handled : (service.handle schedule now (.uploadLogs taskId.toByteArray (dump payload))
      state).1 = .ok answer := answered
  unfold LimitsAgree
  simp only [WorkerApp.finishes_readFileWithLimit, sameLimit]
  constructor
  · intro agree small
    obtain ⟨_, _, isPayload, isAnswer, accepted⟩ := agree content ⟨small, rfl⟩
    rw [sent, Option.some_inj] at isPayload
    rw [← isPayload, handled] at isAnswer
    cases isAnswer
    omega
  · rintro small data ⟨accepted, rfl⟩
    refine ⟨payload, answer, sent, handled, ?_⟩
    intro tooLarge
    have fits := small accepted
    have exceeds := refused.mp tooLarge
    omega

/-- The payload for a log of one byte that is not UTF-8, and its text. -/
def oddUpload : Json :=
  .object [("stream", .string "stdout"), ("data", .string "\ufffd")]

def oddText : String :=
  "\x7b\"data\":\"\ufffd\",\"stream\":\"stdout\"\x7d"

/-- A service that reads this upload. -/
def oddService (limit : Nat) : HttpService where
  maxLogUploadBytes := limit
  broker := mongoBroker
  logStore := { rootDir := "logs", dump := fun _ => [] }
  parse body := if body.data = oddText.toByteArray.data then .ok oddUpload else .error ⟨#[]⟩
  foreign := fun _ => .absent

/-- The two sides for this upload, with one limit. -/
def OddLimitAgrees (limit : Nat) : Prop :=
  LimitsAgree (oddService limit) { agentId := "agent-1", maxUploadBytes := limit }
    (fun _ => oddText.toByteArray) "logs/worker/1/stdout.log" [0xFF] "1" "stdout" { first := [] } 0
    { tables := Store.empty, files := freshTree }

theorem readsBack_oddService (limit : Nat) (payload : Json)
    (isPayload : AgentClient.uploadTaskLog "stdout" [0xFF] = some payload) :
    (oddService limit).ReadsBack (fun _ => oddText.toByteArray) payload := by
  have sent : AgentClient.uploadTaskLog "stdout" [0xFF] = some oddUpload := rfl
  rw [sent, Option.some_inj] at isPayload
  subst isPayload
  exact ⟨by decide, rfl⟩

theorem limits_agree_iff_three : OddLimitAgrees 3 := by
  refine (limits_agree_iff (oddService 3) { agentId := "agent-1", maxUploadBytes := 3 } rfl _ _ _
    (show Api.parseTaskId "1" = some 1 by decide) (.inl rfl) (readsBack_oddService 3) _ _ _).mpr ?_
  intro _
  rw [Utf8.strays, Utf8.pieces_stray (by decide), Utf8.pieces]
  decide

/-- With a limit of one byte the master refuses the log that the worker accepts. -/
theorem limits_disagree : ¬ OddLimitAgrees 1 := by
  intro agree
  obtain ⟨payload, answer, isPayload, isAnswer, accepted⟩ :=
    agree [0xFF] (WorkerApp.finishes_readFileWithLimit.mpr ⟨by decide, rfl⟩)
  cases isPayload
  cases isAnswer
  exact accepted rfl

end DistributedComputing
