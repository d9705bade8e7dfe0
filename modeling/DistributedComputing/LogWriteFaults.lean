import DistributedComputing.LogStoreRefinement
import DistributedComputing.UploadLimits

/-!
# Log writes that fail

A file may fail to open, and the write or the close may fail after any number of bytes.
`WriteAll` asks only whether the file is open, so that its answer stands for the data
exactly when everything reaches the file.
-/

namespace DistributedComputing

open PathText TransitionRuns

/-- How the operations on an output stream end: the open, and the write or the close that
fails, if one does, with the number of bytes that are in the file then. -/
structure StreamOutcome where
  opened : Bool := true
  failsAfter : Option Nat := none
  deriving DecidableEq

/-- The bytes that are in the file in the end. -/
def StreamOutcome.kept (outcome : StreamOutcome) (bytes : List UInt8) : List UInt8 :=
  outcome.failsAfter.elim bytes fun count => bytes.take count

/-- Open with `trunc`, write and close. -/
def FileSystem.writeStream (fs : FileSystem) (outcome : StreamOutcome) (path : String)
    (bytes : List UInt8) : Option FileSystem :=
  if outcome.opened then fs.writeFile path (outcome.kept bytes) else none

/-- The outcomes for the two files that a call may write. -/
structure WriteOutcomes where
  log : StreamOutcome := {}
  metadata : StreamOutcome := {}

namespace LogStore

variable (store : LogStore)

/-- What `RefreshMetadata` writes. -/
def metadata (now : Time) (taskId : String) (paths : LogPaths) (fs : FileSystem) : Json :=
  .object
    [("task_id", .string taskId), ("root_dir", .string store.rootDir),
      ("updated_at", .string (IsoTime.isoUtc now)),
      ("stdout", metaEntry fs paths.stdoutPath), ("stderr", metaEntry fs paths.stderrPath)]

def refreshMetadataDuring (outcome : StreamOutcome) (now : Time) (taskId : String)
    (paths : LogPaths) (fs : FileSystem) : FileSystem :=
  (fs.writeStream outcome paths.metaPath
    (store.dump (store.metadata now taskId paths fs))).getD fs

/-- `WriteAll`, which ignores how the write and the close end. -/
def writeAllDuring (outcomes : WriteOutcomes) (now : Time) (taskId stream : String)
    (data : ByteString) (fs : FileSystem) : Bool × FileSystem :=
  let paths := store.pathsForTask taskId
  if store.pathsWithinRoot fs paths then
    let prepared := fs.createDirectories paths.dir
    let written := data.bytes.take (streamoff data.bytes.length).toNat
    match prepared.writeStream outcomes.log (paths.target stream) written with
    | none => (false, prepared)
    | some later => (true, store.refreshMetadataDuring outcomes.metadata now taskId paths later)
  else (false, fs)

def readInternalDuring (outcome : StreamOutcome) (now : Time) (taskId stream : String)
    (offset : UInt64) (fs : FileSystem) : ReadResult × FileSystem :=
  let paths := store.pathsForTask taskId
  if store.pathsWithinRoot fs paths then
    let prepared := fs.createDirectories paths.dir
    (readFileInternal prepared (paths.target stream) offset,
      store.refreshMetadataDuring outcome now taskId paths prepared)
  else ({}, fs)

/-- The tree after a call whose writes end as given. -/
def afterDuring (fs : FileSystem) (call : LogCall × WriteOutcomes) : FileSystem :=
  match call.1 with
  | .writeAll now taskId stream data =>
      (store.writeAllDuring call.2 now taskId.text stream.text data fs).2
  | .readAll now taskId stream =>
      (store.readInternalDuring call.2.metadata now taskId.text stream.text 0 fs).2
  | .readFromOffset now taskId stream offset =>
      (store.readInternalDuring call.2.metadata now taskId.text stream.text offset fs).2

/-- Without failures these are the calls of the store. -/
theorem writeAllDuring_complete (now : Time) (taskId stream : String) (data : ByteString)
    (fs : FileSystem) :
    store.writeAllDuring {} now taskId stream data fs =
      store.writeAll now taskId stream data fs := by
  rfl

theorem readInternalDuring_complete (now : Time) (taskId stream : String) (offset : UInt64)
    (fs : FileSystem) :
    store.readInternalDuring {} now taskId stream offset fs =
      store.readInternal now taskId stream offset fs := by
  rfl

end LogStore

theorem StreamOutcome.length_kept (outcome : StreamOutcome) (bytes : List UInt8) :
    (outcome.kept bytes).length ≤ bytes.length := by
  unfold kept
  cases outcome.failsAfter with
  | none => exact le_rfl
  | some count => exact List.length_take_le' _ _

/-- The part of a text that reaches the file. -/
def StreamOutcome.keptText (outcome : StreamOutcome) (data : ByteString) : ByteString where
  bytes := outcome.kept data.bytes
  size_lt := (outcome.length_kept data.bytes).trans_lt data.size_lt

namespace LogStore

section Tree

variable {store : LogStore} {root : Location} {logs : LogMap} {fs : FileSystem}
  (held : store.Represents root logs fs) (taskId : LogTaskId)

include held

theorem Represents.refreshMetadataDuring
    (present : fs.node (root ++ [taskId.text]) = some .directory) (outcome : StreamOutcome)
    (now : Time) :
    store.Represents root logs
      (store.refreshMetadataDuring outcome now taskId.text (store.pathsForTask taskId.text) fs) := by
  unfold LogStore.refreshMetadataDuring FileSystem.writeStream
  cases outcome.opened with
  | false => exact held
  | true => exact held.writeMetadata taskId present _

variable (now : Time) (stream : LogStream)

/-- A file that opens holds what was kept of the data, whatever the call answers. -/
theorem Represents.writeAllDuring (outcomes : WriteOutcomes) (data : ByteString) :
    (store.writeAllDuring outcomes now taskId.text stream.text data fs).1 =
        outcomes.log.opened ∧
      store.Represents root
        (if outcomes.log.opened then logs.insert taskId stream (outcomes.log.keptText data)
          else logs)
        (store.writeAllDuring outcomes now taskId.text stream.text data fs).2 := by
  obtain ⟨prepared, present⟩ := held.createDirectories taskId
  obtain ⟨later, written, stored, still⟩ :=
    prepared.writeStream taskId present stream (outcomes.log.keptText data)
  have whole : data.bytes.take (streamoff data.bytes.length).toNat = data.bytes := by
    rw [show streamoff data.bytes.length = data.bytes.length from if_pos data.size_lt]
    simp
  unfold LogStore.writeAllDuring FileSystem.writeStream
  simp only [held.pathsWithinRoot taskId, if_true, whole]
  cases outcomes.log.opened with
  | false => exact ⟨rfl, prepared⟩
  | true =>
      have stream : (fs.createDirectories (store.pathsForTask taskId.text).dir).writeFile
          ((store.pathsForTask taskId.text).target stream.text) (outcomes.log.kept data.bytes) =
          some later := written
      simp only [if_true, stream]
      exact ⟨trivial, stored.refreshMetadataDuring taskId still outcomes.metadata now⟩

theorem Represents.readInternalDuring (outcome : StreamOutcome) (offset : UInt64) :
    store.Represents root logs
      (store.readInternalDuring outcome now taskId.text stream.text offset fs).2 := by
  obtain ⟨prepared, present⟩ := held.createDirectories taskId
  unfold LogStore.readInternalDuring
  simp only [held.pathsWithinRoot taskId, if_true]
  exact prepared.refreshMetadataDuring taskId present outcome now

omit taskId now stream

/-- Whatever fails in a call, the tree holds logs. -/
theorem Represents.afterDuring (call : LogCall × WriteOutcomes) :
    ∃ later, store.Represents root later (store.afterDuring fs call) := by
  obtain ⟨call, outcomes⟩ := call
  cases call with
  | writeAll now taskId stream data =>
      exact ⟨_, (held.writeAllDuring taskId now stream outcomes data).2⟩
  | readAll now taskId stream =>
      exact ⟨logs, held.readInternalDuring taskId now stream outcomes.metadata 0⟩
  | readFromOffset now taskId stream offset =>
      exact ⟨logs, held.readInternalDuring taskId now stream outcomes.metadata offset⟩

end Tree

theorem Represents.run_afterDuring {store : LogStore} {root : Location} {logs : LogMap}
    {fs : FileSystem} (held : store.Represents root logs fs)
    (calls : List (LogCall × WriteOutcomes)) :
    ∃ later, store.Represents root later (TransitionRuns.run store.afterDuring fs calls) := by
  induction calls generalizing logs fs with
  | nil => exact ⟨logs, held⟩
  | cons call calls ih =>
      obtain ⟨_, still⟩ := held.afterDuring call
      exact ih still

/-- A log that the tree holds is in its file. -/
theorem Represents.readFile {store : LogStore} {root : Location} {logs : LogMap}
    {fs : FileSystem} (held : store.Represents root logs fs) {taskId : LogTaskId}
    {stream : LogStream} {data : ByteString} (found : logs taskId stream = some data) :
    fs.readFile ((store.pathsForTask taskId.text).target stream.text) = some data.bytes := by
  have entry := held.stream taskId stream
  rw [found, Option.map_some] at entry
  have present : fs.node (root ++ [taskId.text]) = some .directory :=
    fs.parentNode _ stream.fileName (by rw [entry]; exact Option.some_ne_none _)
  have located := (held.leads.join taskId.plain_text present).locate_join stream.plain_fileName
    (FileSystem.not_symlink_of_free (held.free_stream taskId stream))
  rw [store.target_pathsForTask]
  simp only [FileSystem.readFile, FileSystem.status, located, Option.bind_some, entry]

end LogStore

theorem StreamOutcome.kept_eq_self_iff (outcome : StreamOutcome) (bytes : List UInt8) :
    outcome.kept bytes = bytes ↔ ∀ count ∈ outcome.failsAfter, bytes.length ≤ count := by
  unfold kept
  cases outcome.failsAfter with
  | none => simp
  | some count =>
      have prefixes : bytes.take count = bytes ↔ bytes.length ≤ count := by
        constructor
        · intro whole
          have length := congrArg List.length whole
          rw [List.length_take] at length
          omega
        · exact List.take_of_length_le
      simp [prefixes]

/-! ## Uploads -/

/-- `WriteAll` for the text of a JSON string, as in `writeText`. -/
def LogStore.writeTextDuring (store : LogStore) (outcomes : WriteOutcomes) (now : Time)
    (taskId stream data : String) (fs : FileSystem) : Bool × FileSystem :=
  let bytes := data.toByteArray.data.toList
  if fits : bytes.length < 2 ^ 63 then
    store.writeAllDuring outcomes now taskId stream ⟨bytes, fits⟩ fs
  else (false, fs)

namespace HttpService

open ControlService

variable (service : HttpService)

/-- The answer to an upload of that many bytes. -/
def uploadedResponse (size : Nat) : Response where
  status := 200
  body := .object [("status", .string "ok"), ("size_bytes", .integer size)]

/-- The part of `HandleUploadLogs` after its checks. -/
def storeLogDuring (outcomes : WriteOutcomes) (now : Time) (taskId : Int)
    (stream data : String) : Handler := fun state =>
  if service.maxLogUploadBytes < data.utf8ByteSize then
    answer (errorResponse 413 "PAYLOAD_TOO_LARGE" "Log upload exceeds limit"
      (.object [("limit_bytes", .integer service.maxLogUploadBytes)])) state
  else
    match service.logStore.writeTextDuring outcomes now (toString taskId) stream data
      state.files with
    | (false, files) =>
        answer (errorResponse 500 "LOG_WRITE_FAILED" "Failed to store log")
          { state with files := files }
    | (true, files) => answer (uploadedResponse data.utf8ByteSize) { state with files := files }

def handleUploadLogsDuring (outcomes : WriteOutcomes) (now : Time)
    (taskId body : ByteArray) : Handler :=
  match Api.parseTaskId (paramText taskId) with
  | none => answer invalidTaskIdResponse
  | some taskId =>
      service.withJsonBody body fun json =>
        match json.value "stream" "stdout" with
        | .error exception => fun state => (.error exception, state)
        | .ok stream =>
            if stream ≠ "stdout" ∧ stream ≠ "stderr" then answer invalidStreamResponse
            else
              match json.stringMember "data" with
              | none => answer (errorResponse 400 "BAD_REQUEST" "Missing data")
              | some data => service.storeLogDuring outcomes now taskId stream data

/-- Without failures this is the handler. -/
theorem handleUploadLogsDuring_complete (now : Time) (taskId body : ByteArray) :
    service.handleUploadLogsDuring {} now taskId body =
      service.handleUploadLogs now taskId body := by
  rfl

/-- An upload whose body carries the stream and the data. -/
structure Carries (json : Json) (stream : LogStream) (data : String) : Prop where
  stream : json.value "stream" "stdout" = .ok stream.text
  data : json.stringMember "data" = some data

theorem handleUploadLogsDuring_of_carries (outcomes : WriteOutcomes) (now : Time)
    (taskId : LogTaskId) {stream : LogStream} {data : String} {body : ByteArray} {json : Json}
    (read : service.parseJsonBody body = .ok json) (carries : Carries json stream data)
    (state : MasterState) :
    service.handleUploadLogsDuring outcomes now taskId.text.toByteArray body state =
      service.storeLogDuring outcomes now taskId.number stream.text data state := by
  have known : ¬ (stream.text ≠ "stdout" ∧ stream.text ≠ "stderr") := by
    cases stream <;> simp [LogStream.text]
  have isId : Api.parseTaskId (paramText taskId.text.toByteArray) = some taskId.number := by
    rw [paramText_toByteArray]
    exact taskId.parseTaskId_text
  unfold handleUploadLogsDuring withJsonBody
  simp only [isId, read, carries.stream, carries.data, if_neg known]

/-- What the answer to an upload promises: a following `ReadAll` returns the data. -/
def UploadsTruly (outcomes : WriteOutcomes) (now : Time) (taskId : LogTaskId)
    (stream : LogStream) (data : String) (body : ByteArray) (state : MasterState) : Prop :=
  ∀ after, service.handleUploadLogsDuring outcomes now taskId.text.toByteArray body state =
      (.ok (uploadedResponse data.utf8ByteSize).toAnswer, after) →
    ∀ moment, (service.logStore.readAll moment taskId.text stream.text after.files).1 =
      { data := data.toByteArray.data.toList
        sizeBytes := data.utf8ByteSize
        fileExists := true }

end HttpService

/-- What the answer of `WriteAll` promises: the file holds exactly the data. -/
def LogStore.WritesTruly (store : LogStore) (outcomes : WriteOutcomes) (now : Time)
    (taskId : LogTaskId) (stream : LogStream) (data : ByteString) (fs : FileSystem) : Prop :=
  ∀ after, store.writeAllDuring outcomes now taskId.text stream.text data fs = (true, after) →
    after.readFile ((store.pathsForTask taskId.text).target stream.text) = some data.bytes

/-- The file does not open, or neither the write nor the close fails before everything is in
the file. -/
def StreamOutcome.LosesNothing (outcome : StreamOutcome) (size : Nat) : Prop :=
  outcome.opened = true → ∀ count ∈ outcome.failsAfter, size ≤ count

section Complete

variable {store : LogStore} {root : Location} {logs : LogMap} {fs : FileSystem}
  (held : store.Represents root logs fs) (outcomes : WriteOutcomes) (now : Time)
  (taskId : LogTaskId) (stream : LogStream)

include held

theorem LogStore.Represents.writesTruly_iff (data : ByteString) :
    store.WritesTruly outcomes now taskId stream data fs ↔
      outcomes.log.LosesNothing data.bytes.length := by
  obtain ⟨reported, still⟩ := held.writeAllDuring taskId now stream outcomes data
  unfold LogStore.WritesTruly StreamOutcome.LosesNothing
  cases opened : outcomes.log.opened with
  | false =>
      rw [opened] at reported
      refine iff_of_true ?_ (fun impossible => nomatch impossible)
      intro after written
      rw [written] at reported
      cases reported
  | true =>
      rw [opened] at reported
      rw [opened, if_pos rfl] at still
      have stored : logs.insert taskId stream (outcomes.log.keptText data) taskId stream =
          some (outcomes.log.keptText data) := by
        simp [LogMap.insert]
      have kept := still.readFile stored
      rw [← StreamOutcome.kept_eq_self_iff]
      constructor
      · intro truly _
        have whole := truly _ (Prod.ext reported rfl)
        rw [kept] at whole
        exact Option.some_inj.mp whole
      · intro whole after written
        rw [written] at kept
        rw [kept]
        exact congrArg some (whole rfl)

/-- What a read after an upload that was answered with success returns. -/
theorem LogStore.Represents.readAll_after (data : ByteString)
    (opened : outcomes.log.opened = true) (moment : Time) :
    (store.readAll moment taskId.text stream.text
        (store.writeAllDuring outcomes now taskId.text stream.text data fs).2).1 =
      { data := outcomes.log.kept data.bytes
        sizeBytes := (outcomes.log.kept data.bytes).length
        fileExists := true } := by
  obtain ⟨_, still⟩ := held.writeAllDuring taskId now stream outcomes data
  rw [opened, if_pos rfl] at still
  have answered := (still.readInternal moment taskId stream 0).1
  rw [LogMap.read, LogMap.insert, if_pos ⟨rfl, rfl⟩] at answered
  exact answered

theorem HttpService.uploadsTruly_iff (service : HttpService) (isStore : service.logStore = store)
    {text : String} {data : ByteString} (isText : text.toByteArray.data.toList = data.bytes)
    {body : ByteArray} {json : Json} (read : service.parseJsonBody body = .ok json)
    (carries : Carries json stream text) (tables : Store) :
    service.UploadsTruly outcomes now taskId stream text body ⟨tables, fs⟩ ↔
      (data.bytes.length ≤ service.maxLogUploadBytes →
        outcomes.log.LosesNothing data.bytes.length) := by
  have size : text.utf8ByteSize = data.bytes.length := by
    rw [← isText]
    rfl
  have stored : service.logStore.writeTextDuring outcomes now (toString taskId.number) stream.text
      text fs = store.writeAllDuring outcomes now taskId.text stream.text data fs := by
    obtain ⟨bytes, fits⟩ := data
    subst isText
    rw [isStore, LogStore.writeTextDuring, dif_pos fits]
    rfl
  obtain ⟨reported, _⟩ := held.writeAllDuring taskId now stream outcomes data
  have readBack := held.readAll_after outcomes now taskId stream data
  unfold HttpService.UploadsTruly
  rw [service.handleUploadLogsDuring_of_carries outcomes now taskId read carries, isStore]
  unfold HttpService.storeLogDuring
  rw [size, stored]
  by_cases large : service.maxLogUploadBytes < data.bytes.length
  · refine iff_of_true ?_ (fun small => absurd large (not_lt.mpr small))
    intro after answered
    rw [if_pos large] at answered
    cases answered
  · rw [if_neg large]
    have accepted : data.bytes.length ≤ service.maxLogUploadBytes := not_lt.mp large
    rw [forall_prop_of_true accepted]
    unfold StreamOutcome.LosesNothing
    generalize store.writeAllDuring outcomes now taskId.text stream.text data fs = result at *
    obtain ⟨answer, files⟩ := result
    cases opened : outcomes.log.opened with
    | false =>
        rw [opened] at reported
        cases reported
        refine iff_of_true ?_ (fun impossible => nomatch impossible)
        intro after answered
        cases answered
    | true =>
        rw [opened] at reported
        cases reported
        rw [← StreamOutcome.kept_eq_self_iff]
        constructor
        · intro truly _
          have whole := (readBack opened 0).symm.trans (truly _ rfl 0)
          exact (ReadResult.mk.inj whole).1.trans isText
        · intro whole after answered moment
          cases answered
          rw [isText]
          have same := readBack opened moment
          rwa [whole rfl] at same

end Complete

/-- After any calls, whatever failed in them, the answers of `WriteAll` and of an upload stand
for the data exactly when the file loses nothing of it. -/
theorem log_write_complete_iff {store : LogStore} {root : Location} {start : FileSystem}
    (vacant : store.EmptyRoot root start) (calls : List (LogCall × WriteOutcomes))
    (outcomes : WriteOutcomes) (now : Time) (taskId : LogTaskId) (stream : LogStream)
    (data : ByteString) :
    let files := run store.afterDuring start calls
    (store.WritesTruly outcomes now taskId stream data files ↔
        outcomes.log.LosesNothing data.bytes.length) ∧
      ∀ (service : HttpService) (text : String) (body : ByteArray) (json : Json)
        (tables : Store), service.logStore = store → text.toByteArray.data.toList = data.bytes →
          service.parseJsonBody body = .ok json → HttpService.Carries json stream text →
            (service.UploadsTruly outcomes now taskId stream text body ⟨tables, files⟩ ↔
              (data.bytes.length ≤ service.maxLogUploadBytes →
                outcomes.log.LosesNothing data.bytes.length)) := by
  obtain ⟨logs, held⟩ := vacant.represents.run_afterDuring calls
  refine ⟨held.writesTruly_iff outcomes now taskId stream data, ?_⟩
  intro service text body json tables isStore isText read carries
  exact HttpService.uploadsTruly_iff held outcomes now taskId stream service isStore isText read
    carries tables

/-- A store in a fresh installation. -/
def freshStore : LogStore where
  rootDir := "logs"
  dump _ := [123, 125]

/-- After a write that fell short and one that did not open, a disk that is full after two
bytes loses the third byte of an upload, and one that is full after three loses nothing. -/
theorem log_write_complete_iff_fullDisks :
    let service := oddService 3
    let earlier : List (LogCall × WriteOutcomes) :=
      [(.writeAll 0 ⟨7, by decide⟩ .stdout ⟨[104, 105], by decide⟩,
          { log := { failsAfter := some 1 } }),
        (.writeAll 1 ⟨8, by decide⟩ .stderr ⟨[110, 111], by decide⟩,
          { log := { opened := false } })]
    let files := run service.logStore.afterDuring freshTree earlier
    let fullAfter := fun size : Nat => ({ log := { failsAfter := some size } } : WriteOutcomes)
    let written := fun size => service.logStore.WritesTruly (fullAfter size) 2 ⟨7, by decide⟩
      .stdout ⟨[0xEF, 0xBF, 0xBD], by decide⟩ files
    let uploaded := fun size => service.UploadsTruly (fullAfter size) 2 ⟨7, by decide⟩ .stdout
      "\ufffd" oddText.toByteArray ⟨Store.empty, files⟩
    (written 3 ∧ uploaded 3) ∧ ¬ written 2 ∧ ¬ uploaded 2 := by
  intro service earlier files fullAfter written uploaded
  have lossless (size : Nat) : (fullAfter size).log.LosesNothing 3 ↔ 3 ≤ size := by
    simp [StreamOutcome.LosesNothing, fullAfter]
  have completeFrom (size : Nat) : (written size ↔ 3 ≤ size) ∧ (uploaded size ↔ 3 ≤ size) := by
    obtain ⟨write, upload⟩ := log_write_complete_iff (emptyRoot_freshTree fun _ => []) earlier
      (fullAfter size) 2 ⟨7, by decide⟩ .stdout ⟨[0xEF, 0xBF, 0xBD], by decide⟩
    have sent := upload service "\ufffd" oddText.toByteArray oddUpload Store.empty rfl
      (by decide) rfl ⟨rfl, rfl⟩
    rw [forall_prop_of_true (by decide)] at sent
    exact ⟨write.trans (lossless size), sent.trans (lossless size)⟩
  simp only [completeFrom]
  omega

/-- A full disk keeps one byte of two, and the write is reported as a success. -/
theorem writeAll_reports_short_write :
    ¬ freshStore.WritesTruly { log := { failsAfter := some 1 } } 0 ⟨7, by decide⟩ .stdout
        ⟨[104, 105], by decide⟩ freshTree := by
  have held := (emptyRoot_freshTree fun _ => [123, 125]).represents
  rw [show freshStore = { rootDir := "logs", dump := fun _ => [123, 125] } from rfl,
    held.writesTruly_iff]
  intro lossless
  have few := lossless rfl 1 rfl
  simp at few

end DistributedComputing
