import DistributedComputing.ApiMappers
import DistributedComputing.LogStore
import DistributedComputing.TransitionRuns

/-!
# The log store is a map

Whatever is written and read in between, the store answers like a map from tasks and
streams to the bytes that were written last.
-/

namespace DistributedComputing

open PathText TransitionRuns

/-- A task id as the handlers pass it on. -/
structure LogTaskId where
  number : Int
  bounds : 0 < number ∧ number < 2 ^ 63
  deriving DecidableEq

/-- `std::to_string`. -/
def LogTaskId.text (taskId : LogTaskId) : String :=
  toString taskId.number

inductive LogStream
  | stdout
  | stderr
  deriving DecidableEq

def LogStream.text : LogStream → String
  | stdout => "stdout"
  | stderr => "stderr"

def LogStream.fileName : LogStream → String
  | stdout => "stdout.log"
  | stderr => "stderr.log"

inductive LogCall
  | writeAll (now : Time) (taskId : LogTaskId) (stream : LogStream) (data : ByteString)
  | readAll (now : Time) (taskId : LogTaskId) (stream : LogStream)
  | readFromOffset (now : Time) (taskId : LogTaskId) (stream : LogStream) (offset : UInt64)

inductive LogResult
  | written (stored : Bool)
  | read (result : ReadResult)

def LogStore.answer (store : LogStore) (fs : FileSystem) : LogCall → LogResult × FileSystem
  | .writeAll now taskId stream data =>
      let (stored, after) := store.writeAll now taskId.text stream.text data fs
      (.written stored, after)
  | .readAll now taskId stream =>
      let (result, after) := store.readAll now taskId.text stream.text fs
      (.read result, after)
  | .readFromOffset now taskId stream offset =>
      let (result, after) := store.readFromOffset now taskId.text stream.text offset fs
      (.read result, after)

/-! ## The map -/

abbrev LogMap :=
  LogTaskId → LogStream → Option ByteString

namespace LogMap

def empty : LogMap :=
  fun _ _ => none

def insert (logs : LogMap) (taskId : LogTaskId) (stream : LogStream) (data : ByteString) :
    LogMap := fun other otherStream =>
  if other = taskId ∧ otherStream = stream then some data else logs other otherStream

/-- What is there from an offset on. -/
def read (logs : LogMap) (taskId : LogTaskId) (stream : LogStream) (offset : Nat) : ReadResult :=
  match logs taskId stream with
  | none => {}
  | some data =>
      { data := data.bytes.drop offset
        sizeBytes := data.bytes.length
        fileExists := true }

def answer (logs : LogMap) : LogCall → LogResult × LogMap
  | .writeAll _ taskId stream data => (.written true, logs.insert taskId stream data)
  | .readAll _ taskId stream => (.read (logs.read taskId stream 0), logs)
  | .readFromOffset _ taskId stream offset =>
      (.read (logs.read taskId stream offset.toNat), logs)

end LogMap

/-! ## Names -/

namespace LogTaskId

theorem parseTaskId_text (taskId : LogTaskId) :
    Api.parseTaskId taskId.text = some taskId.number := by
  rw [text, Api.parseTaskId_toString, if_pos taskId.bounds]

theorem text_injective {first second : LogTaskId} (same : first.text = second.text) :
    first = second := by
  have parsed := first.parseTaskId_text
  rw [same, second.parseTaskId_text] at parsed
  cases first
  cases second
  cases parsed
  rfl

theorem plain_text (taskId : LogTaskId) : Plain taskId.text := by
  have parsed := taskId.parseTaskId_text
  unfold Api.parseTaskId at parsed
  dsimp only at parsed
  split at parsed
  · rename_i digits
    have noDigit : ∀ char, char.isDigit = false → char ∉ taskId.text.toList := by
      intro char other member
      have isDigit := List.all_eq_true.mp digits.2 char member
      rw [other] at isDigit
      cases isDigit
    constructor
    · intro empty
      exact digits.1 (by simp [empty])
    · exact noDigit '/' (by decide)
    · intro dot
      exact noDigit '.' (by decide) (by simp [dot])
    · intro dots
      exact noDigit '.' (by decide) (by simp [dots])
  · cases parsed

end LogTaskId

theorem LogStream.plain_fileName (stream : LogStream) : Plain stream.fileName := by
  cases stream <;> constructor <;> decide

theorem plain_metaName : Plain "meta.json" := by
  constructor <;> decide

theorem LogStream.fileName_injective {first second : LogStream}
    (same : first.fileName = second.fileName) : first = second := by
  cases first <;> cases second <;> simp_all [fileName]

theorem LogStream.fileName_ne_meta (stream : LogStream) : stream.fileName ≠ "meta.json" := by
  cases stream <;> decide

theorem LogStore.target_pathsForTask (store : LogStore) (taskId : String) (stream : LogStream) :
    (store.pathsForTask taskId).target stream.text =
      join (join store.rootDir taskId) stream.fileName := by
  cases stream <;> rfl

/-! ## The tree below the root directory -/

/-- The tree holds the logs. -/
structure LogStore.Represents (store : LogStore) (root : Location) (logs : LogMap)
    (fs : FileSystem) : Prop where
  leads : fs.LeadsTo store.rootDir root
  directory : ∀ taskId : LogTaskId, fs.node (root ++ [taskId.text]) = none ∨
    fs.node (root ++ [taskId.text]) = some .directory
  metadata : ∀ taskId : LogTaskId, fs.node (root ++ [taskId.text] ++ ["meta.json"]) = none ∨
    ∃ bytes, fs.node (root ++ [taskId.text] ++ ["meta.json"]) = some (.file bytes)
  stream : ∀ (taskId : LogTaskId) stream,
    fs.node (root ++ [taskId.text] ++ [LogStream.fileName stream]) =
      (logs taskId stream).map fun data => .file data.bytes

/-- The root directory is there, and nothing is in it. -/
structure LogStore.EmptyRoot (store : LogStore) (root : Location) (fs : FileSystem) : Prop where
  leads : fs.LeadsTo store.rootDir root
  vacant : ∀ names, names ≠ [] → fs.node (root ++ names) = none

namespace LogStore

section Tree

variable {store : LogStore} {root : Location} {logs : LogMap} {fs : FileSystem}

theorem EmptyRoot.represents (vacant : store.EmptyRoot root fs) :
    store.Represents root LogMap.empty fs where
  leads := vacant.leads
  directory _ := .inl (vacant.vacant _ (by simp))
  metadata _ := .inl (by simpa using vacant.vacant _ (List.cons_ne_nil _ _))
  stream taskId stream := by
    rw [List.append_assoc]
    exact vacant.vacant _ (by simp)

variable (held : store.Represents root logs fs) (taskId : LogTaskId)

include held

theorem Represents.free_stream (stream : LogStream) :
    fs.node (root ++ [taskId.text] ++ [stream.fileName]) = none ∨
      ∃ bytes, fs.node (root ++ [taskId.text] ++ [stream.fileName]) = some (.file bytes) := by
  rw [held.stream taskId stream]
  cases logs taskId stream with
  | none => exact .inl rfl
  | some data => exact .inr ⟨data.bytes, rfl⟩

/-- The paths of a task are accepted. -/
theorem Represents.pathsWithinRoot :
    store.pathsWithinRoot fs (store.pathsForTask taskId.text) = true := by
  have plain := taskId.plain_text
  have within : ∀ path names, fs.weaklyCanonical path = some (root ++ names) →
      store.isPathWithinRoot fs path = true := by
    intro path names canonical
    simp [isPathWithinRoot, held.leads.weaklyCanonical, canonical]
  have entry : ∀ name, Plain name →
      (fs.node (root ++ [taskId.text] ++ [name]) = none ∨
        ∃ bytes, fs.node (root ++ [taskId.text] ++ [name]) = some (.file bytes)) →
      store.isPathWithinRoot fs (join (join store.rootDir taskId.text) name) = true := by
    intro name plainName free
    apply within _ ([taskId.text] ++ [name])
    rw [← List.append_assoc]
    exact held.leads.weaklyCanonical_join_join plain plainName (held.directory taskId)
      (FileSystem.not_symlink_of_free free)
  have directory : store.isPathWithinRoot fs (join store.rootDir taskId.text) = true := by
    apply within _ [taskId.text]
    apply held.leads.weaklyCanonical_join plain
    intro target
    rcases held.directory taskId with absent | present
    · simp [absent]
    · simp [present]
  have stdout := entry "stdout.log" LogStream.stdout.plain_fileName
    (held.free_stream taskId .stdout)
  have stderr := entry "stderr.log" LogStream.stderr.plain_fileName
    (held.free_stream taskId .stderr)
  have metadata := entry "meta.json" plain_metaName (held.metadata taskId)
  simp [LogStore.pathsWithinRoot, pathsForTask, directory, stdout, stderr, metadata]

/-- The directory of the task is made, and nothing else changes. -/
theorem Represents.createDirectories :
    store.Represents root logs (fs.createDirectories (store.pathsForTask taskId.text).dir) ∧
      (fs.createDirectories (store.pathsForTask taskId.text).dir).node
        (root ++ [taskId.text]) = some .directory := by
  have plain := taskId.plain_text
  change store.Represents root logs (fs.createDirectories (join store.rootDir taskId.text)) ∧
    (fs.createDirectories (join store.rootDir taskId.text)).node (root ++ [taskId.text]) =
      some .directory
  rcases held.directory taskId with absent | present
  · rw [held.leads.createDirectories_of_absent plain absent]
    refine ⟨?_, if_pos rfl⟩
    have elsewhere : ∀ (other : LogTaskId) (name : String),
        root ++ [other.text] ++ [name] ≠ root ++ [taskId.text] := by
      intro other name
      simp
    exact
      { leads := held.leads.extended (FileSystem.extends_put _ (.inl absent))
        directory := by
          intro other
          by_cases same : root ++ [other.text] = root ++ [taskId.text]
          · exact .inr (if_pos same)
          · simpa only [FileSystem.put, if_neg same] using held.directory other
        metadata := by
          intro other
          simpa only [FileSystem.put, if_neg (elsewhere other _)] using held.metadata other
        stream := by
          intro other stream
          simpa only [FileSystem.put, if_neg (elsewhere other _)] using held.stream other stream }
  · rw [held.leads.createDirectories_of_present plain present]
    exact ⟨held, present⟩

variable (present : fs.node (root ++ [taskId.text]) = some .directory)

include present

/-- A file of the task is written. -/
theorem Represents.writeFile {name : String} (plain : Plain name)
    (free : fs.node (root ++ [taskId.text] ++ [name]) = none ∨
      ∃ bytes, fs.node (root ++ [taskId.text] ++ [name]) = some (.file bytes))
    (bytes : List UInt8) :
    ∃ later, fs.writeFile (join (join store.rootDir taskId.text) name) bytes = some later ∧
      fs.Extends later ∧
      ∀ location, later.node location =
        if location = root ++ [taskId.text] ++ [name] then some (.file bytes)
        else fs.node location := by
  obtain ⟨writable, written⟩ :=
    (held.leads.join taskId.plain_text present).writeFile_join plain free bytes
  exact ⟨_, written, FileSystem.extends_put writable free, fun _ => rfl⟩

/-- The metadata file holds no log. -/
theorem Represents.writeMetadata (bytes : List UInt8) :
    store.Represents root logs
      ((fs.writeFile (store.pathsForTask taskId.text).metaPath bytes).getD fs) := by
  obtain ⟨later, written, extended, node⟩ :=
    held.writeFile taskId present plain_metaName (held.metadata taskId) bytes
  rw [show (store.pathsForTask taskId.text).metaPath =
    join (join store.rootDir taskId.text) "meta.json" from rfl, written, Option.getD_some]
  exact
    { leads := held.leads.extended extended
      directory := by
        intro other
        rw [node, if_neg (by simp)]
        exact held.directory other
      metadata := by
        intro other
        rw [node]
        split
        · exact .inr ⟨bytes, rfl⟩
        · exact held.metadata other
      stream := by
        intro other stream
        rw [node, if_neg]
        · exact held.stream other stream
        · intro same
          simp only [List.append_assoc, List.append_cancel_left_eq, List.cons_append,
            List.nil_append, List.cons.injEq, and_true] at same
          exact stream.fileName_ne_meta same.2 }

theorem Represents.refreshMetadata (now : Time) :
    store.Represents root logs
      (store.refreshMetadata now taskId.text (store.pathsForTask taskId.text) fs) :=
  held.writeMetadata taskId present _

theorem Represents.writeStream (stream : LogStream) (data : ByteString) :
    ∃ later, fs.writeFile ((store.pathsForTask taskId.text).target stream.text) data.bytes =
        some later ∧
      store.Represents root (logs.insert taskId stream data) later ∧
      later.node (root ++ [taskId.text]) = some .directory := by
  obtain ⟨later, written, extended, node⟩ := held.writeFile taskId present
    stream.plain_fileName (held.free_stream taskId stream) data.bytes
  rw [store.target_pathsForTask]
  refine ⟨later, written, ?_, ?_⟩
  · exact
      { leads := held.leads.extended extended
        directory := by
          intro other
          rw [node, if_neg (by simp)]
          exact held.directory other
        metadata := by
          intro other
          rw [node, if_neg]
          · exact held.metadata other
          · intro same
            simp only [List.append_assoc, List.append_cancel_left_eq, List.cons_append,
              List.nil_append, List.cons.injEq, and_true] at same
            exact stream.fileName_ne_meta same.2.symm
        stream := by
          intro other otherStream
          rw [node]
          by_cases same : other = taskId ∧ otherStream = stream
          · obtain ⟨rfl, rfl⟩ := same
            simp [LogMap.insert]
          · rw [if_neg, held.stream]
            · simp [LogMap.insert, same]
            · intro sameLocation
              simp only [List.append_assoc, List.append_cancel_left_eq, List.cons_append,
                List.nil_append, List.cons.injEq, and_true] at sameLocation
              exact same ⟨LogTaskId.text_injective sameLocation.1,
                LogStream.fileName_injective sameLocation.2⟩ }
  · rw [node, if_neg (by simp)]
    exact present

end Tree

/-! ## Calls -/

section Calls

variable {store : LogStore} {root : Location} {logs : LogMap} {fs : FileSystem}
  (held : store.Represents root logs fs) (now : Time) (taskId : LogTaskId) (stream : LogStream)

include held

/-- What is read of a stream whose directory is there. -/
theorem Represents.readFileInternal_eq (present : fs.node (root ++ [taskId.text]) = some .directory)
    (offset : UInt64) :
    readFileInternal fs ((store.pathsForTask taskId.text).target stream.text) offset =
      logs.read taskId stream offset.toNat := by
  have located := (held.leads.join taskId.plain_text present).locate_join stream.plain_fileName
    (FileSystem.not_symlink_of_free (held.free_stream taskId stream))
  rw [store.target_pathsForTask]
  have status : fs.status (join (join store.rootDir taskId.text) stream.fileName) =
      (logs taskId stream).map fun data => .file data.bytes := by
    rw [FileSystem.status, located, Option.bind_some, held.stream taskId stream]
  unfold readFileInternal LogMap.read FileSystem.fileExists FileSystem.fileSize
    FileSystem.readFile
  cases found : logs taskId stream with
  | none => simp [status, found]
  | some data =>
      have size := data.size_lt
      have whole : data.bytes.length % 2 ^ 64 = data.bytes.length :=
        Nat.mod_eq_of_lt (by omega)
      simp only [status, found, Option.map_some, Option.isSome_some, if_true, Option.getD_some,
        whole]
      by_cases inside : offset.toNat < data.bytes.length
      · have position : streamoff offset.toNat = offset.toNat := if_pos (by omega)
        rw [if_pos inside, position]
        simp [readFrom]
      · rw [if_neg inside, List.drop_of_length_le (by omega)]

theorem Represents.readInternal (offset : UInt64) :
    (store.readInternal now taskId.text stream.text offset fs).1 =
        logs.read taskId stream offset.toNat ∧
      store.Represents root logs
        (store.readInternal now taskId.text stream.text offset fs).2 := by
  obtain ⟨prepared, present⟩ := held.createDirectories taskId
  unfold LogStore.readInternal
  simp only [held.pathsWithinRoot taskId, if_true]
  exact ⟨prepared.readFileInternal_eq taskId stream present offset,
    prepared.refreshMetadata taskId present now⟩

theorem Represents.writeAll (data : ByteString) :
    (store.writeAll now taskId.text stream.text data fs).1 = true ∧
      store.Represents root (logs.insert taskId stream data)
        (store.writeAll now taskId.text stream.text data fs).2 := by
  obtain ⟨prepared, present⟩ := held.createDirectories taskId
  obtain ⟨later, written, stored, still⟩ := prepared.writeStream taskId present stream data
  have whole : data.bytes.take (streamoff data.bytes.length).toNat = data.bytes := by
    rw [show streamoff data.bytes.length = data.bytes.length from if_pos data.size_lt]
    simp
  unfold LogStore.writeAll
  simp only [held.pathsWithinRoot taskId, if_true, whole, written]
  exact ⟨trivial, stored.refreshMetadata taskId still now⟩

omit now taskId stream

/-- Every call answers like the map and leaves the tree of the map that it leaves. -/
theorem Represents.answer (call : LogCall) :
    (store.answer fs call).1 = (logs.answer call).1 ∧
      store.Represents root (logs.answer call).2 (store.answer fs call).2 := by
  cases call with
  | writeAll now taskId stream data =>
      obtain ⟨stored, still⟩ := held.writeAll now taskId stream data
      exact ⟨congrArg LogResult.written stored, still⟩
  | readAll now taskId stream =>
      obtain ⟨result, still⟩ := held.readInternal now taskId stream 0
      exact ⟨congrArg LogResult.read result, still⟩
  | readFromOffset now taskId stream offset =>
      obtain ⟨result, still⟩ := held.readInternal now taskId stream offset
      exact ⟨congrArg LogResult.read result, still⟩

end Calls

end LogStore

/-- The tree after a call. -/
def LogStore.after (store : LogStore) (fs : FileSystem) (call : LogCall) : FileSystem :=
  (store.answer fs call).2

/-- What a call writes to a stream. -/
def LogCall.writeTo (taskId : LogTaskId) (stream : LogStream) : LogCall → Option ByteString
  | .writeAll _ other otherStream data =>
      if other = taskId ∧ otherStream = stream then some data else none
  | _ => none

section Runs

variable {store : LogStore} {root : Location}

theorem LogStore.Represents.run {logs : LogMap} {fs : FileSystem}
    (held : store.Represents root logs fs) (calls : List LogCall) :
    store.Represents root (TransitionRuns.run (fun logs call => (logs.answer call).2) logs calls)
      (TransitionRuns.run store.after fs calls) := by
  induction calls generalizing logs fs with
  | nil => exact held
  | cons call calls ih => exact ih (held.answer call).2

/-- A map holds of every stream what was written to it last. -/
theorem LogMap.run_apply (logs : LogMap) (calls : List LogCall) (taskId : LogTaskId)
    (stream : LogStream) :
    TransitionRuns.run (fun logs call => (logs.answer call).2) logs calls taskId stream =
      ((calls.filterMap (LogCall.writeTo taskId stream)).getLast?).or (logs taskId stream) := by
  induction calls generalizing logs with
  | nil => rfl
  | cons call calls ih =>
      rw [run_cons, ih]
      cases call with
      | writeAll now other otherStream data =>
          by_cases same : taskId = other ∧ stream = otherStream
          · have written : LogCall.writeTo taskId stream (.writeAll now other otherStream data) =
                some data := if_pos ⟨same.1.symm, same.2.symm⟩
            rw [List.filterMap_cons, written, List.getLast?_cons]
            simp only [LogMap.answer, LogMap.insert, if_pos same]
            cases (calls.filterMap (LogCall.writeTo taskId stream)).getLast? <;> rfl
          · have skipped : LogCall.writeTo taskId stream (.writeAll now other otherStream data) =
                none := if_neg fun equal => same ⟨equal.1.symm, equal.2.symm⟩
            rw [List.filterMap_cons, skipped]
            simp only [LogMap.answer, LogMap.insert, if_neg same]
      | readAll now other otherStream => rfl
      | readFromOffset now other otherStream offset => rfl

/-- From an empty root directory on, the store answers every sequence of calls like the map,
and a read finds what was written to its own stream last. -/
theorem log_store_refines_map {fs : FileSystem} (vacant : store.EmptyRoot root fs)
    (calls : List LogCall) :
    outputs store.answer fs calls = outputs LogMap.answer LogMap.empty calls ∧
      ∀ taskId stream now offset,
        let later := TransitionRuns.run store.after fs calls
        let last := (calls.filterMap (LogCall.writeTo taskId stream)).getLast?
        (store.readAll now taskId.text stream.text later).1 =
            (match last with
            | none => {}
            | some data =>
                { data := data.bytes, sizeBytes := data.bytes.length, fileExists := true }) ∧
          (store.readFromOffset now taskId.text stream.text offset later).1 =
            (match last with
            | none => {}
            | some data =>
                { data := data.bytes.drop offset.toNat
                  sizeBytes := data.bytes.length
                  fileExists := true }) := by
  let rel : FileSystem → LogMap → Prop := fun fs logs => store.Represents root logs fs
  have simulates : ∀ fs logs call, rel fs logs →
      (store.answer fs call).1 = (LogMap.answer logs call).1 ∧
        rel (store.answer fs call).2 (LogMap.answer logs call).2 :=
    fun _ _ call held => LogStore.Represents.answer held call
  refine ⟨outputs_eq_of_simulation simulates vacant.represents calls, ?_⟩
  intro taskId stream now offset later last
  have held := vacant.represents.run calls
  have holds : TransitionRuns.run (fun logs call => (LogMap.answer logs call).2) LogMap.empty calls
      taskId stream = last := by
    rw [LogMap.run_apply]
    exact Option.or_none
  refine ⟨(held.readInternal now taskId stream 0).1.trans ?_,
    (held.readInternal now taskId stream offset).1.trans ?_⟩
  · rw [LogMap.read, holds]
    rfl
  · rw [LogMap.read, holds]

end Runs

/-- The directories of a fresh installation. -/
def freshTree : FileSystem where
  node location := if location <+: ["srv", "logs"] then some .directory else none
  workingDirectory := ["srv"]
  rootNode := by simp
  parentNode := by
    intro location name present
    have reached : location ++ [name] <+: ["srv", "logs"] := by
      by_contra beyond
      exact present (if_neg beyond)
    exact if_pos ((List.prefix_append location [name]).trans reached)
  workingNode := by simp

theorem emptyRoot_freshTree (dump : Json → List UInt8) :
    LogStore.EmptyRoot { rootDir := "logs", dump := dump } ["srv", "logs"] freshTree := by
  constructor
  · constructor
    · have single : names "logs" = ["logs"] := by decide
      simp [FileSystem.locate, FileSystem.base, single, isAbsolute, FileSystem.resolve,
        freshTree]
    · simp [freshTree]
  · intro names nonempty
    cases names with
    | nil => exact absurd rfl nonempty
    | cons name names => simp [freshTree]

/-- Two streams of two tasks, one of them written twice. -/
theorem log_store_refines_map_overwrittenLog :
    let store : LogStore := { rootDir := "logs", dump := fun _ => [123, 125] }
    let calls : List LogCall :=
      [.writeAll 0 ⟨7, by decide⟩ .stdout ⟨[104, 105], by decide⟩,
        .writeAll 1 ⟨8, by decide⟩ .stderr ⟨[110, 111], by decide⟩,
        .writeAll 2 ⟨7, by decide⟩ .stdout ⟨[100, 111, 110, 101], by decide⟩,
        .readFromOffset 3 ⟨7, by decide⟩ .stdout 2,
        .readAll 4 ⟨8, by decide⟩ .stderr,
        .readAll 5 ⟨8, by decide⟩ .stdout]
    outputs store.answer freshTree calls =
        [.written true, .written true, .written true,
          .read { data := [110, 101], sizeBytes := 4, fileExists := true },
          .read { data := [110, 111], sizeBytes := 2, fileExists := true },
          .read {}] ∧
      (store.readFromOffset 6 "7" "stdout" 3 (run store.after freshTree calls)).1 =
        { data := [101], sizeBytes := 4, fileExists := true } := by
  intro store calls
  obtain ⟨answers, reads⟩ :=
    log_store_refines_map (emptyRoot_freshTree fun _ => [123, 125]) calls
  exact ⟨answers, (reads ⟨7, by decide⟩ .stdout 6 3).2⟩

end DistributedComputing
