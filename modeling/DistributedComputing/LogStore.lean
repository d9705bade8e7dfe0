import DistributedComputing.FileSystem
import DistributedComputing.IsoTime
import DistributedComputing.JsonValue

/-!
# The log store of the master

The logs of a task are two files in a directory of its own, next to a file with metadata
that every call writes again.
-/

namespace DistributedComputing

/-- A `std::string`, whose size fits a signed 64-bit number. -/
structure ByteString where
  bytes : List UInt8
  size_lt : bytes.length < 2 ^ 63

/-- `static_cast<std::streamoff>` of an unsigned 64-bit number. -/
def streamoff (offset : Nat) : Int :=
  if offset < 2 ^ 63 then offset else offset - 2 ^ 64

/-- What a stream reads after `seekg`.  A seek that fails does not move it. -/
def readFrom (position : Int) (bytes : List UInt8) : List UInt8 :=
  if 0 ≤ position then bytes.drop position.toNat else bytes

structure ReadResult where
  data : List UInt8 := []
  sizeBytes : Nat := 0
  fileExists : Bool := false
  deriving DecidableEq

def readFileInternal (fs : FileSystem) (path : String) (offset : UInt64) : ReadResult :=
  if fs.fileExists path then
    let sizeBytes := (fs.fileSize path).getD 0 % 2 ^ 64
    if offset.toNat < sizeBytes then
      match fs.readFile path with
      | none => { sizeBytes := sizeBytes, fileExists := true }
      | some bytes =>
          { data := readFrom (streamoff offset.toNat) bytes
            sizeBytes := sizeBytes
            fileExists := true }
    else { sizeBytes := sizeBytes, fileExists := true }
  else {}

/-- The store on its root directory, and how it renders a JSON document. -/
structure LogStore where
  rootDir : String
  dump : Json → List UInt8

structure LogPaths where
  dir : String
  stdoutPath : String
  stderrPath : String
  metaPath : String

def LogPaths.target (paths : LogPaths) (stream : String) : String :=
  if stream = "stderr" then paths.stderrPath else paths.stdoutPath

namespace LogStore

open PathText

variable (store : LogStore)

def isPathWithinRoot (fs : FileSystem) (path : String) : Bool :=
  match fs.weaklyCanonical store.rootDir, fs.weaklyCanonical path with
  | some root, some candidate => root.isPrefixOf candidate
  | _, _ => false

def pathsForTask (taskId : String) : LogPaths :=
  let dir := join store.rootDir taskId
  { dir := dir
    stdoutPath := join dir "stdout.log"
    stderrPath := join dir "stderr.log"
    metaPath := join dir "meta.json" }

/-- The check that the reads and the writes make before anything else. -/
def pathsWithinRoot (fs : FileSystem) (paths : LogPaths) : Bool :=
  store.isPathWithinRoot fs paths.dir && store.isPathWithinRoot fs paths.stdoutPath &&
    store.isPathWithinRoot fs paths.stderrPath && store.isPathWithinRoot fs paths.metaPath

/-- The metadata of one stream. -/
def metaEntry (fs : FileSystem) (path : String) : Json :=
  .object
    [("pathpp", .string path), ("exists", .boolean (fs.fileExists path)),
      ("size_bytes", .integer
        (if fs.fileExists path then ((fs.fileSize path).getD (2 ^ 64 - 1) : Nat) else 0))]

/-- Write the metadata file, if it can be opened. -/
def refreshMetadata (now : Time) (taskId : String) (paths : LogPaths) (fs : FileSystem) :
    FileSystem :=
  let document := Json.object
    [("task_id", .string taskId), ("root_dir", .string store.rootDir),
      ("updated_at", .string (IsoTime.isoUtc now)),
      ("stdout", metaEntry fs paths.stdoutPath), ("stderr", metaEntry fs paths.stderrPath)]
  (fs.writeFile paths.metaPath (store.dump document)).getD fs

def writeAll (now : Time) (taskId stream : String) (data : ByteString) (fs : FileSystem) :
    Bool × FileSystem :=
  let paths := store.pathsForTask taskId
  if store.pathsWithinRoot fs paths then
    let prepared := fs.createDirectories paths.dir
    let written := data.bytes.take (streamoff data.bytes.length).toNat
    match prepared.writeFile (paths.target stream) written with
    | none => (false, prepared)
    | some later => (true, store.refreshMetadata now taskId paths later)
  else (false, fs)

def readInternal (now : Time) (taskId stream : String) (offset : UInt64) (fs : FileSystem) :
    ReadResult × FileSystem :=
  let paths := store.pathsForTask taskId
  if store.pathsWithinRoot fs paths then
    let prepared := fs.createDirectories paths.dir
    (readFileInternal prepared (paths.target stream) offset,
      store.refreshMetadata now taskId paths prepared)
  else ({}, fs)

def readAll (now : Time) (taskId stream : String) (fs : FileSystem) : ReadResult × FileSystem :=
  store.readInternal now taskId stream 0 fs

def readFromOffset (now : Time) (taskId stream : String) (offset : UInt64) (fs : FileSystem) :
    ReadResult × FileSystem :=
  store.readInternal now taskId stream offset fs

end LogStore

end DistributedComputing
