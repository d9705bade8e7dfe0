import DistributedComputing.ByteTexts
import DistributedComputing.Trimming
import DistributedComputing.Utf8

/-!
# Env files

The two readers of env files: `LoadEnvFileToEnv`, which the master and the worker have word by
word alike, and `parse_env_file`, which both migration scripts have.  The first works on the bytes
of the file, the second on the text that they encode.
-/

namespace DistributedComputing

namespace EnvFile

/-! ## Master and worker -/

def isEnvBlank (value : UInt8) : Bool :=
  value ∈ ascii " \t\r\n"

def trimWhitespace (value : Bytes) : Bytes :=
  trim isEnvBlank value

/-- `setenv` takes C strings, and no name that is empty or holds a `=`. -/
def setEnvVar (key value : Bytes) : Option (Bytes × Bytes) :=
  if cString key = [] ∨ byte '=' ∈ cString key then none else some (cString key, cString value)

/-- What one line asks for. -/
inductive EnvLine
  | skipped
  | missingEquals
  | emptyKey
  | binding (key value : Bytes)

def readEnvLine (line : Bytes) : EnvLine :=
  let trimmed := trimWhitespace line
  if trimmed = [] ∨ trimmed.head? = some (byte '#') then .skipped
  else
    (cut (byte '=') trimmed).elim .missingEquals fun parts =>
      let key := trimWhitespace parts.1
      if key = [] then .emptyKey else .binding key (trimWhitespace parts.2)

/-- Why a file is not accepted, with the number of the line. -/
inductive EnvFileError
  | missingEquals (lineNo : Nat)
  | emptyKey (lineNo : Nat)
  | notSet (lineNo : Nat) (key : Bytes)

def EnvFileError.text : EnvFileError → Bytes
  | .missingEquals lineNo => ascii s!"Invalid env line {lineNo}: missing '='"
  | .emptyKey lineNo => ascii s!"Invalid env line {lineNo}: empty key"
  | .notSet lineNo key => ascii s!"Failed to set env var from line {lineNo}: " ++ key

/-- The variables that are set, in their order, and the error that ends the loop. -/
structure Loaded where
  bindings : List (Bytes × Bytes)
  error : Option EnvFileError

def Loaded.fail (error : EnvFileError) : Loaded where
  bindings := []
  error := some error

def Loaded.set (binding : Bytes × Bytes) (rest : Loaded) : Loaded where
  bindings := binding :: rest.bindings
  error := rest.error

/-- The loop over the lines. -/
def loadLines : List Bytes → Nat → Loaded
  | [], _ => ⟨[], none⟩
  | line :: lines, lineNo =>
      match readEnvLine line with
      | .skipped => loadLines lines (lineNo + 1)
      | .missingEquals => .fail (.missingEquals lineNo)
      | .emptyKey => .fail (.emptyKey lineNo)
      | .binding key value =>
          (setEnvVar key value).elim (.fail (.notSet lineNo key)) fun binding =>
            (loadLines lines (lineNo + 1)).set binding

/-- `LoadEnvFileToEnv` on a file that can be opened.  The last line, which ends without a line
feed, may be empty here: such a line asks for nothing. -/
def loadEnvFileToEnv (content : Bytes) : Loaded :=
  loadLines (content.splitOn (byte '\n')) 1

/-! ## Migration scripts -/

/-- The bytes of a text in UTF-8. -/
def encode (text : List Char) : Bytes :=
  text.flatMap String.utf8EncodeChar

/-- The text of a file that is opened as UTF-8. -/
def decode (content : Bytes) : Option (List Char) :=
  (String.fromUTF8? content.toByteArray).map String.toList

/-- `str.isspace` of one character. -/
def isPySpace (char : Char) : Bool :=
  let value := char.toNat
  (9 ≤ value && value ≤ 13) || (28 ≤ value && value ≤ 32) || value == 0x85 || value == 0xA0 ||
    value == 0x1680 || (0x2000 ≤ value && value ≤ 0x200A) || value == 0x2028 ||
    value == 0x2029 || value == 0x202F || value == 0x205F || value == 0x3000

/-- `str.strip` without an argument. -/
def strip (text : List Char) : List Char :=
  trim isPySpace text

/-- `val.strip("'").strip('"')`. -/
def stripQuotes (text : List Char) : List Char :=
  trim (· == '"') (trim (· == '\'') text)

/-- The line feeds that text mode makes of all line ends. -/
def universalNewlines : List Char → List Char
  | [] => []
  | '\r' :: '\n' :: text => '\n' :: universalNewlines text
  | '\r' :: text => '\n' :: universalNewlines text
  | char :: text => char :: universalNewlines text

def exportWord : List Char :=
  "export ".toList

/-- A line without the word before it. -/
def dropExport (line : List Char) : List Char :=
  if exportWord <+: line then line.drop exportWord.length else line

/-- The body of the loop over the lines. -/
def parseEnvLine (raw : List Char) : Option (List Char × List Char) :=
  let line := strip raw
  if line = [] ∨ line.head? = some '#' then none
  else (cut '=' (dropExport line)).map fun parts => (strip parts.1, stripQuotes (strip parts.2))

/-- `parse_env_file` on a file that exists: the entries in the order in which they are stored, and
none when the file is not UTF-8. -/
def parseEnvFile (content : Bytes) : Option (List (List Char × List Char)) :=
  (decode content).map fun text =>
    ((universalNewlines text).splitOn '\n').filterMap parseEnvLine

end EnvFile

end DistributedComputing
