import Mathlib.Data.List.Basic

/-!
# File systems with links

A file system is a tree of directories, files and symbolic links.  A path is a text, and
the operations on paths follow the names in it from the root or from the working
directory, through links, as `std::filesystem` and the streams do.
-/

namespace DistributedComputing

inductive FileNode
  | directory
  | file (bytes : List UInt8)
  | symlink (target : String)
  deriving DecidableEq

/-- The names on the way from the root of the tree. -/
abbrev Location :=
  List String

structure FileSystem where
  node : Location → Option FileNode
  workingDirectory : Location
  rootNode : node [] = some .directory
  parentNode : ∀ location name, node (location ++ [name]) ≠ none →
    node location = some .directory
  workingNode : node workingDirectory = some .directory

/-! ## Paths -/

namespace PathText

/-- The names between the separators of a path. -/
def names (path : String) : List String :=
  ((path.toList.splitOn '/').filter fun name => !name.isEmpty).map String.ofList

def isAbsolute (path : String) : Bool :=
  decide (path.toList.head? = some '/')

/-- `operator/` of paths: a separator goes between them unless the first ends with one. -/
def join (path name : String) : String :=
  if isAbsolute name then name
  else if path = "" ∨ path.toList.getLast? = some '/' then path ++ name
  else path ++ "/" ++ name

/-- A name that stands for an entry of a directory. -/
structure Plain (name : String) : Prop where
  nonempty : name ≠ ""
  noSeparator : '/' ∉ name.toList
  notDot : name ≠ "."
  notDotDot : name ≠ ".."

section Join

variable {name : String} (plain : Plain name) (path : String)

include plain

theorem Plain.toList_ne_nil : name.toList ≠ [] := by
  intro empty
  exact plain.nonempty (String.toList_eq_nil_iff.mp empty)

theorem Plain.not_absolute : isAbsolute name = false := by
  unfold isAbsolute
  rw [decide_eq_false_iff_not]
  intro first
  exact plain.noSeparator (List.mem_of_mem_head? first)

theorem names_of_plain :
    ((name.toList.splitOn '/').filter fun name => !name.isEmpty).map String.ofList = [name] := by
  rw [List.splitOn_eq_singleton plain.noSeparator]
  have nonempty := plain.toList_ne_nil
  simp [nonempty]

theorem names_join : names (join path name) = names path ++ [name] := by
  have single := names_of_plain plain
  unfold join names
  rw [if_neg (by simp [plain.not_absolute])]
  split
  · rename_i ends
    rcases ends with rfl | last
    · simpa using single
    · obtain ⟨front, split⟩ : ∃ front, path.toList = front ++ ['/'] :=
        List.getLast?_eq_some_iff.mp last
      have whole : (path ++ name).toList = front ++ '/' :: name.toList := by
        simp [split]
      have alone : path.toList = front ++ '/' :: [] := split
      rw [whole, alone, List.splitOn_append_cons_self, List.splitOn_append_cons_self]
      simpa using single
  · have whole : (path ++ "/" ++ name).toList = path.toList ++ '/' :: name.toList := by
      simp
    rw [whole, List.splitOn_append_cons_self]
    simpa using single

theorem isAbsolute_join : isAbsolute (join path name) = isAbsolute path := by
  have relative := plain.not_absolute
  unfold join
  rw [if_neg (by simp [relative])]
  by_cases empty : path = ""
  · subst empty
    simpa [isAbsolute] using relative
  · obtain ⟨first, rest, split⟩ : ∃ first rest, path.toList = first :: rest := by
      apply List.exists_cons_of_ne_nil
      intro noChars
      exact empty (String.toList_eq_nil_iff.mp noChars)
    split <;> simp [isAbsolute, split]

theorem join_ne_empty : join path name ≠ "" := by
  have relative := plain.not_absolute
  have nonempty := plain.nonempty
  unfold join
  rw [if_neg (by simp [relative])]
  split <;> simp [nonempty]

end Join

end PathText

open PathText

namespace FileSystem

/-! ## Following names -/

/-- How many links the resolution of one path follows. -/
def maxLinks : Nat :=
  40

/-- Follow names from a directory.  All but the last must be names of directories, and the
last may be the name of an entry that is yet to be made. -/
def resolve (fs : FileSystem) (links : Nat) (current : Location) : List String → Option Location
  | [] => some current
  | name :: rest =>
      if name = "." then fs.resolve links current rest
      else if name = ".." then fs.resolve links current.dropLast rest
      else
        match fs.node (current ++ [name]) with
        | some .directory => fs.resolve links (current ++ [name]) rest
        | some (.file _) => if rest = [] then some (current ++ [name]) else none
        | none => if rest = [] then some (current ++ [name]) else none
        | some (.symlink target) =>
            match links with
            | 0 => none
            | links + 1 =>
                fs.resolve links (if isAbsolute target then [] else current)
                  (names target ++ rest)
termination_by names => (links, names.length)

/-- Where the names of a path are looked up first. -/
def base (fs : FileSystem) (path : String) : Location :=
  if isAbsolute path then [] else fs.workingDirectory

def locate (fs : FileSystem) (path : String) : Option Location :=
  if path = "" then none else fs.resolve maxLinks (fs.base path) (names path)

/-- What a path leads to. -/
def status (fs : FileSystem) (path : String) : Option FileNode :=
  (fs.locate path).bind fs.node

def fileExists (fs : FileSystem) (path : String) : Bool :=
  (fs.status path).isSome

/-- `file_size`, which fails for anything but a file. -/
def fileSize (fs : FileSystem) (path : String) : Option Nat :=
  match fs.status path with
  | some (.file bytes) => some bytes.length
  | _ => none

/-- What a stream that is opened for reading reads. -/
def readFile (fs : FileSystem) (path : String) : Option (List UInt8) :=
  match fs.status path with
  | some (.file bytes) => some bytes
  | _ => none

/-- Append names without looking at the tree. -/
def lexicallyNormal (location : Location) (rest : List String) : Location :=
  rest.foldl (fun location name =>
    if name = "." then location
    else if name = ".." then location.dropLast
    else location ++ [name]) location

/-- Follow names as long as they exist, and append the others. -/
def canonicalize (fs : FileSystem) (start : Location) :
    List String → List String → Option Location
  | known, [] => fs.resolve maxLinks start known
  | known, name :: rest =>
      if ((fs.resolve maxLinks start (known ++ [name])).bind fs.node).isSome then
        fs.canonicalize start (known ++ [name]) rest
      else (fs.resolve maxLinks start known).map fun location =>
        lexicallyNormal location (name :: rest)

/-- `std::filesystem::weakly_canonical`.  The result is absolute.  Where the first component of
a relative path does not exist, the library may leave the path relative, which is outside of
this model. -/
def weaklyCanonical (fs : FileSystem) (path : String) : Option Location :=
  fs.canonicalize (fs.base path) [] (names path)

/-! ## Changing the tree -/

/-- A file or a directory may be put where no directory is, inside of a directory. -/
def Writable (fs : FileSystem) (location : Location) : Prop :=
  location ≠ [] ∧ fs.node location.dropLast = some .directory ∧
    fs.node location ≠ some .directory

instance (fs : FileSystem) (location : Location) : Decidable (fs.Writable location) :=
  inferInstanceAs (Decidable (_ ∧ _ ∧ _))

def put (fs : FileSystem) (location : Location) (node : FileNode)
    (writable : fs.Writable location) : FileSystem where
  node other := if other = location then some node else fs.node other
  workingDirectory := fs.workingDirectory
  rootNode := by
    rw [if_neg writable.1.symm]
    exact fs.rootNode
  parentNode := by
    intro parent name present
    have elsewhere : fs.node parent = some .directory → parent ≠ location := by
      rintro isDirectory rfl
      exact writable.2.2 isDirectory
    by_cases same : parent ++ [name] = location
    · have isParent : fs.node parent = some .directory := by
        have held := writable.2.1
        rwa [← same, List.dropLast_concat] at held
      rw [if_neg (elsewhere isParent)]
      exact isParent
    · rw [if_neg same] at present
      have isParent := fs.parentNode parent name present
      rw [if_neg (elsewhere isParent)]
      exact isParent
  workingNode := by
    have held := fs.workingNode
    rw [if_neg]
    · exact held
    · rintro same
      rw [same] at held
      exact writable.2.2 held

/-- Truncate or create the file at a path and write to it. -/
def writeFile (fs : FileSystem) (path : String) (bytes : List UInt8) : Option FileSystem :=
  match fs.locate path with
  | none => none
  | some location =>
      if writable : fs.Writable location then some (fs.put location (.file bytes) writable)
      else none

/-- Make the directory that the names lead to unless there is something. -/
def makeDirectory (fs : FileSystem) (start : Location) (path : List String) : FileSystem :=
  match fs.resolve maxLinks start path with
  | none => fs
  | some location =>
      if writable : fs.Writable location ∧ fs.node location = none then
        fs.put location .directory writable.1
      else fs

/-- Make a directory for every name of a path in turn. -/
def makeDirectories (fs : FileSystem) (start : Location) : List String → List String → FileSystem
  | _, [] => fs
  | known, name :: rest =>
      (fs.makeDirectory start (known ++ [name])).makeDirectories start (known ++ [name]) rest

def createDirectories (fs : FileSystem) (path : String) : FileSystem :=
  fs.makeDirectories (fs.base path) [] (names path)

/-! ## Resolution -/

section Resolution

variable {fs : FileSystem}

theorem node_dropLast {location : Location} (isDirectory : fs.node location = some .directory) :
    fs.node location.dropLast = some .directory := by
  rcases List.eq_nil_or_concat location with rfl | ⟨front, last, rfl⟩
  · exact isDirectory
  · rw [List.concat_eq_append] at isDirectory ⊢
    rw [List.dropLast_concat]
    exact fs.parentNode front last (by simp [isDirectory])

theorem node_base (path : String) : fs.node (fs.base path) = some .directory := by
  unfold base
  split
  · exact fs.rootNode
  · exact fs.workingNode

/-- After names that lead to a directory, resolution goes on there. -/
theorem exists_resolve_append {links : Nat} {current location : Location} {path : List String}
    (resolved : fs.resolve links current path = some location)
    (isDirectory : fs.node location = some .directory) (more : List String) :
    ∃ left, fs.resolve links current (path ++ more) = fs.resolve left location more := by
  fun_induction resolve fs links current path with
  | case1 links current =>
      cases resolved
      exact ⟨links, rfl⟩
  | case2 links current rest ih =>
      obtain ⟨left, equal⟩ := ih resolved
      refine ⟨left, ?_⟩
      rw [List.cons_append, resolve, if_pos rfl, equal]
  | case3 links current rest notDot ih =>
      obtain ⟨left, equal⟩ := ih resolved
      refine ⟨left, ?_⟩
      rw [List.cons_append, resolve, if_neg notDot, if_pos rfl, equal]
  | case4 links current name rest notDot notDotDot entry ih =>
      obtain ⟨left, equal⟩ := ih resolved
      refine ⟨left, ?_⟩
      rw [List.cons_append, resolve, if_neg notDot, if_neg notDotDot, entry]
      exact equal
  | case5 links current name notDot notDotDot bytes entry =>
      cases resolved
      rw [entry] at isDirectory
      cases isDirectory
  | case6 => cases resolved
  | case7 links current name notDot notDotDot entry =>
      cases resolved
      rw [entry] at isDirectory
      cases isDirectory
  | case8 => cases resolved
  | case9 => cases resolved
  | case10 current name rest notDot notDotDot target entry links ih =>
      obtain ⟨left, equal⟩ := ih resolved
      refine ⟨left, ?_⟩
      rw [List.cons_append, resolve, if_neg notDot, if_neg notDotDot, entry]
      simpa using equal

/-- Names that lead to a directory lead through directories only. -/
theorem exists_resolve_prefix {links : Nat} {current location : Location}
    (isStart : fs.node current = some .directory) {path more : List String}
    (resolved : fs.resolve links current (path ++ more) = some location)
    (isDirectory : fs.node location = some .directory) :
    ∃ middle, fs.resolve links current path = some middle ∧
      fs.node middle = some .directory := by
  fun_induction resolve fs links current path with
  | case1 links current => exact ⟨current, rfl, isStart⟩
  | case2 links current rest ih =>
      rw [List.cons_append, resolve, if_pos rfl] at resolved
      exact ih isStart resolved
  | case3 links current rest notDot ih =>
      rw [List.cons_append, resolve, if_neg notDot, if_pos rfl] at resolved
      exact ih (node_dropLast isStart) resolved
  | case4 links current name rest notDot notDotDot entry ih =>
      rw [List.cons_append, resolve, if_neg notDot, if_neg notDotDot, entry] at resolved
      exact ih entry resolved
  | case5 links current name notDot notDotDot bytes entry =>
      rw [List.cons_append, resolve, if_neg notDot, if_neg notDotDot, entry] at resolved
      simp only [List.nil_append] at resolved
      split at resolved <;> cases resolved
      rw [entry] at isDirectory
      cases isDirectory
  | case6 links current name rest notDot notDotDot bytes entry more =>
      rw [List.cons_append, resolve, if_neg notDot, if_neg notDotDot, entry] at resolved
      simp [more] at resolved
  | case7 links current name notDot notDotDot entry =>
      rw [List.cons_append, resolve, if_neg notDot, if_neg notDotDot, entry] at resolved
      simp only [List.nil_append] at resolved
      split at resolved <;> cases resolved
      rw [entry] at isDirectory
      cases isDirectory
  | case8 links current name rest notDot notDotDot entry more =>
      rw [List.cons_append, resolve, if_neg notDot, if_neg notDotDot, entry] at resolved
      simp [more] at resolved
  | case9 current name rest notDot notDotDot target entry =>
      rw [List.cons_append, resolve, if_neg notDot, if_neg notDotDot, entry] at resolved
      cases resolved
  | case10 current name rest notDot notDotDot target entry links ih =>
      rw [List.cons_append, resolve, if_neg notDot, if_neg notDotDot, entry] at resolved
      refine ih ?_ (by simpa using resolved)
      split
      · exact fs.rootNode
      · exact isStart

/-- The directories and links of one tree are in the other. -/
structure Extends (fs later : FileSystem) : Prop where
  workingDirectory : later.workingDirectory = fs.workingDirectory
  node : ∀ location node, fs.node location = some node → (∀ bytes, node ≠ .file bytes) →
    later.node location = some node

/-- What leads to a directory goes on to lead there. -/
theorem Extends.resolve {later : FileSystem} (extended : fs.Extends later) {links : Nat}
    {current location : Location} {path : List String}
    (resolved : fs.resolve links current path = some location)
    (isDirectory : fs.node location = some .directory) :
    later.resolve links current path = some location := by
  fun_induction FileSystem.resolve fs links current path with
  | case1 links current => rwa [FileSystem.resolve]
  | case2 links current rest ih =>
      rw [FileSystem.resolve, if_pos rfl]
      exact ih resolved
  | case3 links current rest notDot ih =>
      rw [FileSystem.resolve, if_neg notDot, if_pos rfl]
      exact ih resolved
  | case4 links current name rest notDot notDotDot entry ih =>
      rw [FileSystem.resolve, if_neg notDot, if_neg notDotDot,
        extended.node _ _ entry (by simp)]
      exact ih resolved
  | case5 links current name notDot notDotDot bytes entry =>
      cases resolved
      rw [entry] at isDirectory
      cases isDirectory
  | case6 => cases resolved
  | case7 links current name notDot notDotDot entry =>
      cases resolved
      rw [entry] at isDirectory
      cases isDirectory
  | case8 => cases resolved
  | case9 => cases resolved
  | case10 current name rest notDot notDotDot target entry links ih =>
      rw [FileSystem.resolve, if_neg notDot, if_neg notDotDot,
        extended.node _ _ entry (by simp)]
      exact ih resolved

theorem extends_put {location : Location} {node : FileNode} (writable : fs.Writable location)
    (free : fs.node location = none ∨ ∃ bytes, fs.node location = some (.file bytes)) :
    fs.Extends (fs.put location node writable) where
  workingDirectory := rfl
  node other held found noFile := by
    have elsewhere : other ≠ location := by
      rintro rfl
      rcases free with absent | ⟨bytes, isFile⟩
      · rw [absent] at found
        cases found
      · rw [isFile] at found
        cases found
        exact noFile bytes rfl
    exact (if_neg elsewhere).trans found

end Resolution

/-! ## Entries of a directory -/

/-- A path leads to a directory. -/
structure LeadsTo (fs : FileSystem) (path : String) (location : Location) : Prop where
  located : fs.locate path = some location
  isDirectory : fs.node location = some .directory

section Entries

variable {fs : FileSystem} {path : String} {location : Location}
  (leads : fs.LeadsTo path location) {name : String} (plain : Plain name)

theorem not_symlink_of_free {entry : Option FileNode}
    (free : entry = none ∨ ∃ bytes, entry = some (.file bytes)) (target : String) :
    entry ≠ some (.symlink target) := by
  rcases free with rfl | ⟨bytes, rfl⟩ <;> simp

theorem LeadsTo.extended {later : FileSystem} (leads : fs.LeadsTo path location)
    (extended : fs.Extends later) : later.LeadsTo path location where
  located := by
    have located := leads.located
    unfold locate at located ⊢
    split at located
    · cases located
    · rename_i nonempty
      rw [if_neg nonempty, base, extended.workingDirectory]
      exact extended.resolve located leads.isDirectory
  isDirectory := extended.node _ _ leads.isDirectory (by simp)

include leads in
theorem LeadsTo.resolved : fs.resolve maxLinks (fs.base path) (names path) = some location := by
  have located := leads.located
  unfold locate at located
  split at located
  · cases located
  · exact located

include plain

theorem base_join : fs.base (join path name) = fs.base path := by
  rw [base, isAbsolute_join plain, base]

theorem resolve_entry (links : Nat)
    (notLink : ∀ target, fs.node (location ++ [name]) ≠ some (.symlink target)) :
    fs.resolve links location [name] = some (location ++ [name]) := by
  rw [resolve, if_neg plain.notDot, if_neg plain.notDotDot]
  cases entry : fs.node (location ++ [name]) with
  | none => rfl
  | some node =>
      cases node with
      | directory => simp [resolve]
      | file bytes => rfl
      | symlink target => exact absurd entry (notLink target)

theorem lexicallyNormal_cons (rest : List String) :
    lexicallyNormal location (name :: rest) = lexicallyNormal (location ++ [name]) rest := by
  simp [lexicallyNormal, plain.notDot, plain.notDotDot]

include leads

theorem LeadsTo.resolve_join
    (notLink : ∀ target, fs.node (location ++ [name]) ≠ some (.symlink target)) :
    fs.resolve maxLinks (fs.base path) (names path ++ [name]) = some (location ++ [name]) := by
  obtain ⟨left, equal⟩ := exists_resolve_append leads.resolved leads.isDirectory [name]
  rw [equal]
  exact resolve_entry plain left notLink

theorem LeadsTo.locate_join
    (notLink : ∀ target, fs.node (location ++ [name]) ≠ some (.symlink target)) :
    fs.locate (PathText.join path name) = some (location ++ [name]) := by
  rw [locate, if_neg (join_ne_empty plain path), base_join plain, names_join plain]
  exact leads.resolve_join plain notLink

theorem LeadsTo.join (entry : fs.node (location ++ [name]) = some .directory) :
    fs.LeadsTo (PathText.join path name) (location ++ [name]) where
  located := leads.locate_join plain fun target => by simp [entry]
  isDirectory := entry

omit plain in
theorem LeadsTo.writable (free : fs.node (location ++ [name]) ≠ some .directory) :
    fs.Writable (location ++ [name]) := by
  refine ⟨by simp, ?_, free⟩
  rw [List.dropLast_concat]
  exact leads.isDirectory

omit plain leads

theorem canonicalize_append {start : Location} (isStart : fs.node start = some .directory)
    {known path : List String} (resolved : fs.resolve maxLinks start (known ++ path) = some location)
    (isDirectory : fs.node location = some .directory) (rest : List String) :
    fs.canonicalize start known (path ++ rest) = fs.canonicalize start (known ++ path) rest := by
  induction path generalizing known with
  | nil => simp
  | cons name path ih =>
      rw [List.append_cons] at resolved ⊢
      obtain ⟨middle, reached, isMiddle⟩ := exists_resolve_prefix isStart resolved isDirectory
      rw [List.cons_append, canonicalize, if_pos (by simp [reached, isMiddle])]
      exact ih resolved

include leads

theorem LeadsTo.canonicalize_names (rest : List String) :
    fs.canonicalize (fs.base path) [] (names path ++ rest) =
      fs.canonicalize (fs.base path) (names path) rest := by
  have resolved : fs.resolve maxLinks (fs.base path) ([] ++ names path) = some location :=
    leads.resolved
  exact canonicalize_append (node_base path) resolved leads.isDirectory rest

theorem LeadsTo.weaklyCanonical : fs.weaklyCanonical path = some location := by
  have whole := leads.canonicalize_names []
  rw [List.append_nil] at whole
  rw [FileSystem.weaklyCanonical, whole, canonicalize]
  exact leads.resolved

include plain

theorem LeadsTo.weaklyCanonical_join
    (notLink : ∀ target, fs.node (location ++ [name]) ≠ some (.symlink target)) :
    fs.weaklyCanonical (PathText.join path name) = some (location ++ [name]) := by
  have reached := leads.resolve_join plain notLink
  rw [FileSystem.weaklyCanonical, base_join plain, names_join plain, leads.canonicalize_names,
    canonicalize]
  split
  · rw [canonicalize]
    exact reached
  · rw [leads.resolved, Option.map_some, lexicallyNormal_cons plain]
    rfl

/-- A path within a directory that may be missing itself. -/
theorem LeadsTo.weaklyCanonical_join_join {inner : String} (innerPlain : Plain inner)
    (entry : fs.node (location ++ [name]) = none ∨
      fs.node (location ++ [name]) = some .directory)
    (notLink : ∀ target, fs.node (location ++ [name] ++ [inner]) ≠ some (.symlink target)) :
    fs.weaklyCanonical (PathText.join (PathText.join path name) inner) =
      some (location ++ [name] ++ [inner]) := by
  rcases entry with absent | present
  · have reached := leads.resolve_join plain (by simp [absent])
    rw [FileSystem.weaklyCanonical, base_join innerPlain, base_join plain, names_join innerPlain,
      names_join plain, List.append_assoc, leads.canonicalize_names, List.singleton_append,
      canonicalize, if_neg (by simp [reached, absent]), leads.resolved, Option.map_some,
      lexicallyNormal_cons plain, lexicallyNormal_cons innerPlain]
    rfl
  · exact (leads.join plain present).weaklyCanonical_join innerPlain notLink

/-! ## Changes of a directory -/

omit plain leads

theorem makeDirectory_of_exists {start : Location} {path : List String}
    (resolved : fs.resolve maxLinks start path = some location)
    (isDirectory : fs.node location = some .directory) : fs.makeDirectory start path = fs := by
  simp [makeDirectory, resolved, isDirectory]

theorem makeDirectories_append {start : Location} (isStart : fs.node start = some .directory)
    {known path : List String} (resolved : fs.resolve maxLinks start (known ++ path) = some location)
    (isDirectory : fs.node location = some .directory) (rest : List String) :
    fs.makeDirectories start known (path ++ rest) =
      fs.makeDirectories start (known ++ path) rest := by
  induction path generalizing known with
  | nil => simp
  | cons name path ih =>
      rw [List.append_cons] at resolved ⊢
      obtain ⟨middle, reached, isMiddle⟩ := exists_resolve_prefix isStart resolved isDirectory
      rw [List.cons_append, makeDirectories, makeDirectory_of_exists reached isMiddle]
      exact ih resolved

include plain leads

theorem LeadsTo.createDirectories_join :
    fs.createDirectories (PathText.join path name) =
      fs.makeDirectory (fs.base path) (names path ++ [name]) := by
  have resolved : fs.resolve maxLinks (fs.base path) ([] ++ names path) = some location :=
    leads.resolved
  rw [createDirectories, base_join plain, names_join plain,
    makeDirectories_append (node_base path) resolved leads.isDirectory, List.nil_append,
    makeDirectories, makeDirectories]

theorem LeadsTo.createDirectories_of_present
    (present : fs.node (location ++ [name]) = some .directory) :
    fs.createDirectories (PathText.join path name) = fs := by
  rw [leads.createDirectories_join plain]
  exact makeDirectory_of_exists (leads.resolve_join plain (by simp [present])) present

theorem LeadsTo.createDirectories_of_absent (absent : fs.node (location ++ [name]) = none) :
    fs.createDirectories (PathText.join path name) =
      fs.put (location ++ [name]) .directory (leads.writable (by simp [absent])) := by
  have writable : fs.Writable (location ++ [name]) := leads.writable (by simp [absent])
  rw [leads.createDirectories_join plain]
  simp [makeDirectory, leads.resolve_join plain (by simp [absent]), absent, writable]

theorem LeadsTo.writeFile_join
    (free : fs.node (location ++ [name]) = none ∨
      ∃ bytes, fs.node (location ++ [name]) = some (.file bytes)) (bytes : List UInt8) :
    ∃ writable, fs.writeFile (PathText.join path name) bytes =
      some (fs.put (location ++ [name]) (.file bytes) writable) := by
  have writable : fs.Writable (location ++ [name]) := leads.writable (by
    rcases free with absent | ⟨held, isFile⟩
    · simp [absent]
    · simp [isFile])
  have located := leads.locate_join plain (not_symlink_of_free free)
  exact ⟨writable, by simp [writeFile, located, writable]⟩

end Entries

end FileSystem

end DistributedComputing
