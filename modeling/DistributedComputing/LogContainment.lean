import DistributedComputing.LinkFreeTrees
import DistributedComputing.LogStoreRefinement

/-!
# Logs stay inside of the log root

Whatever the task id is, a call that gets past the checks opens files at or below the root only.
Paths are compared name by name, so that a sibling of the root is not taken for the root.
-/

namespace DistributedComputing

open PathText

/-- The four paths that are checked. -/
def LogPaths.checked (paths : LogPaths) : List String :=
  [paths.dir, paths.stdoutPath, paths.stderrPath, paths.metaPath]

/-- The log file and the metadata file. -/
def LogPaths.opened (paths : LogPaths) (stream : String) : List String :=
  [paths.target stream, paths.metaPath]

theorem LogPaths.mem_checked_of_opened {paths : LogPaths} {stream path : String}
    (isOpened : path ∈ paths.opened stream) : path ∈ paths.checked := by
  unfold opened target at isOpened
  unfold checked
  split at isOpened <;> simp only [List.mem_cons, List.not_mem_nil, or_false] at isOpened ⊢ <;>
    rcases isOpened with rfl | rfl <;> simp

/-- What is read of what a path leads to. -/
def readNode (offset : UInt64) : Option FileNode → ReadResult
  | none => {}
  | some (.file bytes) =>
      if offset.toNat < bytes.length % 2 ^ 64 then
        { data := readFrom (streamoff offset.toNat) bytes
          sizeBytes := bytes.length % 2 ^ 64
          fileExists := true }
      else { sizeBytes := bytes.length % 2 ^ 64, fileExists := true }
  | some .directory => { fileExists := true }
  | some (.symlink _) => { fileExists := true }

theorem readFileInternal_eq (fs : FileSystem) (path : String) (offset : UInt64) :
    readFileInternal fs path offset = readNode offset (fs.status path) := by
  unfold readFileInternal FileSystem.fileExists FileSystem.fileSize FileSystem.readFile
  cases fs.status path with
  | none => rfl
  | some node =>
      cases node with
      | directory => rfl
      | file bytes => simp [readNode]
      | symlink target => rfl

namespace LogStore

variable (store : LogStore) {fs : FileSystem}

/-! ## Checks -/

section Checks

variable (noLinks : fs.NoLinks)

include noLinks

theorem isPathWithinRoot_iff (path : String) :
    store.isPathWithinRoot fs path = true ↔ fs.normal store.rootDir <+: fs.normal path := by
  rw [isPathWithinRoot, FileSystem.weaklyCanonical_eq noLinks,
    FileSystem.weaklyCanonical_eq noLinks]
  exact List.isPrefixOf_iff_prefix

theorem pathsWithinRoot_iff (paths : LogPaths) :
    store.pathsWithinRoot fs paths = true ↔
      ∀ path ∈ paths.checked, fs.normal store.rootDir <+: fs.normal path := by
  simp only [pathsWithinRoot, Bool.and_eq_true, store.isPathWithinRoot_iff noLinks,
    LogPaths.checked, List.forall_mem_cons, List.not_mem_nil, false_imp_iff, implies_true,
    and_true, and_assoc]

/-- A directory next to the root is not in the root, whatever its name starts with. -/
theorem pathsWithinRoot_of_sibling {paths : LogPaths} {parent rest : Location}
    {name other : String} (isRoot : fs.normal store.rootDir = parent ++ [name])
    (isDir : fs.normal paths.dir = parent ++ other :: rest) (different : other ≠ name) :
    store.pathsWithinRoot fs paths = false := by
  rw [Bool.eq_false_iff, Ne, store.pathsWithinRoot_iff noLinks]
  intro within
  have inside := within paths.dir List.mem_cons_self
  rw [isRoot, isDir, List.prefix_append_right_inj, List.singleton_prefix_cons_iff] at inside
  exact different inside.symm

end Checks

/-! ## Calls -/

/-- What a call does at most that gets past the checks. -/
structure StaysWithinRoot (store : LogStore) (fs : FileSystem) (taskId stream : String)
    (later : FileSystem) : Prop where
  within : ∀ path ∈ (store.pathsForTask taskId).opened stream,
    fs.normal store.rootDir <+: fs.normal path
  /-- A path that is opened leads to its normal form. -/
  located : ∀ path ∈ (store.pathsForTask taskId).opened stream, ∀ location,
    (fs.createDirectories (store.pathsForTask taskId).dir).locate path = some location →
      location = fs.normal path
  /-- No other file is written, and only directories are made. -/
  changed : ∀ location, later.node location ≠ fs.node location →
    (∃ path ∈ (store.pathsForTask taskId).opened stream, location = fs.normal path) ∨
      (fs.node location = none ∧ later.node location = some .directory)

section Calls

variable {store} (noLinks : fs.NoLinks) {taskId stream : String}

include noLinks

theorem refreshMetadata_node (now : Time) (paths : LogPaths) (location : Location)
    (elsewhere : location ≠ fs.normal paths.metaPath) :
    (store.refreshMetadata now taskId paths fs).node location = fs.node location := by
  unfold refreshMetadata
  dsimp only
  cases wrote : fs.writeFile paths.metaPath _ with
  | none => rfl
  | some later => exact (FileSystem.writesFile_of_writeFile noLinks wrote).node location elsewhere

/-- A call that writes only the two files after the directories are made. -/
theorem staysWithinRoot (within : store.pathsWithinRoot fs (store.pathsForTask taskId) = true)
    {later : FileSystem}
    (others : ∀ location,
      (∀ path ∈ (store.pathsForTask taskId).opened stream, location ≠ fs.normal path) →
        later.node location =
          (fs.createDirectories (store.pathsForTask taskId).dir).node location) :
    store.StaysWithinRoot fs taskId stream later := by
  have added := fs.addsDirectories_createDirectories (store.pathsForTask taskId).dir
  constructor
  · intro path isOpened
    exact (store.pathsWithinRoot_iff noLinks _).mp within path
      (LogPaths.mem_checked_of_opened isOpened)
  · intro path _ location located
    rw [FileSystem.eq_normal_of_locate (added.noLinks noLinks) located,
      FileSystem.normal_of_workingDirectory added.workingDirectory]
  · intro location changed
    by_cases isOpened : ∃ path ∈ (store.pathsForTask taskId).opened stream,
        location = fs.normal path
    · exact .inl isOpened
    · have same := others location fun path member equal => isOpened ⟨path, member, equal⟩
      rw [same] at changed ⊢
      rcases added.node location with kept | made
      · exact absurd kept changed
      · exact .inr made

theorem writeAll_staysWithinRoot (now : Time) (data : ByteString)
    (within : store.pathsWithinRoot fs (store.pathsForTask taskId) = true) :
    store.StaysWithinRoot fs taskId stream (store.writeAll now taskId stream data fs).2 := by
  have added := fs.addsDirectories_createDirectories (store.pathsForTask taskId).dir
  have preparedLinks := added.noLinks noLinks
  apply staysWithinRoot noLinks within
  intro location elsewhere
  have notTarget := elsewhere _ List.mem_cons_self
  have notMeta := elsewhere _ (List.mem_cons_of_mem _ List.mem_cons_self)
  unfold writeAll
  dsimp only
  rw [if_pos within]
  cases wrote : (fs.createDirectories (store.pathsForTask taskId).dir).writeFile
      ((store.pathsForTask taskId).target stream) _ with
  | none => rfl
  | some later =>
      have writes := FileSystem.writesFile_of_writeFile preparedLinks wrote
      rw [FileSystem.normal_of_workingDirectory added.workingDirectory] at writes
      have sameDirectory := writes.workingDirectory.trans added.workingDirectory
      rw [← FileSystem.normal_of_workingDirectory sameDirectory] at notMeta
      rw [← writes.node location notTarget]
      exact refreshMetadata_node (writes.noLinks preparedLinks) now _ location notMeta

theorem readInternal_staysWithinRoot (now : Time) (offset : UInt64)
    (within : store.pathsWithinRoot fs (store.pathsForTask taskId) = true) :
    store.StaysWithinRoot fs taskId stream (store.readInternal now taskId stream offset fs).2 := by
  have added := fs.addsDirectories_createDirectories (store.pathsForTask taskId).dir
  apply staysWithinRoot noLinks within
  intro location elsewhere
  have notMeta := elsewhere _ (List.mem_cons_of_mem _ List.mem_cons_self)
  unfold readInternal
  dsimp only
  rw [if_pos within]
  apply refreshMetadata_node (added.noLinks noLinks)
  rwa [FileSystem.normal_of_workingDirectory added.workingDirectory]

/-- What is read is what the log file holds, if its path leads there. -/
theorem readInternal_eq (now : Time) (offset : UInt64)
    (within : store.pathsWithinRoot fs (store.pathsForTask taskId) = true) :
    (store.readInternal now taskId stream offset fs).1 = {} ∨
      (store.readInternal now taskId stream offset fs).1 =
        readNode offset ((fs.createDirectories (store.pathsForTask taskId).dir).node
          (fs.normal ((store.pathsForTask taskId).target stream))) := by
  have added := fs.addsDirectories_createDirectories (store.pathsForTask taskId).dir
  unfold readInternal
  dsimp only
  rw [if_pos within]
  dsimp only
  rw [readFileInternal_eq, FileSystem.status]
  cases located : (fs.createDirectories (store.pathsForTask taskId).dir).locate
      ((store.pathsForTask taskId).target stream) with
  | none => exact .inl rfl
  | some location =>
      have normal := FileSystem.eq_normal_of_locate (added.noLinks noLinks) located
      rw [FileSystem.normal_of_workingDirectory added.workingDirectory] at normal
      rw [normal]
      exact .inr rfl

end Calls

/-- A call that gets past the checks opens files at or below the root only, and a call that does
not leaves everything as it is. -/
theorem logFiles_within_root (noLinks : fs.NoLinks) (now : Time) (taskId stream : String) :
    (store.pathsWithinRoot fs (store.pathsForTask taskId) = true →
      (∀ data,
        store.StaysWithinRoot fs taskId stream (store.writeAll now taskId stream data fs).2) ∧
      ∀ offset,
        store.StaysWithinRoot fs taskId stream
          (store.readInternal now taskId stream offset fs).2 ∧
        ((store.readInternal now taskId stream offset fs).1 = {} ∨
          (store.readInternal now taskId stream offset fs).1 =
            readNode offset ((fs.createDirectories (store.pathsForTask taskId).dir).node
              (fs.normal ((store.pathsForTask taskId).target stream))))) ∧
    (store.pathsWithinRoot fs (store.pathsForTask taskId) = false →
      (∀ data, store.writeAll now taskId stream data fs = (false, fs)) ∧
      ∀ offset, store.readInternal now taskId stream offset fs = ({}, fs)) ∧
    (store.pathsWithinRoot fs (store.pathsForTask taskId) = true ↔
      ∀ path ∈ (store.pathsForTask taskId).checked,
        fs.normal store.rootDir <+: fs.normal path) ∧
    ∀ (parent rest : Location) (name other : String),
      fs.normal store.rootDir = parent ++ [name] →
      fs.normal (store.pathsForTask taskId).dir = parent ++ other :: rest → other ≠ name →
        store.pathsWithinRoot fs (store.pathsForTask taskId) = false := by
  refine ⟨fun within => ⟨fun data => ?_, fun offset => ⟨?_, ?_⟩⟩, fun rejected => ⟨?_, ?_⟩,
    store.pathsWithinRoot_iff noLinks _, ?_⟩
  · exact writeAll_staysWithinRoot noLinks now data within
  · exact readInternal_staysWithinRoot noLinks now offset within
  · exact readInternal_eq noLinks now offset within
  · intro data
    simp [writeAll, rejected]
  · intro offset
    simp [readInternal, rejected]
  · intro parent rest name other isRoot isDir different
    exact store.pathsWithinRoot_of_sibling noLinks isRoot isDir different

theorem noLinks_freshTree : freshTree.NoLinks := by
  intro location target
  unfold freshTree
  dsimp only
  split <;> simp

/-- Out of the root and back into it. -/
theorem logFiles_within_root_freshTree :
    StaysWithinRoot { rootDir := "logs", dump := fun _ => [123, 125] } freshTree
      "../old/../logs/7" "stderr"
      (writeAll { rootDir := "logs", dump := fun _ => [123, 125] } 0 "../old/../logs/7" "stderr"
        ⟨[104, 105], by decide⟩ freshTree).2 := by
  have within : pathsWithinRoot { rootDir := "logs", dump := fun _ => [123, 125] } freshTree
      (pathsForTask { rootDir := "logs", dump := fun _ => [123, 125] } "../old/../logs/7") =
        true := by
    rw [pathsWithinRoot_iff _ noLinks_freshTree]
    decide
  exact (logFiles_within_root _ noLinks_freshTree 0 "../old/../logs/7" "stderr").1 within |>.1 _

/-- Directories are made on the way, and the way may lead out of the root and back. -/
theorem directories_made_outside_root :
    ∃ (store : LogStore) (fs : FileSystem) (taskId : String) (location : Location),
      fs.NoLinks ∧ store.pathsWithinRoot fs (store.pathsForTask taskId) = true ∧
        ¬ fs.normal store.rootDir <+: location ∧ fs.node location = none ∧
        (fs.createDirectories (store.pathsForTask taskId).dir).node location =
          some .directory := by
  refine ⟨{ rootDir := "logs", dump := fun _ => [123, 125] }, freshTree, "../made/../logs/7",
    ["srv", "made"], noLinks_freshTree, ?_, by decide, by decide, ?_⟩
  · rw [pathsWithinRoot_iff _ noLinks_freshTree]
    decide
  · have parts : names "logs/../made/../logs/7" = ["logs", "..", "made", "..", "logs", "7"] := by
      decide
    have start : freshTree.base "logs/../made/../logs/7" = ["srv"] := by decide
    change (freshTree.createDirectories "logs/../made/../logs/7").node ["srv", "made"] = _
    rw [FileSystem.createDirectories, parts, start]
    have known : freshTree.makeDirectory ["srv"] ["logs"] = freshTree := by
      simp [FileSystem.makeDirectory, FileSystem.resolve, freshTree]
    have parent : freshTree.makeDirectory ["srv"] ["logs", ".."] = freshTree := by
      simp [FileSystem.makeDirectory, FileSystem.resolve, freshTree]
    have made : (freshTree.makeDirectory ["srv"] ["logs", "..", "made"]).node ["srv", "made"] =
        some .directory := by
      have reached : freshTree.resolve FileSystem.maxLinks ["srv"] ["logs", "..", "made"] =
          some ["srv", "made"] := by
        simp [FileSystem.resolve, freshTree]
      have writable : freshTree.Writable ["srv", "made"] ∧
          freshTree.node ["srv", "made"] = none := by
        decide
      simp only [FileSystem.makeDirectory, reached, dif_pos writable, FileSystem.put, if_true]
    rw [FileSystem.makeDirectories, List.nil_append, known, FileSystem.makeDirectories,
      List.cons_append, List.nil_append, parent, FileSystem.makeDirectories]
    have rest := FileSystem.addsDirectories_makeDirectories
      (freshTree.makeDirectory ["srv"] ["logs", "..", "made"]) ["srv"] ["logs", "..", "made"]
      ["..", "logs", "7"]
    rcases rest.node ["srv", "made"] with same | ⟨absent, -⟩
    · exact same.trans made
    · rw [made] at absent
      cases absent

end LogStore

end DistributedComputing
