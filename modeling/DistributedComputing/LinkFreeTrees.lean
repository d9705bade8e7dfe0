import DistributedComputing.FileSystem

/-!
# Trees without links

Without symbolic links a path leads to its normal form, if it leads anywhere: the path made
absolute, less its `.` and `..`.  What directories that are made and files that are written change
can be told from the normal forms as well.
-/

namespace DistributedComputing

open PathText

namespace FileSystem

/-- No node of the tree is a symbolic link. -/
def NoLinks (fs : FileSystem) : Prop :=
  ∀ location target, fs.node location ≠ some (.symlink target)

/-- The path made absolute, without `.` and `..`. -/
def normal (fs : FileSystem) (path : String) : Location :=
  lexicallyNormal (fs.base path) (names path)

theorem lexicallyNormal_append (location : Location) (front rest : List String) :
    lexicallyNormal location (front ++ rest) =
      lexicallyNormal (lexicallyNormal location front) rest :=
  List.foldl_append

theorem lexicallyNormal_step (location : Location) (name : String) (rest : List String) :
    lexicallyNormal location (name :: rest) =
      lexicallyNormal
        (if name = "." then location
          else if name = ".." then location.dropLast else location ++ [name]) rest :=
  rfl

section NoLinks

variable {fs : FileSystem} (noLinks : fs.NoLinks)

include noLinks

theorem eq_of_resolve {links : Nat} {current location : Location} {path : List String}
    (resolved : fs.resolve links current path = some location) :
    location = lexicallyNormal current path := by
  fun_induction resolve fs links current path with
  | case1 links current =>
      cases resolved
      rfl
  | case2 links current rest ih =>
      rw [lexicallyNormal_step, if_pos rfl]
      exact ih resolved
  | case3 links current rest notDot ih =>
      rw [lexicallyNormal_step, if_neg notDot, if_pos rfl]
      exact ih resolved
  | case4 links current name rest notDot notDotDot entry ih =>
      rw [lexicallyNormal_step, if_neg notDot, if_neg notDotDot]
      exact ih resolved
  | case5 links current name notDot notDotDot bytes entry =>
      rw [lexicallyNormal_step, if_neg notDot, if_neg notDotDot]
      exact (Option.some.inj resolved).symm
  | case6 => cases resolved
  | case7 links current name notDot notDotDot entry =>
      rw [lexicallyNormal_step, if_neg notDot, if_neg notDotDot]
      exact (Option.some.inj resolved).symm
  | case8 => cases resolved
  | case9 => cases resolved
  | case10 current name rest notDot notDotDot target entry =>
      exact absurd entry (noLinks _ target)

theorem eq_normal_of_locate {path : String} {location : Location}
    (located : fs.locate path = some location) : location = fs.normal path := by
  unfold locate at located
  split at located
  · cases located
  · exact eq_of_resolve noLinks located

theorem canonicalize_eq {start : Location} {known : List String}
    (reached : (fs.resolve maxLinks start known).isSome) (rest : List String) :
    fs.canonicalize start known rest = some (lexicallyNormal start (known ++ rest)) := by
  induction rest generalizing known with
  | nil =>
      obtain ⟨location, resolved⟩ := Option.isSome_iff_exists.mp reached
      rw [canonicalize, resolved, List.append_nil, eq_of_resolve noLinks resolved]
  | cons name rest ih =>
      rw [canonicalize]
      split
      · rename_i present
        have next : (fs.resolve maxLinks start (known ++ [name])).isSome :=
          Option.isSome_of_isSome_bind present
        rw [ih next, List.append_assoc, List.singleton_append]
      · obtain ⟨location, resolved⟩ := Option.isSome_iff_exists.mp reached
        rw [resolved, Option.map_some, eq_of_resolve noLinks resolved, lexicallyNormal_append]

/-- `weakly_canonical` makes a path absolute and removes `.` and `..`. -/
theorem weaklyCanonical_eq (path : String) : fs.weaklyCanonical path = some (fs.normal path) := by
  have started : (fs.resolve maxLinks (fs.base path) []).isSome := by
    rw [resolve]
    rfl
  exact canonicalize_eq noLinks started (names path)

end NoLinks

/-! ## Changes -/

/-- A tree that is made from another by adding directories. -/
structure AddsDirectories (fs later : FileSystem) : Prop where
  workingDirectory : later.workingDirectory = fs.workingDirectory
  node : ∀ location, later.node location = fs.node location ∨
    (fs.node location = none ∧ later.node location = some .directory)

variable {fs later last : FileSystem}

theorem AddsDirectories.refl (fs : FileSystem) : fs.AddsDirectories fs :=
  ⟨rfl, fun _ => .inl rfl⟩

theorem AddsDirectories.trans (first : fs.AddsDirectories later)
    (second : later.AddsDirectories last) : fs.AddsDirectories last where
  workingDirectory := second.workingDirectory.trans first.workingDirectory
  node location := by
    rcases second.node location with same | ⟨absent, added⟩
    · rw [same]
      exact first.node location
    · rcases first.node location with same | ⟨_, present⟩
      · exact .inr ⟨same.symm.trans absent, added⟩
      · rw [absent] at present
        cases present

theorem AddsDirectories.noLinks (added : fs.AddsDirectories later) (noLinks : fs.NoLinks) :
    later.NoLinks := by
  intro location target isLink
  rcases added.node location with same | ⟨-, isDirectory⟩
  · exact noLinks location target (same.symm.trans isLink)
  · rw [isDirectory] at isLink
    cases isLink

theorem addsDirectories_makeDirectory (fs : FileSystem) (start : Location) (path : List String) :
    fs.AddsDirectories (fs.makeDirectory start path) := by
  unfold makeDirectory
  split
  · exact .refl fs
  · rename_i location resolved
    split
    · rename_i writable
      refine ⟨rfl, fun other => ?_⟩
      by_cases same : other = location
      · rw [same]
        exact .inr ⟨writable.2, if_pos rfl⟩
      · exact .inl (if_neg same)
    · exact .refl fs

theorem addsDirectories_makeDirectories (fs : FileSystem) (start : Location)
    (known path : List String) : fs.AddsDirectories (fs.makeDirectories start known path) := by
  induction path generalizing fs known with
  | nil => exact .refl fs
  | cons name path ih =>
      exact (addsDirectories_makeDirectory fs start (known ++ [name])).trans (ih _ _)

/-- Making the directories of a path adds nothing else. -/
theorem addsDirectories_createDirectories (fs : FileSystem) (path : String) :
    fs.AddsDirectories (fs.createDirectories path) :=
  addsDirectories_makeDirectories fs (fs.base path) [] (names path)

/-- A tree that is made from another by writing the file at a location. -/
structure WritesFile (location : Location) (fs later : FileSystem) : Prop where
  workingDirectory : later.workingDirectory = fs.workingDirectory
  written : ∃ bytes, later.node location = some (.file bytes)
  node : ∀ other, other ≠ location → later.node other = fs.node other

theorem WritesFile.noLinks {location : Location} (writes : WritesFile location fs later)
    (noLinks : fs.NoLinks) : later.NoLinks := by
  intro other target isLink
  by_cases same : other = location
  · obtain ⟨bytes, isFile⟩ := writes.written
    rw [same, isFile] at isLink
    cases isLink
  · exact noLinks other target ((writes.node other same).symm.trans isLink)

/-- A file is written at the normal form of its path. -/
theorem writesFile_of_writeFile (noLinks : fs.NoLinks) {path : String} {bytes : List UInt8}
    (wrote : fs.writeFile path bytes = some later) : WritesFile (fs.normal path) fs later := by
  unfold writeFile at wrote
  split at wrote
  · cases wrote
  · rename_i location located
    obtain rfl := eq_normal_of_locate noLinks located
    split at wrote
    · cases wrote
      exact ⟨rfl, ⟨bytes, if_pos rfl⟩, fun other elsewhere => if_neg elsewhere⟩
    · cases wrote

theorem normal_of_workingDirectory (same : later.workingDirectory = fs.workingDirectory)
    (path : String) : later.normal path = fs.normal path := by
  rw [normal, normal, base, base, same]

end FileSystem

end DistributedComputing
