import Mathlib.Data.List.Infix
import Mathlib.Data.List.TakeWhile

/-!
# Arguments that name options

An option is named by one argument, and its value is the next argument or follows a `=` in the
same one.  The names hold no `=`, so an argument names one option at most, also where a name is
the beginning of another.  A list of settings is written as one piece of the argument list after
the other, and a loop that reads one piece reads them all.
-/

namespace DistributedComputing

namespace OptionArguments

variable {State Setting Field Result : Type}

/-- What an option does with the text of its value. -/
abbrev Setter (State : Type) := String → State → Except String State

/-- The option that an argument names, with the value when the argument holds it. -/
inductive Named (State : Type)
  | next (name : String) (set : Setter State)
  | value (text : String) (set : Setter State)

/-- The first option of a table that an argument names. -/
def named (arg : String) : List (String × Setter State) → Option (Named State)
  | [] => none
  | (name, set) :: options =>
      if arg = name then some (.next name set)
      else
        (arg.toList.dropPrefix? (name ++ "=").toList).elim (named arg options)
          fun text => some (.value (String.ofList text) set)

/-- The names of a table differ and hold no `=`. -/
structure Distinct (options : List (String × Setter State)) : Prop where
  nodup : (options.map (·.1)).Nodup
  bare : ∀ option ∈ options, '=' ∉ option.1.toList

theorem Distinct.tail {option : String × Setter State} {options : List (String × Setter State)}
    (distinct : Distinct (option :: options)) : Distinct options where
  nodup := (List.nodup_cons.mp distinct.nodup).2
  bare other member := distinct.bare other (List.mem_cons_of_mem option member)

theorem Distinct.name_ne {option other : String × Setter State}
    {options : List (String × Setter State)} (distinct : Distinct (option :: options))
    (member : other ∈ options) : option.1 ≠ other.1 := by
  intro same
  have absent : option.1 ∉ options.map (·.1) := (List.nodup_cons.mp distinct.nodup).1
  exact absent (same ▸ List.mem_map_of_mem member)

theorem takeWhile_name {name : String} (bare : '=' ∉ name.toList) (text : List Char) :
    (name.toList ++ '=' :: text).takeWhile (· ≠ '=') = name.toList := by
  rw [List.takeWhile_append_of_pos (by
    simp only [decide_eq_true_eq]
    rintro char member rfl
    exact bare member)]
  simp

/-- A name and the `=` after it begin no text that another name begins. -/
theorem dropPrefix?_of_ne {name other : String} (different : other ≠ name)
    (bare : '=' ∉ name.toList) (otherBare : '=' ∉ other.toList) (text : String) :
    (name ++ "=" ++ text).toList.dropPrefix? (other ++ "=").toList = none := by
  rw [Option.eq_none_iff_forall_ne_some]
  intro rest found
  rw [List.dropPrefix?_eq_some_iff] at found
  obtain ⟨start, split, same⟩ := found
  rw [eq_of_beq same] at split
  apply different
  rw [← String.toList_inj, ← takeWhile_name otherBare rest, ← takeWhile_name bare text.toList]
  congr 1
  simpa using split.symm

theorem dropPrefix?_of_bare {name : String} (bare : '=' ∉ name.toList) (other : String) :
    name.toList.dropPrefix? (other ++ "=").toList = none := by
  rw [Option.eq_none_iff_forall_ne_some]
  intro rest found
  rw [List.dropPrefix?_eq_some_iff] at found
  obtain ⟨start, split, same⟩ := found
  rw [eq_of_beq same] at split
  apply bare
  simp [split]

theorem dropPrefix?_joined (name text : String) :
    (name ++ "=" ++ text).toList.dropPrefix? (name ++ "=").toList = some text.toList := by
  rw [String.toList_append]
  exact List.dropPrefix?_append_of_beq _ (beq_self_eq_true _)

/-- A word that does not begin with a dash is no name and no name with its value. -/
theorem dropPrefix?_of_word {arg name : String} (word : arg.toList.head? ≠ some '-')
    (dashed : name.toList.head? = some '-') :
    arg ≠ name ∧ arg.toList.dropPrefix? (name ++ "=").toList = none := by
  constructor
  · rintro rfl
    exact word dashed
  · rw [Option.eq_none_iff_forall_ne_some]
    intro rest found
    rw [List.dropPrefix?_eq_some_iff] at found
    obtain ⟨start, split, same⟩ := found
    rw [eq_of_beq same] at split
    apply word
    cases chars : name.toList with
    | nil => simp [chars] at dashed
    | cons first others => simpa [split, chars] using dashed

theorem joined_ne {name : String} (bare : '=' ∉ name.toList) (other text : String) :
    other ++ "=" ++ text ≠ name := by
  rintro rfl
  simp at bare

/-- An argument that is a name names the option of that name. -/
theorem named_name {options : List (String × Setter State)} (distinct : Distinct options)
    {name : String} {set : Setter State} (member : (name, set) ∈ options) :
    named name options = some (.next name set) := by
  induction options with
  | nil => cases member
  | cons option options ih =>
      rcases List.mem_cons.mp member with same | later
      · subst same
        simp [named]
      · have different := distinct.name_ne later
        have bare := distinct.bare _ member
        simp only [named, if_neg different.symm, dropPrefix?_of_bare bare,
          Option.elim_none]
        exact ih distinct.tail later

/-- An argument that joins a name and a text by `=` gives the text to the option of that name. -/
theorem named_joined {options : List (String × Setter State)} (distinct : Distinct options)
    {name : String} {set : Setter State} (member : (name, set) ∈ options) (text : String) :
    named (name ++ "=" ++ text) options = some (.value text set) := by
  have bare := distinct.bare _ member
  induction options with
  | nil => cases member
  | cons option options ih =>
      have otherBare := distinct.bare option List.mem_cons_self
      simp only [named, if_neg (joined_ne otherBare name text)]
      rcases List.mem_cons.mp member with same | later
      · subst same
        simp only [dropPrefix?_joined, Option.elim_some, String.ofList_toList]
      · simp only [dropPrefix?_of_ne (distinct.name_ne later) bare otherBare, Option.elim_none]
        exact ih distinct.tail later

theorem named_none {options : List (String × Setter State)} {arg : String}
    (absent : ∀ option ∈ options, arg ≠ option.1 ∧
      arg.toList.dropPrefix? (option.1 ++ "=").toList = none) : named arg options = none := by
  induction options with
  | nil => rfl
  | cons option options ih =>
      obtain ⟨different, other⟩ := absent option List.mem_cons_self
      simp only [named, if_neg different, other, Option.elim_none]
      exact ih fun later member => absent later (List.mem_cons_of_mem option member)

/-- The option that an argument names is one of the table, and the argument is its name, alone or
with a value. -/
theorem exists_of_named {options : List (String × Setter State)} {arg : String}
    {found : Named State} (isNamed : named arg options = some found) :
    ∃ option ∈ options, found = .next option.1 option.2 ∧ arg = option.1 ∨
      ∃ text, found = .value text option.2 ∧ arg = option.1 ++ "=" ++ text := by
  induction options with
  | nil => cases isNamed
  | cons option options ih =>
      unfold named at isNamed
      split at isNamed
      · rename_i same
        exact ⟨option, List.mem_cons_self, .inl ⟨(Option.some.inj isNamed).symm, same⟩⟩
      · cases isText : arg.toList.dropPrefix? (option.1 ++ "=").toList with
        | none =>
            rw [isText, Option.elim_none] at isNamed
            obtain ⟨other, member, isOther⟩ := ih isNamed
            exact ⟨other, List.mem_cons_of_mem option member, isOther⟩
        | some text =>
            rw [isText, Option.elim_some] at isNamed
            rw [List.dropPrefix?_eq_some_iff] at isText
            obtain ⟨start, split, same⟩ := isText
            rw [eq_of_beq same] at split
            refine ⟨option, List.mem_cons_self, .inr ⟨String.ofList text,
              (Option.some.inj isNamed).symm, ?_⟩⟩
            rw [← String.toList_inj, String.toList_append, String.toList_ofList]
            exact split

/-- A name outside a table names no option of it, with or without a value. -/
theorem named_other {options : List (String × Setter State)} (distinct : Distinct options)
    {name : String} (bare : '=' ∉ name.toList)
    (absent : ∀ option ∈ options, option.1 ≠ name) :
    named name options = none ∧ ∀ text, named (name ++ "=" ++ text) options = none := by
  constructor
  · apply named_none
    intro option member
    exact ⟨(absent option member).symm, dropPrefix?_of_bare bare option.1⟩
  · intro text
    apply named_none
    intro option member
    have otherBare := distinct.bare option member
    exact ⟨joined_ne otherBare name text,
      dropPrefix?_of_ne (absent option member) bare otherBare text⟩

/-! ## Written settings -/

/-- The arguments that give a text to an option. -/
def Writes (name text : String) (pieces : List String) : Prop :=
  pieces = [name, text] ∨ pieces = [name ++ "=" ++ text]

/-- The arguments that write settings one after the other. -/
inductive Renders (Piece : Setting → List String → Prop) : List Setting → List String → Prop
  | nil : Renders Piece [] []
  | cons {setting : Setting} {settings : List Setting} {pieces args : List String} :
      Piece setting pieces → Renders Piece settings args →
        Renders Piece (setting :: settings) (pieces ++ args)

/-- A loop that reads the piece of each setting applies the settings in turn. -/
theorem Renders.run {Piece : Setting → List String → Prop} (loop : List String → State → Result)
    (apply : State → Setting → State) {settings : List Setting} {args : List String}
    (renders : Renders Piece settings args)
    (step : ∀ setting ∈ settings, ∀ pieces args state, Piece setting pieces →
      loop (pieces ++ args) state = loop args (apply state setting))
    (rest : List String) (state : State) :
    loop (args ++ rest) state = loop rest (settings.foldl apply state) := by
  induction renders generalizing state with
  | nil => rfl
  | @cons setting settings pieces args piece renders ih =>
      rw [List.append_assoc, step setting List.mem_cons_self _ _ _ piece,
        ih fun later member => step later (List.mem_cons_of_mem setting member)]
      rfl

/-- A field that each setting adds to holds the additions in their order. -/
theorem foldl_append_field {apply : State → Setting → State} (field : State → List Field)
    (part : Setting → Option Field)
    (step : ∀ state setting, field (apply state setting) = field state ++ (part setting).toList)
    (settings : List Setting) (state : State) :
    field (settings.foldl apply state) = field state ++ settings.filterMap part := by
  induction settings generalizing state with
  | nil => simp
  | cons setting settings ih =>
      rw [List.foldl_cons, ih, step, List.append_assoc]
      cases found : part setting <;> simp [found]

/-- A field that each setting replaces holds what the last one gave. -/
theorem foldl_last_field {apply : State → Setting → State} (field : State → Field)
    (part : Setting → Option Field)
    (step : ∀ state setting, field (apply state setting) = (part setting).getD (field state))
    (settings : List Setting) (state : State) :
    field (settings.foldl apply state) = (settings.filterMap part).getLastD (field state) := by
  induction settings generalizing state with
  | nil => rfl
  | cons setting settings ih =>
      rw [List.foldl_cons, ih, step]
      cases found : part setting with
      | none => simp [found]
      | some value => rw [List.filterMap_cons_some found, List.getLastD_cons, Option.getD_some]

/-- A field that one setting gives at most holds what is given. -/
theorem foldl_optional_field {apply : State → Setting → State} (field : State → Option Field)
    (part : Setting → Option Field) {settings : List Setting} {state : State}
    {given : Option Field} (initial : field state = none)
    (listed : settings.filterMap part = given.toList)
    (step : ∀ state setting, field (apply state setting) = (part setting).or (field state)) :
    field (settings.foldl apply state) = given := by
  rw [foldl_last_field field fun setting => (part setting).map some]
  · rw [← List.map_filterMap, listed, initial]
    cases given <;> rfl
  · intro state setting
    rw [step]
    cases part setting <;> rfl

end OptionArguments

end DistributedComputing
