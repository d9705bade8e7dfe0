import DistributedComputing.EnvFileLines
import DistributedComputing.GlobalOptions

/-!
# Integers in the environment and in options

`GetEnvIntOrDefault` and the `ParseInt` of the CLI both take what `strtol` reads of a text if it
reads all of it, and narrow it to `int`.  An empty value of a variable is read as zero, and an
integer that is no `int` as what is left of it.
-/

namespace DistributedComputing

namespace IntegerTexts

open Cli (IsInt)
open Strtol (Denotes saturate)

/-! ## Reading -/

/-- The integer that `strtol` reads, if it stops at the end of the C string. -/
def readInt (value : Bytes) : Option Int :=
  let parsed := Strtol.strtol UInt8.toNat (cString value)
  if parsed.2.isEmpty then some (toInt32 parsed.1) else none

/-- The values that `getenv` returns are C strings. -/
def getEnv (environment : String → Option Bytes) (key : Option String) : Option Bytes :=
  key.bind fun key => (environment key).map cString

def getEnvIntOrDefault (environment : String → Option Bytes) (key : Option String)
    (default : Int) : Int :=
  (getEnv environment key).elim default fun value => (readInt value).getD default

def parseInt (value : Bytes) : Option Int :=
  if value.isEmpty then none else readInt value

/-- `ParseValidatedEnvInt` of the master, which checks the range before it narrows. -/
def parseValidatedEnvInt (environment : String → Option Bytes) (key : String)
    (default minValue : Int) : Except Bytes Int :=
  (getEnv environment (some key)).elim (.ok default) fun value =>
    let parsed := Strtol.strtol UInt8.toNat (cString value)
    if value.isEmpty then .error (ascii ("Invalid " ++ key ++ ": value cannot be empty"))
    else if parsed.2.isEmpty = false then
      .error (ascii ("Invalid " ++ key ++ ": expected integer, got '") ++ value ++ ascii "'")
    else if parsed.1 < minValue then
      .error (ascii ("Invalid " ++ key ++ ": must be >= " ++ toString minValue ++ ", got " ++
        toString parsed.1))
    else if 2 ^ 31 - 1 < parsed.1 then
      .error (ascii ("Invalid " ++ key ++ ": value is too large"))
    else .ok (toInt32 parsed.1)

section ReadInt

variable {text : Bytes}

theorem readInt_of_nil (empty : cString text = []) : readInt text = some 0 := by
  rw [readInt, empty]
  rfl

theorem readInt_of_denotes {value : Int} (denotes : Denotes UInt8.toNat (cString text) value) :
    readInt text = some (toInt32 (saturate value)) := by
  rw [readInt, Strtol.strtol_of_denotes denotes]
  rfl

theorem readInt_eq_none_iff : readInt text = none ↔
    cString text ≠ [] ∧ ∀ value, ¬ Denotes UInt8.toNat (cString text) value := by
  constructor
  · intro rejected
    refine ⟨fun empty => ?_, fun value denotes => ?_⟩
    · rw [readInt_of_nil empty] at rejected
      cases rejected
    · rw [readInt_of_denotes denotes] at rejected
      cases rejected
  · rintro ⟨nonempty, noInteger⟩
    rw [readInt]
    apply if_neg
    intro atEnd
    rcases Strtol.strtol_end_iff.mp (List.isEmpty_iff.mp atEnd) with empty | ⟨value, denotes⟩
    · exact nonempty empty
    · exact noInteger value denotes

end ReadInt

/-! ## Face values -/

/-- An integer of the range of `int` is accepted, and everything else is rejected. -/
structure TakenAtFaceValue {Result : Type} (text : Bytes) (accepted : Int → Result)
    (rejected result : Result) : Prop where
  integer : ∀ value, Denotes UInt8.toNat text value → IsInt value → result = accepted value
  other : (∀ value, Denotes UInt8.toNat text value → ¬ IsInt value) → result = rejected

section FaceValue

variable {Result : Type} {text : Bytes} {accepted : Int → Result} {rejected result : Result}

theorem takenAtFaceValue_of_denotes {value : Int} (denotes : Denotes UInt8.toNat text value) :
    TakenAtFaceValue text accepted rejected result ↔
      (IsInt value → result = accepted value) ∧ (¬ IsInt value → result = rejected) := by
  have only : ∀ other, Denotes UInt8.toNat text other → other = value :=
    fun _ isOther => isOther.unique denotes
  constructor
  · intro faceValue
    exact ⟨faceValue.integer value denotes,
      fun outside => faceValue.other fun other isOther => only other isOther ▸ outside⟩
  · rintro ⟨inside, outside⟩
    refine ⟨fun other isOther => ?_, fun none => outside (none value denotes)⟩
    rw [only other isOther]
    exact inside

theorem takenAtFaceValue_of_other (noInteger : ∀ value, ¬ Denotes UInt8.toNat text value) :
    TakenAtFaceValue text accepted rejected result ↔ result = rejected := by
  constructor
  · intro faceValue
    exact faceValue.other fun value denotes => absurd denotes (noInteger value)
  · intro same
    exact ⟨fun value denotes => absurd denotes (noInteger value), fun _ => same⟩

end FaceValue

/-- An integer that is no `int` narrows to the default, and so does an empty text. -/
structure DefaultWhenOutside (text : Bytes) (default : Int) : Prop where
  empty : text = [] → default = 0
  outside : ∀ value, Denotes UInt8.toNat text value → ¬ IsInt value →
    (2 ^ 32 : Int) ∣ saturate value - default

/-- Integers are of the range of `int`, and before a zero there is neither nothing nor an
integer. -/
structure NumbersWithinInt (text : Bytes) : Prop where
  inside : ∀ value, Denotes UInt8.toNat text value → IsInt value
  beforeZero : 0 ∈ text → cString text ≠ [] ∧ ∀ value, ¬ Denotes UInt8.toNat (cString text) value

theorem toInt32_eq_iff_dvd {value number : Int} (isInt : IsInt number) :
    toInt32 value = number ↔ (2 ^ 32 : Int) ∣ value - number := by
  obtain ⟨low, high⟩ := isInt
  unfold toInt32
  rw [Int.bmod_def]
  split <;> omega

instance (value : Int) : Decidable (IsInt value) :=
  inferInstanceAs (Decidable (_ ∧ _))

/-! ## Texts of the CLI -/

section Texts

open EnvFile (encode)

theorem codes_encode {text : List Char} (isAscii : ∀ char ∈ text, char.toNat < 128) :
    (encode text).map UInt8.toNat = text.map Char.toNat := by
  induction text with
  | nil => rfl
  | cons first text ih =>
      obtain ⟨low, rest⟩ := List.forall_mem_cons.mp isAscii
      have head : (byte first).toNat = first.toNat := by
        rw [byte, UInt8.toNat_ofNat']
        omega
      rw [encode, List.flatMap_cons, EnvFile.utf8EncodeChar_of_ascii low, List.singleton_append,
        List.map_cons, List.map_cons, head, ← encode, ih rest]

/-- Integers are the same texts in UTF-8. -/
theorem denotes_encode_iff {text : List Char} {value : Int} :
    Denotes UInt8.toNat (encode text) value ↔ Denotes Char.toNat text value := by
  by_cases isAscii : ∀ char ∈ text, char.toNat < 128
  · rw [← Strtol.denotes_codes_iff, codes_encode isAscii, Strtol.denotes_codes_iff]
  · apply iff_of_false
    · intro denotes
      apply isAscii
      intro char member
      by_contra high
      have spelled : String.utf8EncodeChar char ≠ [] := String.utf8EncodeChar_ne_nil
      obtain ⟨code, inside⟩ := List.exists_mem_of_ne_nil _ spelled
      have low := (denotes.code_bounds code (List.mem_flatMap.mpr ⟨char, member, inside⟩)).2
      have atLeast := EnvFile.le_of_mem_utf8EncodeChar (not_lt.mp high) inside
      omega
    · intro denotes
      exact isAscii fun char member => (denotes.code_bounds char member).2

theorem cString_encode_of_not_mem {text : List Char} (noZero : '\x00' ∉ text) :
    cString (encode text) = encode text := by
  rw [EnvFile.cString_encode, List.takeWhile_eq_self_iff.mpr]
  intro char member
  exact decide_eq_true fun same => noZero (same ▸ member)

theorem readInt_encode {text : String} (noZero : '\x00' ∉ text.toList) (nonempty : text ≠ "") :
    readInt (encode text.toList) = Cli.parseInt text := by
  have same := cString_encode_of_not_mem noZero
  by_cases denotes : ∃ value, Denotes Char.toNat text.toList value
  · obtain ⟨value, denotes⟩ := denotes
    rw [Cli.parseInt_eq_some_iff.mpr ⟨value, denotes, rfl⟩]
    exact readInt_of_denotes (by rwa [same, denotes_encode_iff])
  · have noInteger := not_exists.mp denotes
    have rejected : Cli.parseInt text = none := by
      rw [Option.eq_none_iff_forall_ne_some]
      intro number accepted
      obtain ⟨value, isValue, -⟩ := Cli.parseInt_eq_some_iff.mp accepted
      exact noInteger value isValue
    rw [rejected, readInt_eq_none_iff, same, Ne, EnvFile.encode_eq_nil_iff,
      String.toList_eq_nil_iff]
    exact ⟨nonempty, fun value isValue => noInteger value (denotes_encode_iff.mp isValue)⟩

/-- The CLI reads a text as it reads the bytes of it. -/
theorem parseInt_encode {text : String} (noZero : '\x00' ∉ text.toList) :
    parseInt (encode text.toList) = Cli.parseInt text := by
  by_cases empty : text = ""
  · rw [empty]
    rfl
  · rw [parseInt, if_neg, readInt_encode noZero empty]
    rwa [List.isEmpty_iff, EnvFile.encode_eq_nil_iff, String.toList_eq_nil_iff]

theorem getEnvIntOrDefault_encode {environment : String → Option String} {key : String}
    (noZero : ∀ value ∈ environment key, '\x00' ∉ value.toList) (default : Int) :
    getEnvIntOrDefault (fun key => (environment key).map fun value => encode value.toList)
      (some key) default = Cli.getEnvIntOrDefault environment key default := by
  rw [getEnvIntOrDefault, getEnv, Cli.getEnvIntOrDefault, Option.bind_some]
  cases found : environment key with
  | none => rfl
  | some value =>
      have same := cString_encode_of_not_mem (noZero value found)
      rw [Option.map_some, Option.map_some, Option.elim_some, Option.elim_some, same]
      by_cases empty : value = ""
      · rw [empty]
        rfl
      · rw [readInt_encode (noZero value found) empty, if_neg]
        rwa [String.isEmpty_iff]

end Texts

section Reading

variable {environment : String → Option Bytes} {key : Option String} {text : Bytes} {default : Int}

theorem cString_of_getEnv (value : getEnv environment key = some text) : cString text = text := by
  obtain ⟨name, -, found⟩ := Option.bind_eq_some_iff.mp value
  obtain ⟨held, -, rfl⟩ := Option.map_eq_some_iff.mp found
  exact cString_eq_self (zero_not_mem_cString held)

/-- When the value of a variable is taken at face value. -/
theorem getEnvIntOrDefault_faceValue_iff (isInt : IsInt default)
    (value : getEnv environment key = some text) :
    TakenAtFaceValue text id default (getEnvIntOrDefault environment key default) ↔
      DefaultWhenOutside text default := by
  have same := cString_of_getEnv value
  rw [getEnvIntOrDefault, value, Option.elim_some]
  by_cases denotes : ∃ number, Denotes UInt8.toNat text number
  · obtain ⟨number, denotes⟩ := denotes
    rw [readInt_of_denotes (by rwa [same]), Option.getD_some, takenAtFaceValue_of_denotes denotes]
    constructor
    · rintro ⟨-, outside⟩
      refine ⟨?_, fun other isOther noInt => ?_⟩
      · rintro rfl
        exact absurd denotes Strtol.not_denotes_nil
      · rw [isOther.unique denotes] at noInt ⊢
        exact (toInt32_eq_iff_dvd isInt).mp (outside noInt)
    · intro condition
      refine ⟨fun inside => ?_, fun noInt => ?_⟩
      · rw [Cli.saturate_of_isInt inside, toInt32_of_bounds inside.1 inside.2, id]
      · exact (toInt32_eq_iff_dvd isInt).mpr (condition.outside number denotes noInt)
  · have noInteger := not_exists.mp denotes
    have outside : ∀ number, Denotes UInt8.toNat text number → ¬ IsInt number →
        (2 ^ 32 : Int) ∣ saturate number - default := fun number isNumber =>
      absurd isNumber (noInteger number)
    rw [takenAtFaceValue_of_other noInteger]
    by_cases empty : text = []
    · rw [readInt_of_nil (same.trans empty), Option.getD_some]
      exact ⟨fun isDefault => ⟨fun _ => isDefault.symm, outside⟩,
        fun condition => (condition.empty empty).symm⟩
    · have rejected : readInt text = none :=
        readInt_eq_none_iff.mpr (by rw [same]; exact ⟨empty, noInteger⟩)
      rw [rejected, Option.getD_none]
      exact iff_of_true rfl ⟨fun isEmpty => absurd isEmpty empty, outside⟩

/-- The checked reader takes the value of a variable at face value, or reports an error. -/
theorem parseValidatedEnvInt_eq_ok_iff {name : String} {minValue number : Int}
    (isInt : IsInt minValue) (value : getEnv environment (some name) = some text) :
    parseValidatedEnvInt environment name default minValue = .ok number ↔
      Denotes UInt8.toNat text number ∧ minValue ≤ number ∧ IsInt number := by
  have same := cString_of_getEnv value
  rw [parseValidatedEnvInt, value, Option.elim_some]
  dsimp only
  rw [same]
  by_cases denotes : ∃ integer, Denotes UInt8.toNat text integer
  · obtain ⟨integer, denotes⟩ := denotes
    have nonempty : text.isEmpty = false := by
      rw [List.isEmpty_eq_false_iff]
      rintro rfl
      exact Strtol.not_denotes_nil denotes
    rw [nonempty, Strtol.strtol_of_denotes denotes]
    have inRange : minValue ≤ saturate integer ∧ saturate integer ≤ 2 ^ 31 - 1 ↔
        minValue ≤ integer ∧ IsInt integer := by
      unfold IsInt at isInt ⊢
      unfold saturate
      omega
    rw [if_neg Bool.false_ne_true, if_neg (by simp)]
    dsimp only
    by_cases accepted : minValue ≤ integer ∧ IsInt integer
    · obtain ⟨least, greatest⟩ := inRange.mpr accepted
      have inside := accepted.2
      rw [if_neg (not_lt.mpr least), if_neg (not_lt.mpr greatest), Cli.saturate_of_isInt inside,
        toInt32_of_bounds inside.1 inside.2, Except.ok.injEq]
      constructor
      · rintro rfl
        exact ⟨denotes, accepted⟩
      · intro isNumber
        exact denotes.unique isNumber.1
    · apply iff_of_false
      · split
        · exact nofun
        · rename_i least
          split
          · exact nofun
          · rename_i greatest
            exact absurd (inRange.mp ⟨not_lt.mp least, not_lt.mp greatest⟩) accepted
      · rintro ⟨isNumber, inside⟩
        rw [isNumber.unique denotes] at inside
        exact accepted inside
  · have noInteger := not_exists.mp denotes
    apply iff_of_false
    · split
      · exact nofun
      · rename_i nonempty
        have stops : (Strtol.strtol UInt8.toNat text).2.isEmpty = false := by
          rw [List.isEmpty_eq_false_iff, Ne, Strtol.strtol_end_iff, not_or, not_exists]
          exact ⟨fun empty => nonempty (by rw [empty]; rfl), noInteger⟩
        rw [if_pos stops]
        exact nofun
    · intro accepted
      exact noInteger number accepted.1

/-- When the value of an option is taken at face value. -/
theorem parseInt_faceValue_iff :
    TakenAtFaceValue text some none (parseInt text) ↔ NumbersWithinInt text := by
  by_cases zero : 0 ∈ text
  · have noInteger : ∀ number, ¬ Denotes UInt8.toNat text number := by
      intro number denotes
      exact Nat.lt_irrefl 0 (denotes.code_bounds 0 zero).1
    have nonempty : text.isEmpty = false := by
      rw [List.isEmpty_eq_false_iff]
      exact List.ne_nil_of_mem zero
    rw [takenAtFaceValue_of_other noInteger, parseInt, nonempty, if_neg Bool.false_ne_true,
      readInt_eq_none_iff]
    exact ⟨fun rejected => ⟨fun number denotes => absurd denotes (noInteger number),
      fun _ => rejected⟩, fun condition => condition.beforeZero zero⟩
  · have same := cString_eq_self zero
    by_cases denotes : ∃ number, Denotes UInt8.toNat text number
    · obtain ⟨number, denotes⟩ := denotes
      have nonempty : text.isEmpty = false := by
        rw [List.isEmpty_eq_false_iff]
        rintro rfl
        exact Strtol.not_denotes_nil denotes
      rw [takenAtFaceValue_of_denotes denotes, parseInt, nonempty, if_neg Bool.false_ne_true,
        readInt_of_denotes (by rwa [same])]
      constructor
      · rintro ⟨-, outside⟩
        refine ⟨fun other isOther => ?_, fun isZero => absurd isZero zero⟩
        rw [isOther.unique denotes]
        by_contra noInt
        cases outside noInt
      · intro condition
        have inside := condition.inside number denotes
        refine ⟨fun _ => ?_, fun noInt => absurd inside noInt⟩
        rw [Cli.saturate_of_isInt inside, toInt32_of_bounds inside.1 inside.2]
    · have noInteger := not_exists.mp denotes
      have rejected : parseInt text = none := by
        unfold parseInt
        split
        · rfl
        · rename_i nonempty
          rw [readInt_eq_none_iff, same]
          exact ⟨fun empty => nonempty (by rw [empty]; rfl), noInteger⟩
      rw [takenAtFaceValue_of_other noInteger]
      exact iff_of_true rejected ⟨fun number isNumber => absurd isNumber (noInteger number),
        fun isZero => absurd isZero zero⟩

end Reading

/-- A text is taken at face value just where it is not empty and denotes no integer that is no
`int`, unless what is made of it happens to be the default. -/
theorem integerTexts_faceValue_iff (text : Bytes) :
    (∀ (environment : String → Option Bytes) (key : Option String) (default : Int),
      IsInt default → getEnv environment key = some text →
        (TakenAtFaceValue text id default (getEnvIntOrDefault environment key default) ↔
          DefaultWhenOutside text default)) ∧
      (TakenAtFaceValue text some none (parseInt text) ↔ NumbersWithinInt text) :=
  ⟨fun _ _ _ isInt value => getEnvIntOrDefault_faceValue_iff isInt value, parseInt_faceValue_iff⟩

/-- An environment that sets a single variable. -/
def withVariable (name : String) (value : Bytes) : String → Option Bytes :=
  fun key => if key = name then some value else none

theorem integerTexts_faceValue_ninety :
    TakenAtFaceValue (ascii " +90") id 120
        (getEnvIntOrDefault (withVariable "OFFLINE_SEC" (ascii " +90")) (some "OFFLINE_SEC") 120) ∧
      TakenAtFaceValue (ascii " +90") some none (parseInt (ascii " +90")) := by
  have ninety : Denotes UInt8.toNat (ascii " +90") 90 :=
    Strtol.denotes_iff.mpr (by decide)
  have inside : ∀ value, Denotes UInt8.toNat (ascii " +90") value → IsInt value := by
    intro value denotes
    rw [denotes.unique ninety]
    decide
  constructor
  · refine ((integerTexts_faceValue_iff _).1 _ _ _ (by decide) (by decide)).mpr ⟨by decide, ?_⟩
    intro value denotes noInt
    exact absurd (inside value denotes) noInt
  · exact (integerTexts_faceValue_iff _).2.mpr ⟨inside, fun zero => absurd zero (by decide)⟩

/-- An empty variable is zero instead of its default, and what is left of a large integer is an
option's value. -/
theorem integerTexts_not_taken_at_face_value :
    ¬ (∀ (environment : String → Option Bytes) (key : Option String) (text : Bytes)
        (default : Int), IsInt default → getEnv environment key = some text →
          TakenAtFaceValue text id default (getEnvIntOrDefault environment key default)) ∧
      ¬ ∀ text : Bytes, TakenAtFaceValue text some none (parseInt text) := by
  constructor
  · intro faceValue
    have same := (faceValue (withVariable "OFFLINE_SEC" []) (some "OFFLINE_SEC") [] 120 (by decide)
      (by decide)).other fun _ denotes => absurd denotes Strtol.not_denotes_nil
    exact absurd same (by decide)
  · intro faceValue
    have denotes : Denotes UInt8.toNat (ascii "4294967297") 4294967297 :=
      Strtol.denotes_iff.mpr (by decide)
    have rejected := (faceValue (ascii "4294967297")).other fun _ isOther => by
      rw [isOther.unique denotes]
      decide
    exact absurd rejected (by decide)

end IntegerTexts

end DistributedComputing
