import Mathlib.Data.List.Basic
import Mathlib.Data.List.TakeWhile

/-!
# Byte strings

Texts as the bytes of a `std::string`: ASCII literals, the first occurrence of a separator, and
percent encoding.
-/

namespace DistributedComputing

/-- The bytes of a `std::string`. -/
abbrev Bytes :=
  List UInt8

/-- The byte of an ASCII character. -/
def byte (char : Char) : UInt8 :=
  UInt8.ofNat char.toNat

/-- The bytes of an ASCII text. -/
def ascii (text : String) : Bytes :=
  text.toList.map byte

/-- `isspace` in the C locale. -/
def isBlank (value : UInt8) : Bool :=
  value ∈ [byte ' ', byte '\t', byte '\n', 11, 12, byte '\r']

/-- A text as a C string: it ends at the first zero. -/
def cString (text : Bytes) : Bytes :=
  text.takeWhile fun value => decide (value ≠ 0)

theorem cString_eq_self {text : Bytes} (noZero : 0 ∉ text) : cString text = text := by
  refine List.takeWhile_eq_self_iff.mpr fun value member => decide_eq_true ?_
  rintro rfl
  exact noZero member

theorem zero_not_mem_cString (text : Bytes) : 0 ∉ cString text := by
  intro member
  have nonzero := List.mem_takeWhile_imp member
  rw [decide_eq_true_eq] at nonzero
  exact nonzero rfl

/-! ## Separators -/

/-- The text before the first separator and the text after it. -/
def splitOnce (separator : UInt8) (text : Bytes) : Option (Bytes × Bytes) :=
  if separator ∈ text then
    some (text.takeWhile fun value => decide (value ≠ separator),
      (text.dropWhile fun value => decide (value ≠ separator)).tail)
  else none

theorem takeWhile_append_cons {separator : UInt8} {front : Bytes} (absent : separator ∉ front)
    (rest : Bytes) :
    (front ++ separator :: rest).takeWhile (fun value => decide (value ≠ separator)) = front := by
  have whole : ∀ value ∈ front, decide (value ≠ separator) = true := by
    intro value member
    exact decide_eq_true fun same => absent (same ▸ member)
  rw [List.takeWhile_append_of_pos whole]
  simp

theorem dropWhile_append_cons {separator : UInt8} {front : Bytes} (absent : separator ∉ front)
    (rest : Bytes) :
    (front ++ separator :: rest).dropWhile (fun value => decide (value ≠ separator)) =
      separator :: rest := by
  have whole : ∀ value ∈ front, decide (value ≠ separator) = true := by
    intro value member
    exact decide_eq_true fun same => absent (same ▸ member)
  rw [List.dropWhile_append_of_pos whole]
  simp

theorem splitOnce_eq_some_iff {separator : UInt8} {text front rest : Bytes} :
    splitOnce separator text = some (front, rest) ↔
      text = front ++ separator :: rest ∧ separator ∉ front := by
  constructor
  · intro split
    unfold splitOnce at split
    split at split
    · rename_i member
      obtain ⟨before, after, rfl, absent⟩ := List.eq_append_cons_of_mem member
      rw [takeWhile_append_cons absent, dropWhile_append_cons absent] at split
      cases split
      exact ⟨rfl, absent⟩
    · cases split
  · rintro ⟨rfl, absent⟩
    rw [splitOnce, if_pos (by simp), takeWhile_append_cons absent, dropWhile_append_cons absent,
      List.tail_cons]

theorem splitOnce_eq_none_iff {separator : UInt8} {text : Bytes} :
    splitOnce separator text = none ↔ separator ∉ text := by
  unfold splitOnce
  split <;> simp_all

/-- What comes before the first separator is not longer than what comes before any. -/
theorem length_le_of_split {separator : UInt8} {front rest other tail : Bytes}
    (same : front ++ separator :: rest = other ++ separator :: tail)
    (absent : separator ∉ front) : front.length ≤ other.length := by
  rcases List.append_eq_append_iff.mp same with ⟨between, isOther, _⟩ | ⟨between, isFront, later⟩
  · rw [isOther, List.length_append]
    omega
  · cases between with
    | nil =>
        exact Nat.le_of_eq (by rw [isFront, List.append_nil])
    | cons first between =>
        cases later
        exact absurd (isFront ▸ List.mem_append_right _ List.mem_cons_self) absent

/-- A text that is one piece has no separator. -/
theorem splitOn_eq_single_iff {separator : UInt8} {text piece : Bytes} :
    text.splitOn separator = [piece] ↔ text = piece ∧ separator ∉ text := by
  constructor
  · intro split
    by_cases member : separator ∈ text
    · obtain ⟨before, after, rfl, _⟩ := List.eq_append_cons_of_mem member
      rw [List.splitOn_append_cons_self] at split
      have length := congrArg List.length split
      have first := List.length_pos_iff.mpr (List.splitOn_ne_nil separator before)
      have second := List.length_pos_iff.mpr (List.splitOn_ne_nil separator after)
      rw [List.length_append, List.length_singleton] at length
      omega
    · rw [List.splitOn_eq_singleton member] at split
      cases split
      exact ⟨rfl, member⟩
  · rintro ⟨rfl, absent⟩
    exact List.splitOn_eq_singleton absent

/-! ## Percent encoding -/

/-- The value of a hexadecimal digit. -/
def hexValue (digit : UInt8) : Option Nat :=
  let value := digit.toNat
  if 48 ≤ value ∧ value ≤ 57 then some (value - 48)
  else if 65 ≤ value ∧ value ≤ 70 then some (value - 55)
  else if 97 ≤ value ∧ value ≤ 102 then some (value - 87)
  else none

/-- The digit in upper case. -/
def hexDigit (value : Nat) : UInt8 :=
  UInt8.ofNat (if value < 10 then 48 + value else 55 + value)

/-- The byte that two digits stand for. -/
def hexByte (high low : UInt8) : Option UInt8 :=
  (hexValue high).bind fun high => (hexValue low).map fun low => UInt8.ofNat (16 * high + low)

/-- A percent sign must stand before two digits. -/
def percentDecode : Bytes → Option Bytes
  | [] => some []
  | first :: rest =>
      if first = byte '%' then
        match rest with
        | high :: low :: rest =>
            (hexByte high low).bind fun value =>
              (percentDecode rest).map fun decoded => value :: decoded
        | _ => none
      else (percentDecode rest).map fun decoded => first :: decoded

/-- All bytes but those that are kept as escapes. -/
def percentEncode (keep : UInt8 → Bool) (text : Bytes) : Bytes :=
  text.flatMap fun value =>
    if keep value then [value]
    else [byte '%', hexDigit (value.toNat / 16), hexDigit (value.toNat % 16)]

def blankAsPlus (value : UInt8) : UInt8 :=
  if value = byte ' ' then byte '+' else value

def plusAsBlank (value : UInt8) : UInt8 :=
  if value = byte '+' then byte ' ' else value

theorem percentDecode_of_not_mem {text : Bytes} (absent : byte '%' ∉ text) :
    percentDecode text = some text := by
  induction text with
  | nil => rfl
  | cons first rest ih =>
      rw [List.mem_cons, not_or] at absent
      unfold percentDecode
      rw [if_neg fun same => absent.1 same.symm, ih absent.2]
      rfl

/-- What is decoded is shorter unless there is nothing to decode. -/
theorem length_percentDecode {text decoded : Bytes}
    (isDecoded : percentDecode text = some decoded) :
    decoded.length ≤ text.length ∧
      (text.length ≤ decoded.length → text = decoded ∧ byte '%' ∉ text) := by
  fun_induction percentDecode text generalizing decoded with
  | case1 =>
      cases isDecoded
      exact ⟨Nat.le_refl _, fun _ => ⟨rfl, by simp⟩⟩
  | case2 high low rest ih =>
      obtain ⟨value, _, isRest⟩ := Option.bind_eq_some_iff.mp isDecoded
      obtain ⟨inner, isInner, rfl⟩ := Option.map_eq_some_iff.mp isRest
      have shorter := (ih isInner).1
      simp only [List.length_cons]
      exact ⟨by omega, fun same => by omega⟩
  | case3 => cases isDecoded
  | case4 first rest notPercent ih =>
      obtain ⟨inner, isInner, rfl⟩ := Option.map_eq_some_iff.mp isDecoded
      obtain ⟨shorter, same⟩ := ih isInner
      simp only [List.length_cons]
      refine ⟨by omega, fun long => ?_⟩
      obtain ⟨rfl, absent⟩ := same (by omega)
      refine ⟨rfl, ?_⟩
      rw [List.mem_cons, not_or]
      exact ⟨fun same => notPercent same.symm, absent⟩

/-- What may be in an encoded text: bytes that are kept, and those of escapes. -/
def mayBeEncoded (keep : UInt8 → Bool) (value : UInt8) : Bool :=
  keep value || decide (value = byte '%') || (hexValue value).isSome

theorem hexValue_hexDigit {number : Nat} (digit : number < 16) :
    hexValue (hexDigit number) = some number :=
  (show ∀ number < 16, hexValue (hexDigit number) = some number by decide) number digit

theorem mem_percentEncode {keep : UInt8 → Bool} {text : Bytes} {value : UInt8}
    (member : value ∈ percentEncode keep text) :
    value ∈ text ∧ keep value = true ∨ value = byte '%' ∨ (hexValue value).isSome = true := by
  obtain ⟨original, inText, inside⟩ := List.mem_flatMap.mp member
  have bound := original.toNat_lt
  split at inside
  · rename_i kept
    obtain rfl := List.mem_singleton.mp inside
    exact .inl ⟨inText, kept⟩
  · simp only [List.mem_cons, List.not_mem_nil, or_false] at inside
    rcases inside with rfl | rfl | rfl
    · exact .inr (.inl rfl)
    · rw [hexValue_hexDigit (by omega)]
      exact .inr (.inr rfl)
    · rw [hexValue_hexDigit (by omega)]
      exact .inr (.inr rfl)

theorem mayBeEncoded_of_mem {keep : UInt8 → Bool} {text : Bytes} {value : UInt8}
    (member : value ∈ percentEncode keep text) : mayBeEncoded keep value = true := by
  unfold mayBeEncoded
  rcases mem_percentEncode member with ⟨_, kept⟩ | rfl | digit
  · simp [kept]
  · simp
  · simp [digit]

/-- Delimiters are encoded. -/
theorem not_mem_percentEncode {keep : UInt8 → Bool} {delimiter : UInt8}
    (escaped : mayBeEncoded keep delimiter = false) (text : Bytes) :
    delimiter ∉ percentEncode keep text := by
  intro member
  rw [mayBeEncoded_of_mem member] at escaped
  cases escaped

@[simp]
theorem percentEncode_nil (keep : UInt8 → Bool) : percentEncode keep [] = [] :=
  rfl

theorem percentEncode_append (keep : UInt8 → Bool) (front rest : Bytes) :
    percentEncode keep (front ++ rest) = percentEncode keep front ++ percentEncode keep rest :=
  List.flatMap_append

theorem percentEncode_kept {keep : UInt8 → Bool} {first : UInt8} (kept : keep first = true)
    (rest : Bytes) : percentEncode keep (first :: rest) = first :: percentEncode keep rest := by
  simp [percentEncode, kept]

theorem percentEncode_escaped {keep : UInt8 → Bool} {first : UInt8} (escaped : keep first = false)
    (rest : Bytes) :
    percentEncode keep (first :: rest) =
      byte '%' :: hexDigit (first.toNat / 16) :: hexDigit (first.toNat % 16) ::
        percentEncode keep rest := by
  simp [percentEncode, escaped]

theorem hexByte_hexDigit (value : UInt8) :
    hexByte (hexDigit (value.toNat / 16)) (hexDigit (value.toNat % 16)) = some value := by
  have bound := value.toNat_lt
  rw [hexByte, hexValue_hexDigit (by omega), hexValue_hexDigit (by omega), Option.bind_some,
    Option.map_some, Nat.div_add_mod, UInt8.ofNat_toNat]

/-- What was encoded is read back. -/
theorem percentDecode_percentEncode {keep : UInt8 → Bool} (escaped : keep (byte '%') = false)
    (text : Bytes) : percentDecode (percentEncode keep text) = some text := by
  induction text with
  | nil => rfl
  | cons first rest ih =>
      cases kept : keep first with
      | true =>
          have notPercent : first ≠ byte '%' := by
            rintro rfl
            rw [kept] at escaped
            cases escaped
          rw [percentEncode_kept kept]
          unfold percentDecode
          rw [if_neg notPercent, ih]
          rfl
      | false =>
          rw [percentEncode_escaped kept]
          unfold percentDecode
          rw [if_pos rfl]
          dsimp only
          rw [hexByte_hexDigit, ih]
          rfl

end DistributedComputing
