import Mathlib.Algebra.Order.Ring.Nat
import Mathlib.Data.Int.Order.Basic
import Mathlib.Data.List.TakeWhile

/-!
# The integer at the front of a text

`strtol` with base ten: it skips blanks, takes a sign and the digits after it, and keeps the
number within 64 bits.  Without a digit it reads nothing.  It reads all of a text exactly when
the text is empty or denotes an integer.
-/

namespace DistributedComputing

namespace Strtol

variable {Letter : Type*} (code : Letter → Nat)

/-! ## Letters -/

/-- `isspace` in the C locale. -/
def isBlank (letter : Letter) : Bool :=
  decide (code letter = 32) || (decide (9 ≤ code letter) && decide (code letter ≤ 13))

def isDigit (letter : Letter) : Bool :=
  decide (48 ≤ code letter) && decide (code letter ≤ 57)

def isMinus (letter : Letter) : Bool :=
  decide (code letter = 45)

def isSign (letter : Letter) : Bool :=
  isMinus code letter || decide (code letter = 43)

/-- The number that digits make up. -/
def magnitude (digits : List Letter) : Nat :=
  digits.foldl (fun total digit => 10 * total + (code digit - 48)) 0

def signed (negative : Bool) (number : Nat) : Int :=
  if negative then -(number : Int) else number

/-- The nearest value of a 64-bit `long`. -/
def saturate (value : Int) : Int :=
  max (-2 ^ 63) (min value (2 ^ 63 - 1))

/-! ## Reading -/

def afterBlanks (text : List Letter) : List Letter :=
  text.dropWhile (isBlank code)

def isNegative (text : List Letter) : Bool :=
  (afterBlanks code text).head?.any (isMinus code)

def afterSign (text : List Letter) : List Letter :=
  if (afterBlanks code text).head?.any (isSign code) then (afterBlanks code text).tail
  else afterBlanks code text

def digits (text : List Letter) : List Letter :=
  (afterSign code text).takeWhile (isDigit code)

/-- What is read, and where reading stops. -/
def strtol (text : List Letter) : Int × List Letter :=
  if (digits code text).isEmpty then (0, text)
  else
    (saturate (signed (isNegative code text) (magnitude code (digits code text))),
      (afterSign code text).dropWhile (isDigit code))

/-! ## Integers as they are written -/

/-- What stands before the digits of a number that is negative or not. -/
inductive SignText : List Letter → Bool → Prop
  | absent : SignText [] false
  | plus {letter : Letter} (isPlus : code letter = 43) : SignText [letter] false
  | minus {letter : Letter} (isMinus : code letter = 45) : SignText [letter] true

/-- The text is blanks, perhaps a sign, and the digits of the number. -/
inductive Denotes : List Letter → Int → Prop
  | intro {blanks sign digits : List Letter} {negative : Bool}
      (areBlanks : ∀ letter ∈ blanks, isBlank code letter = true)
      (signText : SignText code sign negative) (nonempty : digits ≠ [])
      (areDigits : ∀ letter ∈ digits, isDigit code letter = true) :
      Denotes (blanks ++ (sign ++ digits)) (signed negative (magnitude code digits))

variable {code}

theorem isBlank_eq_false_of_isDigit {letter : Letter} (digit : isDigit code letter = true) :
    isBlank code letter = false := by
  simp only [isDigit, Bool.and_eq_true, decide_eq_true_eq] at digit
  simp only [isBlank, Bool.or_eq_false_iff, Bool.and_eq_false_iff, decide_eq_false_iff_not]
  omega

theorem isSign_eq_false_of_isDigit {letter : Letter} (digit : isDigit code letter = true) :
    isSign code letter = false := by
  simp only [isDigit, Bool.and_eq_true, decide_eq_true_eq] at digit
  simp only [isSign, isMinus, Bool.or_eq_false_iff, decide_eq_false_iff_not]
  omega

theorem isBlank_eq_false_of_isSign {letter : Letter} (sign : isSign code letter = true) :
    isBlank code letter = false := by
  simp only [isSign, isMinus, Bool.or_eq_true, decide_eq_true_eq] at sign
  simp only [isBlank, Bool.or_eq_false_iff, Bool.and_eq_false_iff, decide_eq_false_iff_not]
  omega

theorem SignText.isSign {sign : List Letter} {negative : Bool}
    (signText : SignText code sign negative) :
    ∀ letter ∈ sign, Strtol.isSign code letter = true ∧ isMinus code letter = negative := by
  cases signText with
  | absent => simp
  | plus isPlus => simp [Strtol.isSign, isMinus, isPlus]
  | minus isMinus => simp [Strtol.isSign, Strtol.isMinus, isMinus]

section Parts

variable {blanks sign digits : List Letter} {negative : Bool}
  (areBlanks : ∀ letter ∈ blanks, isBlank code letter = true)
  (signText : SignText code sign negative)
  (areDigits : ∀ letter ∈ digits, isDigit code letter = true) (nonempty : digits ≠ [])

include areBlanks signText areDigits

theorem afterBlanks_of_parts : afterBlanks code (blanks ++ (sign ++ digits)) = sign ++ digits := by
  have notBlank : ∀ letter ∈ (sign ++ digits).head?, isBlank code letter = false := by
    cases sign with
    | nil =>
        intro letter first
        exact isBlank_eq_false_of_isDigit (areDigits letter (List.mem_of_mem_head? first))
    | cons mark sign =>
        rintro letter ⟨⟩
        exact isBlank_eq_false_of_isSign (signText.isSign mark List.mem_cons_self).1
  rw [afterBlanks, List.dropWhile_append_of_pos areBlanks]
  cases rest : sign ++ digits with
  | nil => rfl
  | cons letter rest' =>
      have stops := notBlank letter (by rw [rest]; rfl)
      exact List.dropWhile_cons_of_neg (by simp [stops])

include nonempty

theorem afterSign_of_parts : afterSign code (blanks ++ (sign ++ digits)) = digits := by
  have parts := afterBlanks_of_parts areBlanks signText areDigits
  rw [afterSign, parts]
  cases signText with
  | absent =>
      obtain ⟨first, rest, rfl⟩ := List.exists_cons_of_ne_nil nonempty
      have notSign := isSign_eq_false_of_isDigit (areDigits first List.mem_cons_self)
      simp [notSign]
  | plus isPlus => simp [isSign, isPlus]
  | minus isMinus => simp [isSign, Strtol.isMinus, isMinus]

theorem isNegative_of_parts : isNegative code (blanks ++ (sign ++ digits)) = negative := by
  have parts := afterBlanks_of_parts areBlanks signText areDigits
  rw [isNegative, parts]
  cases signText with
  | absent =>
      obtain ⟨first, rest, rfl⟩ := List.exists_cons_of_ne_nil nonempty
      have notSign := isSign_eq_false_of_isDigit (areDigits first List.mem_cons_self)
      rw [isSign, Bool.or_eq_false_iff] at notSign
      simp [notSign.1]
  | plus isPlus => simp [Strtol.isMinus, isPlus]
  | minus isMinus => simp [Strtol.isMinus, isMinus]

end Parts

/-- The number in front of a text is the text when reading does not stop before its end. -/
theorem denotes_iff {text : List Letter} {value : Int} :
    Denotes code text value ↔
      digits code text ≠ [] ∧ (afterSign code text).dropWhile (isDigit code) = [] ∧
        value = signed (isNegative code text) (magnitude code (digits code text)) := by
  constructor
  · rintro ⟨areBlanks, signText, nonempty, areDigits⟩
    rename_i written _
    have all : written.takeWhile (isDigit code) = written :=
      List.takeWhile_eq_self_iff.mpr areDigits
    rw [digits, afterSign_of_parts areBlanks signText areDigits nonempty,
      isNegative_of_parts areBlanks signText areDigits nonempty, all]
    exact ⟨nonempty, List.dropWhile_eq_nil_iff.mpr areDigits, rfl⟩
  · rintro ⟨nonempty, atEnd, rfl⟩
    have areDigits : digits code text = afterSign code text := by
      have split := List.takeWhile_append_dropWhile (p := isDigit code) (l := afterSign code text)
      rwa [atEnd, List.append_nil] at split
    obtain ⟨sign, signText, parts⟩ : ∃ sign, SignText code sign (isNegative code text) ∧
        afterBlanks code text = sign ++ digits code text := by
      rw [areDigits, afterSign, isNegative]
      cases rest : afterBlanks code text with
      | nil => exact ⟨[], .absent, rfl⟩
      | cons first rest =>
          by_cases minus : code first = 45
          · exact ⟨[first], by simpa [isMinus, minus] using .minus minus,
              by simp [isSign, isMinus, minus]⟩
          · by_cases plus : code first = 43
            · exact ⟨[first], by simpa [isMinus, plus] using .plus plus,
                by simp [isSign, isMinus, plus]⟩
            · exact ⟨[], by simpa [isMinus, minus] using .absent,
                by simp [isSign, isMinus, minus, plus]⟩
    have whole := List.takeWhile_append_dropWhile (p := isBlank code) (l := text)
    rw [← afterBlanks, parts] at whole
    have areBlanks : ∀ letter ∈ text.takeWhile (isBlank code), isBlank code letter = true :=
      fun _ member => List.mem_takeWhile_imp member
    have denotes := Denotes.intro areBlanks signText nonempty
      fun _ member => List.mem_takeWhile_imp member
    rwa [whole] at denotes

theorem Denotes.unique {text : List Letter} {first second : Int} (isFirst : Denotes code text first)
    (isSecond : Denotes code text second) : first = second :=
  (denotes_iff.mp isFirst).2.2.trans (denotes_iff.mp isSecond).2.2.symm

theorem strtol_of_denotes {text : List Letter} {value : Int} (denotes : Denotes code text value) :
    strtol code text = (saturate value, []) := by
  obtain ⟨nonempty, atEnd, rfl⟩ := denotes_iff.mp denotes
  rw [strtol, if_neg (by simpa using nonempty), atEnd]

/-- Reading gets to the end of an empty text and of an integer. -/
theorem strtol_end_iff {text : List Letter} :
    (strtol code text).2 = [] ↔ text = [] ∨ ∃ value, Denotes code text value := by
  constructor
  · intro atEnd
    unfold strtol at atEnd
    split at atEnd
    · exact .inl atEnd
    · rename_i nonempty
      exact .inr ⟨_, denotes_iff.mpr ⟨by simpa using nonempty, atEnd, rfl⟩⟩
  · rintro (rfl | ⟨value, denotes⟩)
    · rfl
    · rw [strtol_of_denotes denotes]

theorem not_denotes_nil {value : Int} : ¬ Denotes code [] value := by
  intro denotes
  exact (denotes_iff.mp denotes).1 rfl

/-! ## Other alphabets -/

theorem Denotes.code_bounds {text : List Letter} {value : Int}
    (denotes : Denotes code text value) :
    ∀ letter ∈ text, 0 < code letter ∧ code letter < 128 := by
  obtain ⟨areBlanks, signText, -, areDigits⟩ := denotes
  intro letter member
  simp only [List.mem_append] at member
  rcases member with inBlanks | inSign | inDigits
  · have blank := areBlanks letter inBlanks
    simp only [isBlank, Bool.or_eq_true, Bool.and_eq_true, decide_eq_true_eq] at blank
    omega
  · have sign := (signText.isSign letter inSign).1
    simp only [isSign, isMinus, Bool.or_eq_true, decide_eq_true_eq] at sign
    omega
  · have digit := areDigits letter inDigits
    simp only [isDigit, Bool.and_eq_true, decide_eq_true_eq] at digit
    omega

/-- Nothing but the codes of the letters counts. -/
theorem denotes_codes_iff {text : List Letter} {value : Int} :
    Denotes id (text.map code) value ↔ Denotes code text value := by
  have blanks : afterBlanks id (text.map code) = (afterBlanks code text).map code :=
    List.dropWhile_map
  have negative : isNegative id (text.map code) = isNegative code text := by
    rw [isNegative, isNegative, blanks, List.head?_map, Option.any_map]
    rfl
  have sign : afterSign id (text.map code) = (afterSign code text).map code := by
    rw [afterSign, afterSign, blanks, List.head?_map, Option.any_map, ← List.map_tail]
    exact (apply_ite (List.map code) _ _ _).symm
  have total : ∀ digits : List Letter, magnitude id (digits.map code) = magnitude code digits :=
    fun digits => List.foldl_map
  rw [denotes_iff, denotes_iff, digits, digits, negative, sign, List.takeWhile_map,
    List.dropWhile_map, total, Ne, List.map_eq_nil_iff, List.map_eq_nil_iff]
  exact Iff.rfl

end Strtol

end DistributedComputing
