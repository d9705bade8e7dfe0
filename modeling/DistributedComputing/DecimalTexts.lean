import DistributedComputing.BrokerRecords
import Mathlib.Data.List.TakeWhile

/-!
# Decimal texts

The parsers of numbers skip blanks, take a sign and read digits.  In the decimal text of a
natural number they find neither a blank nor a sign, and its digits make up that number.
-/

namespace DistributedComputing

theorem isSpace_eq_false_of_isDigit {char : Char} (digit : char.isDigit = true) :
    isSpace char = false := by
  by_contra space
  rw [Bool.not_eq_false, isSpace, decide_eq_true_iff] at space
  simp only [List.mem_cons, List.not_mem_nil, or_false] at space
  rcases space with rfl | rfl | rfl | rfl | rfl | rfl <;> exact absurd digit (by decide)

/-- What a parser meets in the decimal text of a number. -/
structure DecimalText (number : Nat) (first : Char) (rest : List Char) : Prop where
  chars : (toString number).toList = first :: rest
  isDigit : ∀ char ∈ first :: rest, char.isDigit = true
  value : (first :: rest).foldl
    (fun total digit => 10 * total + (digit.toNat - '0'.toNat)) 0 = number

theorem exists_decimalText (number : Nat) : ∃ first rest, DecimalText number first rest := by
  have digits : (toString number).toList = Nat.toDigits 10 number :=
    Nat.toList_repr
  have value := Nat.ofDigitChars_ten_toDigits (n := number)
  rw [Nat.ofDigitChars_eq_foldl] at value
  cases found : Nat.toDigits 10 number with
  | nil => exact absurd found Nat.toDigits_ne_nil
  | cons first rest =>
      refine ⟨first, rest, digits.trans found, ?_, by rwa [found] at value⟩
      intro char member
      rw [← found] at member
      exact Nat.isDigit_of_mem_toDigits (by decide) (by decide) member

namespace DecimalText

variable {number : Nat} {first : Char} {rest : List Char} (text : DecimalText number first rest)

include text

theorem dropWhile_isSpace : (first :: rest).dropWhile isSpace = first :: rest :=
  List.dropWhile_cons_of_neg
    (by simp [isSpace_eq_false_of_isDigit (text.isDigit first List.mem_cons_self)])

theorem takeWhile_isDigit : (first :: rest).takeWhile Char.isDigit = first :: rest :=
  List.takeWhile_eq_self_iff.mpr text.isDigit

theorem not_sign : first ≠ '-' ∧ first ≠ '+' := by
  have digit := text.isDigit first List.mem_cons_self
  constructor <;>
  · rintro rfl
    cases digit

/-- The value as the simplifier writes it. -/
theorem foldl_rest : rest.foldl (fun total digit => 10 * total + (digit.toNat - 48))
    (first.toNat - 48) = number := by
  simpa using text.value

/-- The value among the integers. -/
theorem foldl_int : (first :: rest).foldl
    (fun (total : Int) digit => 10 * total + (digit.toNat - '0'.toNat : Nat)) 0 = number := by
  have cast : (first :: rest).foldl
      (fun (total : Int) digit => 10 * total + (digit.toNat - '0'.toNat : Nat)) ((0 : Nat) : Int) =
        ((first :: rest).foldl
          (fun total digit => 10 * total + (digit.toNat - '0'.toNat)) 0 : Nat) := by
    apply List.foldl_hom
    intro total digit
    omega
  rwa [text.value] at cast

end DecimalText

end DistributedComputing
