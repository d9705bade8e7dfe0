import Mathlib.Algebra.Ring.Nat
import Mathlib.Data.List.TakeWhile
import DistributedComputing.IsoTime

/-!
# Reading back ISO 8601 texts

The text of a time whose year has four digits is read back as that time, up to its
milliseconds.
-/

namespace DistributedComputing

namespace IsoTime

/-! ## The calendar -/

section Calendar

variable {dayOfEra : Int} (low : 0 ≤ dayOfEra) (high : dayOfEra < 146097)

include low high

theorem yearOfEra_bounds :
    let yearOfEra := (dayOfEra - dayOfEra / 1460 + dayOfEra / 36524 - dayOfEra / 146096) / 365
    0 ≤ yearOfEra ∧ yearOfEra ≤ 399 := by
  intro yearOfEra
  omega

/-- The day lies in its year.  Within one century the divisions of the two bounds line up. -/
theorem dayOfYear_bounds :
    let yearOfEra := (dayOfEra - dayOfEra / 1460 + dayOfEra / 36524 - dayOfEra / 146096) / 365
    let dayOfYear := dayOfEra - (365 * yearOfEra + yearOfEra / 4 - yearOfEra / 100)
    0 ≤ dayOfYear ∧ dayOfYear ≤ 365 := by
  intro yearOfEra dayOfYear
  have centuries : dayOfEra / 36524 = 0 ∨ dayOfEra / 36524 = 1 ∨ dayOfEra / 36524 = 2 ∨
      dayOfEra / 36524 = 3 ∨ dayOfEra = 146096 := by omega
  rcases centuries with century | century | century | century | lastDay
  · have hundred : yearOfEra / 100 = 0 := by omega
    constructor <;> omega
  · have hundred : yearOfEra / 100 = 1 := by omega
    constructor <;> omega
  · have hundred : yearOfEra / 100 = 2 := by omega
    constructor <;> omega
  · have hundred : yearOfEra / 100 = 3 := by omega
    constructor <;> omega
  · subst lastDay
    decide

end Calendar

theorem civilFromDays_bounds (days : Int) :
    (1 ≤ (civilFromDays days).2.1 ∧ (civilFromDays days).2.1 ≤ 12) ∧
      1 ≤ (civilFromDays days).2.2 ∧ (civilFromDays days).2.2 ≤ 31 := by
  have low : 0 ≤ (days + 719468) % 146097 := by omega
  have high : (days + 719468) % 146097 < 146097 := by omega
  have bounds := dayOfYear_bounds low high
  unfold civilFromDays
  dsimp only at bounds ⊢
  generalize (days + 719468) % 146097 - _ = dayOfYear at bounds ⊢
  refine ⟨⟨?_, ?_⟩, ?_, ?_⟩
  · split <;> omega
  · split <;> omega
  · omega
  · omega

/-- The date of a day in a year that is counted from March. -/
theorem daysFromCivil_of_dayOfYear {yearOfEra dayOfYear : Int} (era : Int)
    (yearBounds : 0 ≤ yearOfEra ∧ yearOfEra ≤ 399) (bounds : 0 ≤ dayOfYear ∧ dayOfYear ≤ 365) :
    let monthIndex := (5 * dayOfYear + 2) / 153
    let month := if monthIndex < 10 then monthIndex + 3 else monthIndex - 9
    let year := yearOfEra + era * 400
    daysFromCivil (if month ≤ 2 then year + 1 else year) month
        (dayOfYear - (153 * monthIndex + 2) / 5 + 1) =
      era * 146097 + (yearOfEra * 365 + yearOfEra / 4 - yearOfEra / 100 + dayOfYear) - 719468 := by
  intro monthIndex month year
  have monthBounds : 0 ≤ monthIndex ∧ monthIndex ≤ 11 := by omega
  have shifted : (if month ≤ 2 then
      (if month ≤ 2 then year + 1 else year) - 1 else (if month ≤ 2 then year + 1 else year)) =
        year := by
    split <;> omega
  have sameEra : year / 400 = era := by omega
  have sameYear : year % 400 = yearOfEra := by omega
  have sameMonth : (month + 9) % 12 = monthIndex := by
    simp only [month]
    split <;> omega
  unfold daysFromCivil
  dsimp only
  rw [shifted, sameEra, sameYear, sameMonth]
  omega

theorem daysFromCivil_civilFromDays (days : Int) :
    daysFromCivil (civilFromDays days).1 (civilFromDays days).2.1 (civilFromDays days).2.2 =
      days := by
  have low : 0 ≤ (days + 719468) % 146097 := by omega
  have high : (days + 719468) % 146097 < 146097 := by omega
  refine (daysFromCivil_of_dayOfYear ((days + 719468) / 146097) (yearOfEra_bounds low high)
    (dayOfYear_bounds low high)).trans ?_
  omega

/-! ## The digits -/

section Digits

variable {width value : Nat} (positive : 0 < width) (fits : value < 10 ^ width)

theorem padded_eq (width value : Nat) :
    padded width value = List.replicate (width - (Nat.toDigits 10 value).length) '0' ++
      Nat.toDigits 10 value := by
  have digits : (toString (value : Int)).toList = Nat.toDigits 10 value := Nat.toList_repr
  unfold padded
  rw [digits]

theorem all_isDigit_padded (width value : Nat) :
    ∀ char ∈ padded width value, char.isDigit = true := by
  intro char member
  rw [padded_eq] at member
  rcases List.mem_append.mp member with zero | digit
  · rw [List.eq_of_mem_replicate zero]
    rfl
  · exact Nat.isDigit_of_mem_toDigits (by decide) (by decide) digit

theorem foldl_padded (width value : Nat) :
    (padded width value).foldl (fun total digit => 10 * total + (digit.toNat - '0'.toNat)) 0 =
      value := by
  have zeros : ∀ count : Nat, (List.replicate count '0').foldl
      (fun total digit => 10 * total + (digit.toNat - '0'.toNat)) 0 = 0 := by
    intro count
    induction count with
    | zero => rfl
    | succ count ih => rw [List.replicate_succ, List.foldl_cons]; exact ih
  have digits := Nat.ofDigitChars_ten_toDigits (n := value)
  rw [Nat.ofDigitChars_eq_foldl] at digits
  rw [padded_eq, List.foldl_append, zeros]
  exact digits

include positive fits

theorem length_padded : (padded width value).length = width := by
  have short := (Nat.length_toDigits_le_iff (b := 10) (by decide) positive).mpr fits
  rw [padded_eq, List.length_append, List.length_replicate]
  omega

/-- A padded number is read back, and the rest of the text is left. -/
theorem takeNumber_padded {low high : Nat} (inRange : low ≤ value ∧ value ≤ high)
    (rest : List Char) :
    takeNumber width low high (padded width value ++ rest) = some (value, rest) := by
  have length := length_padded positive fits
  have taken : (padded width value ++ rest).take width = padded width value :=
    List.take_left' length
  have digits : (padded width value).takeWhile Char.isDigit = padded width value :=
    List.takeWhile_eq_self_iff.mpr (all_isDigit_padded width value)
  have nonempty : padded width value ≠ [] := by
    intro empty
    rw [empty, List.length_nil] at length
    omega
  unfold takeNumber
  simp only [taken, digits, foldl_padded, nonempty, inRange.1, inRange.2, ne_eq, not_false_eq_true,
    and_self, if_true]
  rw [List.drop_left]

end Digits

/-! ## The texts -/

def year (time : Time) : Int :=
  (civilFromDays (time / 1000 / 86400)).1

theorem year_nonneg {time : Int} (sinceEpoch : 0 ≤ time) : 0 ≤ year time := by
  have low : 0 ≤ (time / 1000 / 86400 + 719468) % 146097 := by omega
  have high : (time / 1000 / 86400 + 719468) % 146097 < 146097 := by omega
  have bounds := yearOfEra_bounds low high
  have era : 0 ≤ (time / 1000 / 86400 + 719468) / 146097 := by omega
  unfold year civilFromDays
  dsimp only at bounds ⊢
  split <;> omega

theorem takeLiteral_cons (literal : Char) (text : List Char) :
    takeLiteral literal (literal :: text) = some text := by
  simp [takeLiteral]

/-- A text that begins with digits has no blanks to skip. -/
theorem dropWhile_padded {width value : Nat} (positive : 0 < width) (fits : value < 10 ^ width)
    (rest : List Char) :
    (padded width value ++ rest).dropWhile Char.isWhitespace = padded width value ++ rest := by
  have length := length_padded positive fits
  have digits := all_isDigit_padded width value
  cases held : padded width value with
  | nil =>
      rw [held, List.length_nil] at length
      omega
  | cons char chars =>
      rw [held] at digits
      have isDigit := digits char (List.mem_cons_self ..)
      have visible : char.isWhitespace = false := by
        cases blank : char.isWhitespace with
        | false => rfl
        | true =>
            simp only [Char.isWhitespace, Bool.or_eq_true, decide_eq_true_eq] at blank
            rcases blank with ((rfl | rfl) | rfl) | rfl <;> cases isDigit
      rw [List.cons_append, List.dropWhile_cons_of_neg (by simp [visible])]

/-- The fields of a text in the format are read back. -/
theorem parseFields_fields {year month day hour minute second : Nat} (yearBound : year ≤ 9999)
    (monthBounds : 1 ≤ month ∧ month ≤ 12) (dayBounds : 1 ≤ day ∧ day ≤ 31)
    (hourBound : hour ≤ 23) (minuteBound : minute ≤ 59) (secondBound : second ≤ 59) :
    parseFields
        (padded 4 year ++ '-' :: padded 2 month ++ '-' :: padded 2 day ++ 'T' ::
          padded 2 hour ++ ':' :: padded 2 minute ++ ':' :: padded 2 second ++ ['Z']) =
      some ⟨year - 1900, month - 1, day, hour, minute, second⟩ := by
  have fits : ∀ value : Nat, value ≤ 59 → value < 10 ^ 2 := by omega
  have yearFits : year < 10 ^ 4 := by omega
  simp only [List.append_assoc, List.cons_append]
  unfold parseFields
  rw [dropWhile_padded (by decide) yearFits, takeNumber_padded (by decide) yearFits (by omega)]
  simp only [bind, Option.bind_some, takeLiteral_cons]
  rw [takeNumber_padded (by decide) (fits month (by omega)) monthBounds]
  simp only [Option.bind_some, takeLiteral_cons]
  rw [takeNumber_padded (by decide) (fits day (by omega)) dayBounds]
  simp only [Option.bind_some, takeLiteral_cons]
  rw [takeNumber_padded (by decide) (fits hour (by omega)) (by omega)]
  simp only [Option.bind_some, takeLiteral_cons]
  rw [takeNumber_padded (by decide) (fits minute minuteBound) (by omega)]
  simp only [Option.bind_some, takeLiteral_cons]
  rw [takeNumber_padded (by decide) (fits second secondBound) (by omega)]
  simp only [Option.bind_some, takeLiteral_cons]
  rfl

/-- The time of a date and a time of day that are in range. -/
theorem timegm_fields {year month day hour minute second : Int}
    (monthBounds : 1 ≤ month ∧ month ≤ 12) :
    timegm ⟨year - 1900, month - 1, day, hour, minute, second⟩ =
      daysFromCivil year month day * 86400 + hour * 3600 + minute * 60 + second := by
  have sameYear : 1900 + (year - 1900) + (month - 1) / 12 = year := by omega
  have sameMonth : (month - 1) % 12 + 1 = month := by omega
  unfold timegm
  rw [sameYear, sameMonth]

/-- The fields of the text of a time are those of its second. -/
theorem parseFields_isoUtc {time : Int} (fourDigits : 0 ≤ year time ∧ year time ≤ 9999) :
    (parseFields (isoUtc time).toList).map timegm = some (time / 1000) := by
  have bounds := civilFromDays_bounds (time / 1000 / 86400)
  have date := daysFromCivil_civilFromDays (time / 1000 / 86400)
  unfold year at fourDigits
  unfold isoUtc
  rw [String.toList_ofList]
  generalize civilFromDays (time / 1000 / 86400) = civil at *
  obtain ⟨year, month, day⟩ := civil
  dsimp only at fourDigits bounds date ⊢
  have secondBounds : 0 ≤ time / 1000 % 86400 ∧ time / 1000 % 86400 < 86400 := by omega
  have split : time / 1000 = time / 1000 / 86400 * 86400 + time / 1000 % 86400 := by omega
  generalize time / 1000 % 86400 = secondOfDay at *
  generalize time / 1000 / 86400 = days at *
  obtain ⟨yearNumber, rfl⟩ := Int.eq_ofNat_of_zero_le fourDigits.1
  obtain ⟨monthNumber, rfl⟩ := Int.eq_ofNat_of_zero_le (by omega : 0 ≤ month)
  obtain ⟨dayNumber, rfl⟩ := Int.eq_ofNat_of_zero_le (by omega : 0 ≤ day)
  obtain ⟨secondNumber, rfl⟩ := Int.eq_ofNat_of_zero_le secondBounds.1
  have hour : (secondNumber : Int) / 3600 = (secondNumber / 3600 : Nat) := by omega
  have minute : (secondNumber : Int) / 60 % 60 = (secondNumber / 60 % 60 : Nat) := by omega
  have second : (secondNumber : Int) % 60 = (secondNumber % 60 : Nat) := by omega
  rw [hour, minute, second, parseFields_fields (by omega) (by omega) (by omega) (by omega)
    (by omega) (by omega), Option.map_some, timegm_fields (by omega), date, split]
  congr 1
  omega

/-- The reader takes the texts of the times from the epoch to the year 9999. -/
def ReadsForm (getTime : String → Option Tm) : Prop :=
  ∀ time : Int, 0 ≤ time → year time ≤ 9999 →
    (getTime (isoUtc time)).map timegm = some (time / 1000)

theorem readsForm_readFields : ReadsForm readFields :=
  fun _ sinceEpoch fourDigits => parseFields_isoUtc ⟨year_nonneg sinceEpoch, fourDigits⟩

theorem isEmpty_isoUtc {time : Int} (sinceEpoch : 0 ≤ time) (fourDigits : year time ≤ 9999) :
    (isoUtc time).isEmpty = false := by
  have parsed := parseFields_isoUtc ⟨year_nonneg sinceEpoch, fourDigits⟩
  cases empty : (isoUtc time).isEmpty with
  | false => rfl
  | true =>
      rw [String.isEmpty_iff.mp empty] at parsed
      cases parsed

theorem nul_not_mem_padded (width : Nat) (value : Int) :
    Char.ofNat 0 ∉ padded width value := by
  intro member
  cases value with
  | ofNat value => exact absurd (all_isDigit_padded width value _ member) (by decide)
  | negSucc value =>
      rcases List.mem_append.mp member with zero | digit
      · exact absurd (List.eq_of_mem_replicate zero) (by decide)
      · have sign : (toString (Int.negSucc value)).toList =
            '-' :: (toString (value + 1)).toList := by
          change ("-" ++ toString (value + 1)).toList = _
          rw [String.toList_append]
          rfl
        rw [sign] at digit
        rcases List.mem_cons.mp digit with isSign | digit
        · exact absurd isSign (by decide)
        · exact absurd (Nat.isDigit_of_mem_toDigits (by decide) (by decide)
            (Nat.toList_repr ▸ digit)) (by decide)

theorem nul_not_mem_isoUtc (time : Time) : Char.ofNat 0 ∉ (isoUtc time).toList := by
  unfold isoUtc
  rw [String.toList_ofList]
  simp only [List.mem_append, List.mem_cons, nul_not_mem_padded, List.not_mem_nil, or_false,
    false_or]
  decide

/-- The Mongo broker reads the text of a time back up to 2262, less its milliseconds. -/
theorem parseIsoUtc_isoUtc {getTime : String → Option Tm} (reads : ReadsForm getTime)
    {time : Int} (sinceEpoch : 0 ≤ time) (inRange : time / 1000 ≤ 9223372036)
    (fourDigits : year time ≤ 9999) :
    parseIsoUtc getTime (isoUtc time) = some (time / 1000 * 1000) := by
  have read := reads time sinceEpoch fourDigits
  obtain ⟨tm, isTm, seconds⟩ := Option.map_eq_some_iff.mp read
  have notEarlier : ¬ timegm tm < 0 := by omega
  unfold parseIsoUtc
  rw [isEmpty_isoUtc sinceEpoch fourDigits, isTm]
  dsimp only
  rw [if_neg Bool.false_ne_true, if_neg notEarlier, seconds,
    fromTimeT_of_bounds (by omega) inRange]

end IsoTime

end DistributedComputing
