import Mathlib.Data.Int.Init

/-!
# Timestamps and their ISO 8601 texts

Clock readings are milliseconds since 1970-01-01T00:00:00Z.  Texts in the protocol
have the form `YYYY-MM-DDTHH:MM:SSZ`, so they carry whole seconds.
-/

namespace DistributedComputing

/-- A clock reading, in milliseconds since the epoch. -/
abbrev Time := Int

namespace IsoTime

/-- Days since the epoch of a date in the proleptic Gregorian calendar.  The day may
exceed the length of its month, as `timegm` allows. -/
def daysFromCivil (year month day : Int) : Int :=
  let shifted := if month ≤ 2 then year - 1 else year
  let era := shifted / 400
  let yearOfEra := shifted % 400
  let dayOfYear := (153 * ((month + 9) % 12) + 2) / 5 + day - 1
  era * 146097 + (yearOfEra * 365 + yearOfEra / 4 - yearOfEra / 100 + dayOfYear) - 719468

/-- Year, month and day of a number of days since the epoch. -/
def civilFromDays (days : Int) : Int × Int × Int :=
  let shifted := days + 719468
  let era := shifted / 146097
  let dayOfEra := shifted % 146097
  let yearOfEra := (dayOfEra - dayOfEra / 1460 + dayOfEra / 36524 - dayOfEra / 146096) / 365
  let dayOfYear := dayOfEra - (365 * yearOfEra + yearOfEra / 4 - yearOfEra / 100)
  let monthIndex := (5 * dayOfYear + 2) / 153
  let month := if monthIndex < 10 then monthIndex + 3 else monthIndex - 9
  let year := yearOfEra + era * 400
  (if month ≤ 2 then year + 1 else year, month,
    dayOfYear - (153 * monthIndex + 2) / 5 + 1)

/-- A number with at least the given number of digits. -/
def padded (width : Nat) (value : Int) : List Char :=
  let digits := (toString value).toList
  List.replicate (width - digits.length) '0' ++ digits

/-- `strftime` and `put_time` with `%Y-%m-%dT%H:%M:%SZ`, and PostgreSQL's `to_char`
with the corresponding template. -/
def isoUtc (time : Time) : String :=
  let seconds := time / 1000
  let date := civilFromDays (seconds / 86400)
  let secondOfDay := seconds % 86400
  String.ofList
    (padded 4 date.1 ++ '-' :: padded 2 date.2.1 ++ '-' :: padded 2 date.2.2 ++ 'T' ::
      padded 2 (secondOfDay / 3600) ++ ':' :: padded 2 (secondOfDay / 60 % 60) ++ ':' ::
      padded 2 (secondOfDay % 60) ++ ['Z'])

/-- `DateToIsoUtc` of the Mongo broker, where `to_time_t` cuts off fractions of a second. -/
def dateToIsoUtc (date : Time) : String :=
  isoUtc (date.tdiv 1000 * 1000)

theorem dateToIsoUtc_of_nonneg {date : Int} (sinceEpoch : 0 ≤ date) :
    dateToIsoUtc date = isoUtc date := by
  have seconds : date.tdiv 1000 * 1000 / 1000 = date / 1000 := by
    rw [Int.tdiv_eq_ediv_of_nonneg sinceEpoch]
    omega
  unfold dateToIsoUtc isoUtc
  rw [seconds]

/-- The fields of a `std::tm` that the texts fill in: as in C, the year counts from 1900
and the month from January. -/
structure Tm where
  year : Int := 0
  month : Int := 0
  day : Int := 0
  hour : Int := 0
  minute : Int := 0
  second : Int := 0

/-- `timegm`: fields out of range are carried over. -/
def timegm (tm : Tm) : Int :=
  daysFromCivil (1900 + tm.year + tm.month / 12) (tm.month % 12 + 1) tm.day * 86400 +
    tm.hour * 3600 + tm.minute * 60 + tm.second

/-- The `b_date` of `system_clock::from_time_t`.  The clock counts nanoseconds in 64 bits,
which end in 2262, and a date holds its milliseconds. -/
def fromTimeT (seconds : Int) : Time :=
  (Int64.ofInt (seconds * 1000000000)).toInt.tdiv 1000000

theorem fromTimeT_of_bounds {seconds : Int} (sinceEpoch : 0 ≤ seconds)
    (inRange : seconds ≤ 9223372036) : fromTimeT seconds = seconds * 1000 := by
  have nanoseconds : (Int64.ofInt (seconds * 1000000000)).toInt = seconds * 1000000000 := by
    rw [Int64.toInt_ofInt, Int.bmod_def, Int64.size]
    split <;> omega
  rw [fromTimeT, nanoseconds, Int.tdiv_eq_ediv_of_nonneg (by omega)]
  change seconds * 1000000000 / 1000000 = seconds * 1000
  omega

/-- `ParseIsoUtc` of the Mongo broker, over what `std::get_time` with `%Y-%m-%dT%H:%M:%SZ`
makes of a text: times before the epoch are refused. -/
def parseIsoUtc (getTime : String → Option Tm) (raw : String) : Option Time :=
  if raw.isEmpty then none
  else
    match getTime raw with
    | none => none
    | some tm => if timegm tm < 0 then none else some (fromTimeT (timegm tm))

/-! ## Texts in the full form -/

/-- Up to `width` digits whose value lies in a range. -/
def takeNumber (width low high : Nat) (text : List Char) : Option (Nat × List Char) :=
  let digits := (text.take width).takeWhile Char.isDigit
  let value := digits.foldl (fun total digit => 10 * total + (digit.toNat - '0'.toNat)) 0
  if digits ≠ [] ∧ low ≤ value ∧ value ≤ high then
    some (value, text.drop digits.length)
  else none

/-- An ordinary character of the format. -/
def takeLiteral (literal : Char) : List Char → Option (List Char)
  | [] => none
  | char :: text => if char = literal then some text else none

def parseFields (text : List Char) : Option Tm := do
  let (year, text) ← takeNumber 4 0 9999 (text.dropWhile Char.isWhitespace)
  let text ← takeLiteral '-' text
  let (month, text) ← takeNumber 2 1 12 text
  let text ← takeLiteral '-' text
  let (day, text) ← takeNumber 2 1 31 text
  let text ← takeLiteral 'T' text
  let (hour, text) ← takeNumber 2 0 23 text
  let text ← takeLiteral ':' text
  let (minute, text) ← takeNumber 2 0 59 text
  let text ← takeLiteral ':' text
  let (second, text) ← takeNumber 2 0 60 text
  let _ ← takeLiteral 'Z' text
  return {
    year := year - 1900
    month := month - 1
    day := day
    hour := hour
    minute := minute
    second := second }

/-- A `get_time` that wants all fields of the format.  The C++ libraries also read texts
that leave some out, or that differ in case, and not all of them the same ones. -/
def readFields (raw : String) : Option Tm :=
  parseFields raw.toList

example : isoUtc 1735981020000 = "2025-01-04T08:57:00Z" := by decide

example : parseIsoUtc readFields "2025-01-04T08:57:00Z" = some 1735981020000 := by decide

example : (parseIsoUtc readFields "2300-01-01T00:00:00Z").map dateToIsoUtc =
    some "1715-06-13T00:25:27Z" := by decide

end IsoTime

end DistributedComputing
