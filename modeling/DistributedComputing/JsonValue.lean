import Mathlib.Algebra.Ring.Int.Defs
import Mathlib.Algebra.Ring.Nat

/-!
# JSON values

The part of the JSON library that the request handlers, the brokers and the worker's
client use: values, membership, typed reads and member assignment.  Strings are
sequences of Unicode scalar values, which is what parsing a JSON text produces.
-/

namespace DistributedComputing

/-- Conversion of a wider integer to a 32-bit `int`, modulo `2 ^ 32`. -/
def toInt32 (value : Int) : Int :=
  value.bmod (2 ^ 32)

theorem toInt32_of_bounds {value : Int} (low : -2 ^ 31 ≤ value) (high : value < 2 ^ 31) :
    toInt32 value = value := by
  unfold toInt32
  rw [Int.bmod_def]
  split <;> omega

theorem toInt32_bounds (value : Int) : -2 ^ 31 ≤ toInt32 value ∧ toInt32 value < 2 ^ 31 := by
  unfold toInt32
  rw [Int.bmod_def]
  split <;> omega

@[simp]
theorem toInt32_toInt32 (value : Int) : toInt32 (toInt32 value) = toInt32 value :=
  toInt32_of_bounds (toInt32_bounds value).1 (toInt32_bounds value).2

/-- Whether a text holds the character U+0000. -/
def textHoldsNul (text : String) : Bool :=
  text.toList.contains (Char.ofNat 0)

/-- A JSON value.  Integers are the numbers from `-2 ^ 63` to below `2 ^ 64` that are written
without fraction or exponent; other numbers keep only their text. -/
inductive Json
  | null
  | boolean (value : Bool)
  | integer (value : Int)
  | float (text : String)
  | string (value : String)
  | array (items : List Json)
  | object (members : List (String × Json))
  deriving Inhabited

namespace Json

/-- First member with the given name. -/
def find (name : String) : List (String × Json) → Option Json
  | [] => none
  | member :: members => if member.1 = name then some member.2 else find name members

/-- Replace the member with the given name, or add it. -/
def assign (name : String) (value : Json) : List (String × Json) → List (String × Json)
  | [] => [(name, value)]
  | member :: members =>
      if member.1 = name then (name, value) :: members
      else member :: assign name value members

theorem find_assign_self (name : String) (value : Json) (members : List (String × Json)) :
    find name (assign name value members) = some value := by
  induction members with
  | nil => simp [assign, find]
  | cons member members ih =>
      by_cases same : member.1 = name
      · simp [assign, find, same]
      · simp [assign, find, same, ih]

theorem find_assign_of_ne {name other : String} (different : name ≠ other) (value : Json)
    (members : List (String × Json)) :
    find other (assign name value members) = find other members := by
  induction members with
  | nil => simp [assign, find, different]
  | cons member members ih =>
      by_cases same : member.1 = name
      · have absent : member.1 ≠ other := fun equal => different (same.symm.trans equal)
        simp [assign, find, same, different]
      · simp only [assign, same, if_false, find, ih]

/-- `j[name]` on a constant object, and the absence of it on anything else. -/
def member (name : String) : Json → Option Json
  | .object members => find name members
  | _ => none

/-- `j.contains(name)`. -/
def contains (name : String) (json : Json) : Bool :=
  (json.member name).isSome

/-- `j[name] = value`, where a null value becomes an object first. -/
def insert (json : Json) (name : String) (value : Json) : Json :=
  match json with
  | .object members => .object (assign name value members)
  | .null => .object [(name, value)]
  | json => json

/-- `j[name] = value` when there is a value to store. -/
def insertSome (json : Json) (name : String) (value : Option Json) : Json :=
  match value with
  | some value => json.insert name value
  | none => json

@[simp]
theorem member_object (name : String) (members : List (String × Json)) :
    (Json.object members).member name = find name members :=
  rfl

@[simp]
theorem insert_object (name : String) (value : Json) (members : List (String × Json)) :
    (Json.object members).insert name value = .object (assign name value members) :=
  rfl

/-- The value is an object. -/
def IsObject : Json → Prop
  | .object _ => True
  | _ => False

theorem IsObject.insert {json : Json} (isObject : json.IsObject) (name : String)
    (value : Json) : (json.insert name value).IsObject := by
  cases json <;> simp_all [IsObject, Json.insert]

theorem IsObject.insertSome {json : Json} (isObject : json.IsObject) (name : String)
    (value : Option Json) : (json.insertSome name value).IsObject := by
  cases value with
  | none => exact isObject
  | some value => exact isObject.insert name value

theorem IsObject.member_insert_self {json : Json} (isObject : json.IsObject) (name : String)
    (value : Json) : (json.insert name value).member name = some value := by
  cases json <;> simp_all [IsObject, find_assign_self]

theorem member_insert_of_ne {name other : String} (different : name ≠ other) (value : Json)
    (json : Json) : (json.insert name value).member other = json.member other := by
  cases json <;> simp [Json.insert, member, find, different, find_assign_of_ne different]

theorem member_insertSome_of_ne {name other : String} (different : name ≠ other)
    (value : Option Json) (json : Json) :
    (json.insertSome name value).member other = json.member other := by
  cases value with
  | none => rfl
  | some value => exact member_insert_of_ne different value json

theorem IsObject.member_insertSome_self {json : Json} (isObject : json.IsObject)
    (name : String) (value : Option Json) (absent : json.member name = none) :
    (json.insertSome name value).member name = value := by
  cases value with
  | none => exact absent
  | some value => exact isObject.member_insert_self name value

theorem IsObject.member_insertSome {json : Json} (isObject : json.IsObject) (name other : String)
    (value : Option Json) :
    (json.insertSome name value).member other =
      if other = name then value.or (json.member name) else json.member other := by
  by_cases same : other = name
  · subst same
    cases value with
    | none => simp [Json.insertSome]
    | some value => simpa [Json.insertSome] using isObject.member_insert_self other value
  · rw [if_neg same, member_insertSome_of_ne (Ne.symm same)]

/-- The string of a string value. -/
def asString : Json → Option String
  | .string value => some value
  | _ => none

/-- The integer of an integer value. -/
def asInteger : Json → Option Int
  | .integer value => some value
  | _ => none

/-- The items of an array. -/
def asArray : Json → Option (List Json)
  | .array items => some items
  | _ => none

def isNull : Json → Bool
  | .null => true
  | _ => false

mutual

/-- A string of the value or a name in it holds the character U+0000. -/
def holdsNul : Json → Bool
  | .string value => textHoldsNul value
  | .array items => itemsHoldNul items
  | .object members => membersHoldNul members
  | _ => false

def itemsHoldNul : List Json → Bool
  | [] => false
  | item :: items => item.holdsNul || itemsHoldNul items

def membersHoldNul : List (String × Json) → Bool
  | [] => false
  | (name, value) :: members =>
      textHoldsNul name || value.holdsNul || membersHoldNul members

end

theorem holdsNul_of_find {name : String} {value : Json} {members : List (String × Json)}
    (whole : membersHoldNul members = false) (found : find name members = some value) :
    value.holdsNul = false := by
  induction members with
  | nil => cases found
  | cons member members ih =>
      obtain ⟨other, held⟩ := member
      simp only [membersHoldNul, Bool.or_eq_false_iff] at whole
      simp only [find] at found
      split at found
      · cases found
        exact whole.1.2
      · exact ih whole.2 found

theorem holdsNul_of_member {name : String} {value json : Json} (whole : json.holdsNul = false)
    (found : json.member name = some value) : value.holdsNul = false := by
  cases json with
  | object members =>
      rw [holdsNul] at whole
      exact holdsNul_of_find whole found
  | _ => cases found

/-- Whether the value is an object. -/
def isObject : Json → Bool
  | .object _ => true
  | _ => false

theorem IsObject.isObject_eq {json : Json} (isObject : json.IsObject) :
    json.isObject = true := by
  cases json <;> simp_all [IsObject, Json.isObject]

/-- The string member with the given name, when present and a string. -/
def stringMember (name : String) (json : Json) : Option String :=
  (json.member name).bind asString

theorem whole_of_stringMember {name text : String} {json : Json} (whole : json.holdsNul = false)
    (found : json.stringMember name = some text) : textHoldsNul text = false := by
  obtain ⟨value, isMember, isString⟩ := Option.bind_eq_some_iff.mp found
  have wholeValue := holdsNul_of_member whole isMember
  cases value with
  | string held =>
      cases isString
      simpa only [holdsNul] using wholeValue
  | _ => cases isString

/-- The integer member with the given name, when present and an integer. -/
def integerMember (name : String) (json : Json) : Option Int :=
  (json.member name).bind asInteger

/-- The array member with the given name, when present and an array. -/
def arrayMember (name : String) (json : Json) : Option (List Json) :=
  (json.member name).bind asArray

/-- The object member with the given name, when present and an object. -/
def objectMember (name : String) (json : Json) : Option Json :=
  (json.member name).filter isObject

end Json

end DistributedComputing
