import DistributedComputing.ByteTexts
import Mathlib.Data.List.DropRight

/-!
# Request targets

How the HTTP library carries the path of a request: the client encodes some bytes of it, and the
server cuts the request line into words, cuts the target at a fragment and at a query, and decodes
what is left.
-/

namespace DistributedComputing

namespace Httplib

/-! ## The client -/

/-- What the client escapes in a path. -/
def escapesInPath (value : UInt8) : Bool :=
  (ascii " +\r\n',;").contains value || decide (0x80 ≤ value.toNat)

def encodePath (text : Bytes) : Bytes :=
  percentEncode (fun value => !escapesInPath value) (cString text)

def isAlphanumeric (value : UInt8) : Bool :=
  decide (48 ≤ value.toNat ∧ value.toNat ≤ 57 ∨ 65 ≤ value.toNat ∧ value.toNat ≤ 90 ∨
    97 ≤ value.toNat ∧ value.toNat ≤ 122)

/-- What the client does not escape in a query; a blank becomes a plus sign. -/
def keepsInQuery (value : UInt8) : Bool :=
  isAlphanumeric value || (ascii "-._~ !$'()*,;:@/?").contains value

def encodeQueryComponent (component : Bytes) : Bytes :=
  (percentEncode keepsInQuery component).map blankAsPlus

/-- Texts in which escapes are replaced: what the escape after a percent sign stands for and how
many bytes it takes, and how the other bytes are read.  The number is of bytes to skip. -/
def decodeWith (escape : Bytes → Option (Bytes × Nat)) (plain : UInt8 → UInt8) :
    Nat → Bytes → Bytes
  | _, [] => []
  | skip + 1, _ :: rest => decodeWith escape plain skip rest
  | 0, first :: rest =>
      if first = byte '%' then
        (escape rest).elim (first :: decodeWith escape plain 0 rest) fun read =>
          read.1 ++ decodeWith escape plain read.2 rest
      else plain first :: decodeWith escape plain 0 rest

/-- What `strtoul` makes of two characters, if it takes both. -/
def hexPair (first second : UInt8) : Option UInt8 :=
  (hexValue second).bind fun low =>
    if isBlank first || decide (first = byte '+') then some (UInt8.ofNat low)
    else if first = byte '-' then some (UInt8.ofNat (256 - low))
    else (hexValue first).map fun high => UInt8.ofNat (16 * high + low)

def queryEscape (text : Bytes) : Option (Bytes × Nat) :=
  (text[0]?).bind fun first => (text[1]?).bind fun second =>
    (hexPair first second).map fun value => ([value], 2)

def decodeQueryComponent (component : Bytes) : Bytes :=
  decodeWith queryEscape plusAsBlank 0 component

def isSpaceOrTab (value : UInt8) : Bool :=
  decide (value = byte ' ') || decide (value = byte '\t')

def trim (text : Bytes) : Bytes :=
  (text.dropWhile isSpaceOrTab).rdropWhile isSpaceOrTab

/-- The trimmed pieces that are not empty. -/
def split (separator : UInt8) (text : Bytes) : List Bytes :=
  ((text.splitOn separator).map trim).filter fun piece => !piece.isEmpty

/-- What comes before the separator and what comes after it. -/
def divide (separator : UInt8) (text : Bytes) : Bytes × Bytes :=
  (splitOnce separator text).getD (text, [])

def normalizeParameter (piece : Bytes) : Bytes :=
  let key := (divide (byte '=') piece).1
  let val := (divide (byte '=') piece).2
  encodeQueryComponent (decodeQueryComponent key) ++
    if val ≠ [] ∨ byte '=' ∈ piece then
      byte '=' :: encodeQueryComponent (decodeQueryComponent val)
    else []

def normalizeQueryString (query : Bytes) : Bytes :=
  (split (byte '&') query).foldl
    (fun result piece =>
      if (divide (byte '=') piece).1 = [] then result
      else (if result = [] then [] else result ++ [byte '&']) ++ normalizeParameter piece) []

/-- What is written into the request line for a path. -/
def pathWithQuery (path : Bytes) : Bytes :=
  let queryPart := (divide (byte '?') path).2
  encodePath (divide (byte '?') path).1 ++
    if queryPart = [] ∨ normalizeQueryString queryPart = [] then []
    else byte '?' :: normalizeQueryString queryPart

def requestLine (method path : Bytes) : Bytes :=
  method ++ byte ' ' :: path ++ ascii " HTTP/1.1\r\n"

/-! ## The server -/

/-- The bytes up to the first line break and with it. -/
def takeLine : Bytes → Option Bytes
  | [] => none
  | first :: rest =>
      if first = byte '\r' ∧ rest.head? = some (byte '\n') then some [byte '\r', byte '\n']
      else (takeLine rest).map fun line => first :: line

def maxLineLength : Nat :=
  32768

def requestUriMaxLength : Nat :=
  8192

def getline (stream : Bytes) : Option Bytes :=
  (takeLine stream).filter fun line => decide (line.length ≤ maxLineLength)

/-- The number that so many hexadecimal digits stand for. -/
def fromHexToI : Nat → Nat → Bytes → Option Nat
  | 0, value, _ => some value
  | _ + 1, _, [] => none
  | count + 1, value, digit :: rest =>
      (hexValue digit).bind fun number => fromHexToI count (16 * value + number) rest

/-- Code points up to 0xFFFF. -/
def toUtf8 (code : Nat) : Bytes :=
  if code < 0x80 then [UInt8.ofNat code]
  else if code < 0x800 then [UInt8.ofNat (0xC0 + code / 64), UInt8.ofNat (0x80 + code % 64)]
  else if code < 0xD800 then
    [UInt8.ofNat (0xE0 + code / 4096), UInt8.ofNat (0x80 + code / 64 % 64),
      UInt8.ofNat (0x80 + code % 64)]
  else if code < 0xE000 then []
  else
    [UInt8.ofNat (0xE0 + code / 4096), UInt8.ofNat (0x80 + code / 64 % 64),
      UInt8.ofNat (0x80 + code % 64)]

/-- Two digits, or four after the letter u. -/
def pathEscape (text : Bytes) : Option (Bytes × Nat) :=
  if text.head? = some (byte 'u') then
    (fromHexToI 4 0 text.tail).map fun code => (toUtf8 code, 5)
  else (fromHexToI 2 0 text).map fun value => ([UInt8.ofNat value], 2)

def decodePathComponent (component : Bytes) : Bytes :=
  decodeWith pathEscape id 0 component

structure Request where
  method : Bytes
  target : Bytes
  path : Bytes
  deriving DecidableEq

def methods : List Bytes :=
  ["GET", "HEAD", "POST", "PUT", "DELETE", "CONNECT", "OPTIONS", "TRACE", "PATCH", "PRI"].map ascii

def versions : List Bytes :=
  [ascii "HTTP/1.1", ascii "HTTP/1.0"]

/-- A request line has three words; a fragment does not belong to the target. -/
def parseRequestLine (line : Bytes) : Option Request :=
  let text := cString line
  let words := split (byte ' ') (text.dropLast.dropLast)
  let target := (words[1]?.getD []).takeWhile fun value => decide (value ≠ byte '#')
  if [byte '\r', byte '\n'].isSuffixOf text = true ∧ words.length = 3 ∧
      words[0]?.getD [] ∈ methods ∧ words[2]?.getD [] ∈ versions then
    some
      { method := words[0]?.getD []
        target := target
        path := decodePathComponent (divide (byte '?') target).1 }
  else none

/-- The request that is routed, if the line is one and its target is not too long. -/
def receive (stream : Bytes) : Option Request :=
  ((getline stream).bind parseRequestLine).filter fun request =>
    decide (request.target.length ≤ requestUriMaxLength)

/-! ## Decoding -/

theorem decodeWith_eq_drop (escape : Bytes → Option (Bytes × Nat)) (plain : UInt8 → UInt8)
    (skip : Nat) (text : Bytes) :
    decodeWith escape plain skip text = decodeWith escape plain 0 (text.drop skip) := by
  induction skip generalizing text with
  | zero => rfl
  | succ skip ih =>
      cases text with
      | nil => rfl
      | cons first rest => exact ih rest

@[simp]
theorem decodePathComponent_nil : decodePathComponent [] = [] :=
  rfl

theorem decodePathComponent_of_ne {first : UInt8} (notPercent : first ≠ byte '%') (rest : Bytes) :
    decodePathComponent (first :: rest) = first :: decodePathComponent rest :=
  if_neg notPercent

theorem decodePathComponent_escape {rest decoded : Bytes} {count : Nat}
    (escape : pathEscape rest = some (decoded, count)) :
    decodePathComponent (byte '%' :: rest) = decoded ++ decodePathComponent (rest.drop count) := by
  unfold decodePathComponent
  rw [decodeWith, if_pos rfl, escape, Option.elim_some, decodeWith_eq_drop]

theorem decodePathComponent_stray {rest : Bytes} (noEscape : pathEscape rest = none) :
    decodePathComponent (byte '%' :: rest) = byte '%' :: decodePathComponent rest := by
  unfold decodePathComponent
  rw [decodeWith, if_pos rfl, noEscape, Option.elim_none]

/-- What may come after a percent sign in an escape. -/
def isEscapeByte (value : UInt8) : Bool :=
  (hexValue value).isSome || decide (value = byte 'u')

theorem fromHexToI_takeWhile (count value : Nat) (text : Bytes) :
    fromHexToI count value (text.takeWhile isEscapeByte) = fromHexToI count value text := by
  induction count generalizing value text with
  | zero => rfl
  | succ count ih =>
      cases text with
      | nil => rfl
      | cons digit rest =>
          cases known : hexValue digit with
          | none =>
              have missing : fromHexToI (count + 1) value (digit :: rest) = none := by
                rw [fromHexToI, known, Option.bind_none]
              rw [missing, List.takeWhile_cons]
              split
              · rw [fromHexToI, known, Option.bind_none]
              · rfl
          | some number =>
              have inside : isEscapeByte digit = true := by simp [isEscapeByte, known]
              rw [List.takeWhile_cons_of_pos inside, fromHexToI, fromHexToI, known,
                Option.bind_some, Option.bind_some, ih]

theorem length_of_fromHexToI {count value number : Nat} {text : Bytes}
    (isNumber : fromHexToI count value text = some number) : count ≤ text.length := by
  induction count generalizing value text with
  | zero => exact Nat.zero_le _
  | succ count ih =>
      cases text with
      | nil => cases isNumber
      | cons digit rest =>
          obtain ⟨_, _, isRest⟩ := Option.bind_eq_some_iff.mp isNumber
          exact Nat.succ_le_succ (ih isRest)

theorem pathEscape_takeWhile (text : Bytes) :
    pathEscape (text.takeWhile isEscapeByte) = pathEscape text := by
  have isLetter : isEscapeByte (byte 'u') = true := by decide
  unfold pathEscape
  cases text with
  | nil => rfl
  | cons first rest =>
      by_cases letter : first = byte 'u'
      · subst letter
        rw [List.takeWhile_cons_of_pos isLetter, List.head?_cons, List.head?_cons, if_pos rfl,
          if_pos rfl, List.tail_cons, List.tail_cons, fromHexToI_takeWhile]
      · have other : ¬ (first :: rest).head? = some (byte 'u') := by
          rwa [List.head?_cons, Option.some_inj]
        have otherToo : ¬ ((first :: rest).takeWhile isEscapeByte).head? = some (byte 'u') := by
          rw [List.takeWhile_cons]
          split
          · exact other
          · exact nofun
        rw [if_neg other, if_neg otherToo, fromHexToI_takeWhile]

theorem length_toUtf8 (code : Nat) : (toUtf8 code).length ≤ 3 := by
  unfold toUtf8
  split_ifs <;> simp

/-- An escape takes more bytes than it stands for, and all of them may be in an escape. -/
theorem length_of_pathEscape {text decoded : Bytes} {count : Nat}
    (escape : pathEscape text = some (decoded, count)) :
    decoded.length ≤ count ∧ count ≤ (text.takeWhile isEscapeByte).length := by
  rw [← pathEscape_takeWhile] at escape
  unfold pathEscape at escape
  split at escape
  · rename_i letter
    obtain ⟨code, isCode, same⟩ := Option.map_eq_some_iff.mp escape
    obtain ⟨rfl, rfl⟩ := Prod.mk.inj same
    obtain ⟨tail, isTail⟩ := List.head?_eq_some_iff.mp letter
    rw [isTail, List.tail_cons] at isCode
    have enough := length_of_fromHexToI isCode
    have short := length_toUtf8 code
    rw [isTail, List.length_cons]
    omega
  · obtain ⟨value, isValue, same⟩ := Option.map_eq_some_iff.mp escape
    obtain ⟨rfl, rfl⟩ := Prod.mk.inj same
    exact ⟨by simp, length_of_fromHexToI isValue⟩

/-- Induction over the escapes of a text. -/
theorem decodePathComponent_induction {holds : Bytes → Prop} (nil : holds [])
    (plain : ∀ first rest, first ≠ byte '%' → holds rest → holds (first :: rest))
    (escape : ∀ rest decoded count, pathEscape rest = some (decoded, count) →
      holds (rest.drop count) → holds (byte '%' :: rest))
    (stray : ∀ rest, pathEscape rest = none → holds rest → holds (byte '%' :: rest))
    (text : Bytes) : holds text := by
  induction length : text.length using Nat.strong_induction_on generalizing text with
  | h size ih =>
      cases text with
      | nil => exact nil
      | cons first rest =>
          rw [List.length_cons] at length
          by_cases percent : first = byte '%'
          · subst percent
            cases found : pathEscape rest with
            | none => exact stray rest found (ih _ (by omega) rest rfl)
            | some read =>
                have shorter : (rest.drop read.2).length ≤ rest.length := by
                  rw [List.length_drop]
                  exact Nat.sub_le _ _
                exact escape rest read.1 read.2 found (ih _ (by omega) _ rfl)
          · exact plain first rest percent (ih _ (by omega) rest rfl)

theorem length_decodePathComponent (text : Bytes) :
    (decodePathComponent text).length ≤ text.length ∧
      (text.length ≤ (decodePathComponent text).length → decodePathComponent text = text) := by
  induction text using decodePathComponent_induction with
  | nil => exact ⟨Nat.le_refl _, fun _ => rfl⟩
  | plain first rest notPercent ih =>
      rw [decodePathComponent_of_ne notPercent, List.length_cons, List.length_cons]
      exact ⟨Nat.succ_le_succ ih.1, fun long => by rw [ih.2 (Nat.le_of_succ_le_succ long)]⟩
  | escape rest decoded count found ih =>
      have sizes := length_of_pathEscape found
      have inside := (List.takeWhile_prefix (l := rest) isEscapeByte).length_le
      have shorter := ih.1
      rw [List.length_drop] at shorter
      rw [decodePathComponent_escape found, List.length_append, List.length_cons]
      exact ⟨by omega, fun long => by omega⟩
  | stray rest noEscape ih =>
      rw [decodePathComponent_stray noEscape, List.length_cons, List.length_cons]
      exact ⟨Nat.succ_le_succ ih.1, fun long => by rw [ih.2 (Nat.le_of_succ_le_succ long)]⟩

/-- An escape is not longer than what may belong to it. -/
theorem drop_of_takeWhile {text rest : Bytes} {count : Nat}
    (within : count ≤ (text.takeWhile isEscapeByte).length) :
    (text ++ rest).drop count = text.drop count ++ rest := by
  have inside := (List.takeWhile_prefix (l := text) isEscapeByte).length_le
  exact List.drop_append_of_le_length (by omega)

/-- What comes after a byte that is in no escape does not change what comes before it. -/
theorem decodePathComponent_append {delimiter : UInt8} (outside : isEscapeByte delimiter = false)
    (front rest : Bytes) :
    decodePathComponent (front ++ delimiter :: rest) =
      decodePathComponent front ++ decodePathComponent (delimiter :: rest) := by
  have same : ∀ text : Bytes, pathEscape (text ++ delimiter :: rest) = pathEscape text := by
    intro text
    rw [← pathEscape_takeWhile, ← pathEscape_takeWhile text]
    congr 1
    induction text with
    | nil => exact List.takeWhile_cons_of_neg (by simp [outside])
    | cons first text ih => rw [List.cons_append, List.takeWhile_cons, List.takeWhile_cons, ih]
  induction front using decodePathComponent_induction with
  | nil => rfl
  | plain first front notPercent ih =>
      rw [List.cons_append, decodePathComponent_of_ne notPercent,
        decodePathComponent_of_ne notPercent, ih, List.cons_append]
  | escape front decoded count found ih =>
      rw [decodePathComponent_escape found, List.cons_append,
        decodePathComponent_escape ((same front).trans found),
        drop_of_takeWhile (length_of_pathEscape found).2, ih, List.append_assoc]
  | stray front noEscape ih =>
      rw [decodePathComponent_stray noEscape, List.cons_append,
        decodePathComponent_stray ((same front).trans noEscape), ih, List.cons_append]

/-! ## Encoding -/

/-- What the client makes of a path without a zero. -/
def encode (text : Bytes) : Bytes :=
  percentEncode (fun value => !escapesInPath value) text

theorem not_escapes_of_isEscapeByte {value : UInt8} (inside : isEscapeByte value = true) :
    (!escapesInPath value) = true := by
  have all : ∀ number < 256, isEscapeByte (UInt8.ofNat number) = true →
      (!escapesInPath (UInt8.ofNat number)) = true := by
    decide +kernel
  have known := all value.toNat value.toNat_lt
  rw [UInt8.ofNat_toNat] at known
  exact known inside

theorem isEscapeByte_percent : isEscapeByte (byte '%') = false := by
  decide

theorem takeWhile_isEscapeByte_encode (text : Bytes) :
    (encode text).takeWhile isEscapeByte = text.takeWhile isEscapeByte := by
  induction text with
  | nil => rfl
  | cons first rest ih =>
      unfold encode at ih ⊢
      cases kept : !escapesInPath first with
      | true => rw [percentEncode_kept kept, List.takeWhile_cons, List.takeWhile_cons, ih]
      | false =>
          have outside : ¬ isEscapeByte first = true := by
            intro inside
            rw [not_escapes_of_isEscapeByte inside] at kept
            cases kept
          rw [percentEncode_escaped kept, List.takeWhile_cons_of_neg outside,
            List.takeWhile_cons_of_neg (by rw [isEscapeByte_percent]; exact Bool.false_ne_true)]

theorem drop_encode {text : Bytes} {count : Nat}
    (within : count ≤ (text.takeWhile isEscapeByte).length) :
    (encode text).drop count = encode (text.drop count) := by
  induction count generalizing text with
  | zero => rfl
  | succ count ih =>
      cases text with
      | nil => cases within
      | cons first rest =>
          cases inside : isEscapeByte first with
          | false =>
              rw [List.takeWhile_cons_of_neg (by simp [inside])] at within
              cases within
          | true =>
              rw [List.takeWhile_cons_of_pos inside] at within
              rw [encode, percentEncode_kept (not_escapes_of_isEscapeByte inside), ← encode,
                List.drop_succ_cons, List.drop_succ_cons]
              exact ih (Nat.le_of_succ_le_succ within)

/-- The escapes of the client are undone, and those that were in the text before are as well. -/
theorem decodePathComponent_encode (text : Bytes) :
    decodePathComponent (encode text) = decodePathComponent text := by
  have same : ∀ rest, pathEscape (encode rest) = pathEscape rest := by
    intro rest
    rw [← pathEscape_takeWhile, takeWhile_isEscapeByte_encode, pathEscape_takeWhile]
  have percentKept : (!escapesInPath (byte '%')) = true := by decide
  induction text using decodePathComponent_induction with
  | nil => rfl
  | plain first rest notPercent ih =>
      cases kept : !escapesInPath first with
      | true =>
          rw [encode, percentEncode_kept kept, ← encode, decodePathComponent_of_ne notPercent, ih,
            decodePathComponent_of_ne notPercent]
      | false =>
          have bound := first.toNat_lt
          have notLetter : hexDigit (first.toNat / 16) ≠ byte 'u' := by
            have all : ∀ number < 16, hexDigit number ≠ byte 'u' := by decide
            exact all _ (by omega)
          have escape : pathEscape (hexDigit (first.toNat / 16) ::
              hexDigit (first.toNat % 16) :: encode rest) = some ([first], 2) := by
            rw [pathEscape, List.head?_cons, if_neg (by rwa [Option.some_inj]), fromHexToI,
              hexValue_hexDigit (by omega), Option.bind_some, fromHexToI,
              hexValue_hexDigit (by omega), Option.bind_some, fromHexToI, Option.map_some,
              Nat.mul_zero, Nat.zero_add, Nat.div_add_mod, UInt8.ofNat_toNat]
          rw [encode, percentEncode_escaped kept, ← encode, decodePathComponent_escape escape,
            decodePathComponent_of_ne notPercent, ← ih]
          rfl
  | escape rest decoded count found ih =>
      rw [encode, percentEncode_kept percentKept, ← encode,
        decodePathComponent_escape ((same rest).trans found), decodePathComponent_escape found,
        drop_encode (length_of_pathEscape found).2, ih]
  | stray rest noEscape ih =>
      rw [encode, percentEncode_kept percentKept, ← encode,
        decodePathComponent_stray ((same rest).trans noEscape),
        decodePathComponent_stray noEscape, ih]

/-- A delimiter that is not escaped stays where it is. -/
theorem takeWhile_encode {delimiter : UInt8} (kept : (!escapesInPath delimiter) = true)
    (outside : isEscapeByte delimiter = false) (notPercent : delimiter ≠ byte '%')
    (text : Bytes) :
    (encode text).takeWhile (fun value => decide (value ≠ delimiter)) =
      encode (text.takeWhile fun value => decide (value ≠ delimiter)) := by
  have digit : ∀ number < 16, hexDigit number ≠ delimiter := by
    rintro number small rfl
    rw [isEscapeByte, hexValue_hexDigit small] at outside
    cases outside
  induction text with
  | nil => rfl
  | cons first rest ih =>
      by_cases found : first = delimiter
      · subst found
        rw [encode, percentEncode_kept kept, List.takeWhile_cons_of_neg (by simp),
          List.takeWhile_cons_of_neg (by simp)]
        rfl
      · have bound := first.toNat_lt
        rw [List.takeWhile_cons_of_pos (by simp [found]), encode]
        cases isKept : !escapesInPath first with
        | true =>
            rw [percentEncode_kept isKept, ← encode, List.takeWhile_cons_of_pos (by simp [found]),
              ih, encode, encode, percentEncode_kept isKept]
        | false =>
            rw [percentEncode_escaped isKept, ← encode,
              List.takeWhile_cons_of_pos (by simp [Ne.symm notPercent]),
              List.takeWhile_cons_of_pos (by simp [digit (first.toNat / 16) (by omega)]),
              List.takeWhile_cons_of_pos (by simp [digit (first.toNat % 16) (by omega)]), ih,
              encode, encode, percentEncode_escaped isKept]

/-- Tabs at the end are not escaped. -/
theorem rdropWhile_encode (text : Bytes) :
    (encode text).rdropWhile isSpaceOrTab =
      encode (text.rdropWhile fun value => decide (value = byte '\t')) := by
  have tabKept : (!escapesInPath (byte '\t')) = true := by decide
  induction text using List.reverseRecOn with
  | nil => rfl
  | append_singleton text last ih =>
      rw [encode, percentEncode_append]
      by_cases tab : last = byte '\t'
      · subst tab
        rw [percentEncode_kept tabKept, percentEncode_nil,
          List.rdropWhile_concat_pos _ _ _ (by decide), ← encode, ih,
          List.rdropWhile_concat_pos _ _ _ (by simp)]
      · rw [List.rdropWhile_concat_neg _ _ _ (by simp [tab]), encode, percentEncode_append]
        cases kept : !escapesInPath last with
        | true =>
            have notBlank : isSpaceOrTab last = false := by
              have blank : last ≠ byte ' ' := by
                rintro rfl
                revert kept
                decide
              simp [isSpaceOrTab, tab, blank]
            rw [percentEncode_kept kept, percentEncode_nil,
              List.rdropWhile_concat_neg _ _ _ (by simp [notBlank])]
        | false =>
            have bound := last.toNat_lt
            have notBlank : isSpaceOrTab (hexDigit (last.toNat % 16)) = false := by
              have all : ∀ number < 16, isSpaceOrTab (hexDigit number) = false := by
                decide
              exact all _ (by omega)
            rw [percentEncode_escaped kept, percentEncode_nil,
              show ∀ front : Bytes, front ++ [byte '%', hexDigit (last.toNat / 16),
                hexDigit (last.toNat % 16)] = (front ++ [byte '%', hexDigit (last.toNat / 16)]) ++
                  [hexDigit (last.toNat % 16)] by simp,
              List.rdropWhile_concat_neg _ _ _ (by simp [notBlank])]

/-! ## Request lines -/

/-- A text that is one word of a request line. -/
def IsWord (text : Bytes) : Prop :=
  byte ' ' ∉ text ∧ byte '\r' ∉ text ∧ 0 ∉ text

theorem isWord_of_forall {text : Bytes}
    (each : ∀ value ∈ text, value ≠ byte ' ' ∧ value ≠ byte '\r' ∧ value ≠ 0) : IsWord text :=
  ⟨fun member => (each _ member).1 rfl, fun member => (each _ member).2.1 rfl,
    fun member => (each _ member).2.2 rfl⟩

theorem IsWord.append {front rest : Bytes} (first : IsWord front) (second : IsWord rest) :
    IsWord (front ++ rest) := by
  unfold IsWord at *
  simp only [List.mem_append, not_or]
  exact ⟨⟨first.1, second.1⟩, ⟨first.2.1, second.2.1⟩, first.2.2, second.2.2⟩

theorem isWord_encode {text : Bytes} (noZero : 0 ∉ text) : IsWord (encode text) := by
  have zero : 0 ∉ encode text := by
    intro member
    rcases mem_percentEncode member with ⟨inside, _⟩ | percent | digit
    · exact noZero inside
    · exact absurd percent (by decide)
    · exact absurd digit (by decide)
  exact ⟨not_mem_percentEncode (by decide) _, not_mem_percentEncode (by decide) _,
    zero⟩

theorem isWord_encodeQueryComponent (component : Bytes) :
    IsWord (encodeQueryComponent component) := by
  refine isWord_of_forall fun value member => ?_
  obtain ⟨original, inside, rfl⟩ := List.mem_map.mp member
  have all : ∀ number < 256, mayBeEncoded keepsInQuery (UInt8.ofNat number) = true →
      blankAsPlus (UInt8.ofNat number) ≠ byte ' ' ∧
        blankAsPlus (UInt8.ofNat number) ≠ byte '\r' ∧ blankAsPlus (UInt8.ofNat number) ≠ 0 := by
    decide +kernel
  have known := all original.toNat original.toNat_lt
  rw [UInt8.ofNat_toNat] at known
  exact known (mayBeEncoded_of_mem inside)

theorem isWord_nil : IsWord [] :=
  ⟨List.not_mem_nil, List.not_mem_nil, List.not_mem_nil⟩

theorem isWord_normalizeParameter (piece : Bytes) : IsWord (normalizeParameter piece) := by
  refine (isWord_encodeQueryComponent _).append ?_
  split
  · exact (show IsWord [byte '='] by unfold IsWord; decide).append
      (isWord_encodeQueryComponent _)
  · exact isWord_nil

theorem isWord_normalizeQueryString (query : Bytes) : IsWord (normalizeQueryString query) := by
  refine List.foldlRecOn _ _ isWord_nil fun result isWord piece _ => ?_
  split
  · exact isWord
  · refine IsWord.append ?_ (isWord_normalizeParameter piece)
    split
    · exact isWord_nil
    · exact isWord.append (by unfold IsWord; decide)

theorem takeLine_append {text : Bytes} (absent : byte '\r' ∉ text) :
    takeLine (text ++ [byte '\r', byte '\n']) = some (text ++ [byte '\r', byte '\n']) := by
  induction text with
  | nil => decide
  | cons first text ih =>
      rw [List.mem_cons, not_or] at absent
      rw [List.cons_append, takeLine, if_neg fun both => absent.1 both.1.symm, ih absent.2]
      rfl

/-- What is left of a target when the request line has been read. -/
def receivedTarget (target : Bytes) : Bytes :=
  (target.rdropWhile isSpaceOrTab).takeWhile fun value => decide (value ≠ byte '#')

section RequestLine

variable {method target : Bytes} (isMethod : method ∈ methods) (isWord : IsWord target)
  (slash : target.head? = some (byte '/'))

include isMethod isWord slash

theorem split_requestLine :
    split (byte ' ') (method ++ byte ' ' :: target ++ ascii " HTTP/1.1") =
      [method, target.rdropWhile isSpaceOrTab, ascii "HTTP/1.1"] := by
  have plain : ∀ known ∈ methods, byte ' ' ∉ known ∧ trim known = known ∧ known ≠ [] := by
    decide
  obtain ⟨methodWord, methodTrim, methodFilled⟩ := plain method isMethod
  obtain ⟨rest, rfl⟩ := List.head?_eq_some_iff.mp slash
  have started : trim (byte '/' :: rest) = (byte '/' :: rest).rdropWhile isSpaceOrTab := by
    rw [trim, List.dropWhile_cons_of_neg (by decide)]
  have filled : (byte '/' :: rest).rdropWhile isSpaceOrTab ≠ [] := by
    intro empty
    have blank := List.rdropWhile_eq_nil_iff.mp empty (byte '/') List.mem_cons_self
    exact absurd blank (by decide)
  have version : trim (ascii "HTTP/1.1") = ascii "HTTP/1.1" ∧ ascii "HTTP/1.1" ≠ [] := by
    decide
  have line : method ++ byte ' ' :: (byte '/' :: rest) ++ ascii " HTTP/1.1" =
      method ++ byte ' ' :: ((byte '/' :: rest) ++ byte ' ' :: ascii "HTTP/1.1") := by
    rw [List.append_assoc]
    rfl
  rw [line, split, List.splitOn_append_cons_self, List.splitOn_append_cons_self,
    List.splitOn_eq_singleton methodWord, List.splitOn_eq_singleton isWord.1,
    List.splitOn_eq_singleton (by decide)]
  simp [methodTrim, methodFilled, started, filled, version]

/-- The server reads the line that the client writes. -/
theorem receive_requestLine_iff {request : Request} :
    receive (requestLine method target) = some request ↔
      (requestLine method target).length ≤ maxLineLength ∧
        (receivedTarget target).length ≤ requestUriMaxLength ∧
        request =
          { method := method
            target := receivedTarget target
            path := decodePathComponent (divide (byte '?') (receivedTarget target)).1 } := by
  have plain : ∀ known ∈ methods, IsWord known := by
    unfold IsWord
    decide
  have methodWord := plain method isMethod
  have ending : ascii " HTTP/1.1\r\n" = ascii " HTTP/1.1" ++ [byte '\r', byte '\n'] := rfl
  have version : byte '\r' ∉ ascii " HTTP/1.1" ∧ 0 ∉ ascii " HTTP/1.1" := by decide
  have noBreak : byte '\r' ∉ method ++ byte ' ' :: target ++ ascii " HTTP/1.1" := by
    simp only [List.mem_append, List.mem_cons, not_or]
    exact ⟨⟨methodWord.2.1, by decide, isWord.2.1⟩, version.1⟩
  have noZero : 0 ∉ requestLine method target := by
    rw [requestLine, ending]
    simp only [List.mem_append, List.mem_cons, List.not_mem_nil, or_false, not_or]
    exact ⟨⟨methodWord.2.2, by decide, isWord.2.2⟩, version.2, by decide,
      by decide⟩
  have line : takeLine (requestLine method target) = some (requestLine method target) := by
    rw [requestLine, ending, ← List.append_assoc]
    exact takeLine_append noBreak
  have words : split (byte ' ') ((cString (requestLine method target)).dropLast.dropLast) =
      [method, target.rdropWhile isSpaceOrTab, ascii "HTTP/1.1"] := by
    have ended : ∀ front : Bytes,
        (front ++ [byte '\r', byte '\n']).dropLast.dropLast = front := by
      intro front
      rw [List.append_cons, List.dropLast_concat, List.dropLast_concat]
    rw [cString_eq_self noZero, requestLine, ending, ← List.append_assoc, ended]
    exact split_requestLine isMethod isWord slash
  have complete :
      [byte '\r', byte '\n'].isSuffixOf (cString (requestLine method target)) = true := by
    rw [cString_eq_self noZero, requestLine, ending, ← List.append_assoc,
      List.isSuffixOf_iff_suffix]
    exact List.suffix_append _ _
  have known : ascii "HTTP/1.1" ∈ versions := by decide
  have parsed : parseRequestLine (requestLine method target) =
      some
        { method := method
          target := receivedTarget target
          path := decodePathComponent (divide (byte '?') (receivedTarget target)).1 } := by
    unfold parseRequestLine
    dsimp only
    rw [words, if_pos ⟨complete, rfl, isMethod, known⟩]
    rfl
  unfold receive getline
  rw [line, Option.filter_some]
  split
  · rename_i short
    rw [Option.bind_some, parsed, Option.filter_some]
    rw [decide_eq_true_eq] at short
    split
    · rename_i shortTarget
      rw [decide_eq_true_eq] at shortTarget
      rw [Option.some_inj]
      exact ⟨fun same => ⟨short, shortTarget, same.symm⟩, fun all => all.2.2.symm⟩
    · rename_i long
      rw [decide_eq_true_eq] at long
      exact iff_of_false (Option.some_ne_none request).symm fun all => long all.2.1
  · rename_i long
    rw [decide_eq_true_eq] at long
    exact iff_of_false (Option.some_ne_none request).symm fun all => long all.1

end RequestLine

/-! ## Paths -/

theorem divide_fst (separator : UInt8) (text : Bytes) :
    (divide separator text).1 = text.takeWhile fun value => decide (value ≠ separator) := by
  unfold divide
  cases isSplit : splitOnce separator text with
  | none =>
      have absent := splitOnce_eq_none_iff.mp isSplit
      rw [Option.getD_none, List.takeWhile_eq_self_iff.mpr]
      intro value member
      exact decide_eq_true fun same => absent (same ▸ member)
  | some parts =>
      obtain ⟨rfl, absent⟩ := splitOnce_eq_some_iff.mp isSplit
      rw [Option.getD_some, takeWhile_append_cons absent]

theorem divide_snd_of_not_mem {separator : UInt8} {text : Bytes} (absent : separator ∉ text) :
    (divide separator text).2 = [] := by
  rw [divide, splitOnce_eq_none_iff.mpr absent, Option.getD_none]

/-- A path that reaches the server as it is. -/
structure Survives (path : Bytes) : Prop where
  noZero : 0 ∉ path
  noQuery : byte '?' ∉ path
  noFragment : byte '#' ∉ path
  noTab : path.getLast? ≠ some (byte '\t')
  noEscape : decodePathComponent path = path
  short : (encode path).length ≤ requestUriMaxLength

theorem not_mem_of_takeWhile_eq {delimiter : UInt8} {text : Bytes}
    (same : (text.takeWhile fun value => decide (value ≠ delimiter)) = text) :
    delimiter ∉ text := by
  intro member
  have different := List.takeWhile_eq_self_iff.mp same delimiter member
  rw [decide_eq_true_eq] at different
  exact different rfl

/-- A text that has been cut twice is whole if and only if nothing was cut off. -/
theorem eq_of_prefix {part text whole : Bytes} (first : part <+: text) (second : text <+: whole)
    (same : part = whole) : text = whole :=
  second.eq_of_length_le (same ▸ first.length_le)

/-- Blanks at the end do not reach a delimiter that is none. -/
theorem exists_rdropWhile_append {delimiter : UInt8} (notBlank : isSpaceOrTab delimiter = false)
    (front rest : Bytes) :
    ∃ kept, (front ++ delimiter :: rest).rdropWhile isSpaceOrTab = front ++ delimiter :: kept := by
  induction rest using List.reverseRecOn with
  | nil => exact ⟨[], List.rdropWhile_concat_neg _ _ _ (by simp [notBlank])⟩
  | append_singleton rest last ih =>
      rw [← List.cons_append, ← List.append_assoc]
      cases blank : isSpaceOrTab last with
      | true => rwa [List.rdropWhile_concat_pos _ _ _ blank]
      | false =>
          rw [List.rdropWhile_concat_neg _ _ _ (by simp [blank])]
          exact ⟨rest ++ [last], by simp⟩

theorem takeWhile_encode_of_mem {delimiter : UInt8} (cuts : delimiter ∈ [byte '?', byte '#'])
    (text : Bytes) :
    (encode text).takeWhile (fun value => decide (value ≠ delimiter)) =
      encode (text.takeWhile fun value => decide (value ≠ delimiter)) := by
  rcases List.mem_pair.mp cuts with rfl | rfl
  · exact takeWhile_encode (by decide) (by decide) (by decide) text
  · exact takeWhile_encode (by decide) (by decide) (by decide) text

/-- What the server decodes is the encoding of a part of the path. -/
theorem exists_part (path : Bytes) :
    ∃ part, part <+: path ∧
      (divide (byte '?') (receivedTarget (pathWithQuery (cString path)))).1 = encode part ∧
      (part = path → 0 ∉ path ∧ byte '?' ∉ path ∧ byte '#' ∉ path ∧
        path.getLast? ≠ some (byte '\t')) := by
  have text := List.takeWhile_prefix (l := path) fun value => decide (value ≠ 0)
  rw [← cString] at text
  have query := List.takeWhile_prefix (l := cString path) fun value => decide (value ≠ byte '?')
  have noZero : 0 ∉ (cString path).takeWhile fun value => decide (value ≠ byte '?') :=
    fun member => zero_not_mem_cString path (query.subset member)
  rw [divide_fst, pathWithQuery, divide_fst, encodePath, cString_eq_self noZero, ← encode]
  generalize isBefore : (cString path).takeWhile (fun value => decide (value ≠ byte '?')) = before
  rw [isBefore] at query
  split
  · -- There is no query, and tabs at the end are lost.
    rw [List.append_nil, receivedTarget, rdropWhile_encode,
      takeWhile_encode_of_mem (by simp), takeWhile_encode_of_mem (by simp)]
    have tabs := List.rdropWhile_prefix (l := before) fun value => decide (value = byte '\t')
    generalize isTrimmed : before.rdropWhile (fun value => decide (value = byte '\t')) = trimmed
    rw [isTrimmed] at tabs
    have fragment := List.takeWhile_prefix (l := trimmed) fun value => decide (value ≠ byte '#')
    have last := List.takeWhile_prefix (l := trimmed.takeWhile fun value =>
      decide (value ≠ byte '#')) fun value => decide (value ≠ byte '?')
    have toTrimmed := last.trans fragment
    have toText := tabs.trans (query.trans text)
    refine ⟨_, toTrimmed.trans toText, rfl, fun whole => ?_⟩
    have sameTrimmed := eq_of_prefix toTrimmed toText whole
    have sameText := eq_of_prefix (toTrimmed.trans (tabs.trans query)) text whole
    have sameBefore := eq_of_prefix (toTrimmed.trans tabs) (query.trans text) whole
    have sameFragment := eq_of_prefix last (fragment.trans toText) whole
    refine ⟨sameText ▸ zero_not_mem_cString path, ?_, ?_, ?_⟩
    · rw [sameText, sameBefore] at isBefore
      exact not_mem_of_takeWhile_eq isBefore
    · rw [sameTrimmed] at sameFragment
      exact not_mem_of_takeWhile_eq sameFragment
    · rw [sameTrimmed, sameBefore] at isTrimmed
      intro isLast
      obtain ⟨front, rfl⟩ := List.getLast?_eq_some_iff.mp isLast
      have noTab := List.rdropWhile_eq_self_iff.mp isTrimmed (by simp)
      simp at noTab
  · rename_i isQuery
    rw [not_or] at isQuery
    have notBlank : isSpaceOrTab (byte '?') = false := by decide
    obtain ⟨kept, isKept⟩ := exists_rdropWhile_append notBlank
      (encode before) (normalizeQueryString (divide (byte '?') (cString path)).2)
    have whole : (encode before).takeWhile (fun value => decide (value ≠ byte '?')) =
        encode before := by
      rw [← isBefore, ← takeWhile_encode_of_mem (by simp), List.takeWhile_takeWhile]
      simp
    have swap : ∀ text : Bytes,
        (text.takeWhile fun value => decide (value ≠ byte '#')).takeWhile
            (fun value => decide (value ≠ byte '?')) =
          (text.takeWhile fun value => decide (value ≠ byte '?')).takeWhile
            fun value => decide (value ≠ byte '#') := by
      intro text
      rw [List.takeWhile_takeWhile, List.takeWhile_takeWhile]
      congr 1
      funext value
      exact Bool.eq_iff_iff.mpr (by simp [and_comm])
    rw [receivedTarget, isKept, swap,
      takeWhile_append_cons (not_mem_of_takeWhile_eq whole), takeWhile_encode_of_mem (by simp)]
    have fragment := List.takeWhile_prefix (l := before) fun value => decide (value ≠ byte '#')
    refine ⟨_, fragment.trans (query.trans text), rfl, fun same => ?_⟩
    have sameText := eq_of_prefix (fragment.trans query) text same
    have sameBefore := eq_of_prefix fragment (query.trans text) same
    rw [sameText, sameBefore] at isBefore
    rw [sameText] at isQuery
    exact absurd (divide_snd_of_not_mem (not_mem_of_takeWhile_eq isBefore)) isQuery.1

theorem isWord_pathWithQuery (path : Bytes) : IsWord (pathWithQuery (cString path)) := by
  unfold pathWithQuery encodePath
  refine (isWord_encode (zero_not_mem_cString _)).append ?_
  split
  · exact isWord_nil
  · exact (show IsWord [byte '?'] by unfold IsWord; decide).append
      (isWord_normalizeQueryString _)

section Receive

variable {method path : Bytes} (isMethod : method ∈ methods)
  (slash : path.head? = some (byte '/'))

include slash

theorem head_pathWithQuery : (pathWithQuery (cString path)).head? = some (byte '/') := by
  obtain ⟨rest, rfl⟩ := List.head?_eq_some_iff.mp slash
  have text : ∀ rest, cString (byte '/' :: rest) = byte '/' :: cString rest :=
    fun rest => List.takeWhile_cons_of_pos (by decide)
  have kept : (!escapesInPath (byte '/')) = true := by decide
  rw [pathWithQuery, divide_fst, text, List.takeWhile_cons_of_pos (by decide), encodePath,
    text, percentEncode_kept kept]
  rfl

include isMethod

/-- The server gets the path that was sent exactly when nothing in it is cut off or decoded. -/
theorem receive_eq_path_iff :
    (∃ target, receive (requestLine method (pathWithQuery (cString path))) =
        some { method := method, target := target, path := path }) ↔
      Survives path := by
  have isWord := isWord_pathWithQuery path
  have head := head_pathWithQuery slash
  constructor
  · rintro ⟨target, isReceived⟩
    obtain ⟨_, short, same⟩ := (receive_requestLine_iff isMethod isWord head).mp isReceived
    obtain ⟨part, isPrefix, isPart, whole⟩ := exists_part path
    have isPath : path = decodePathComponent part := by
      have isDecoded := congrArg Request.path same
      rwa [isPart, decodePathComponent_encode] at isDecoded
    obtain ⟨shorter, exact⟩ := length_decodePathComponent part
    rw [← isPath] at shorter exact
    have samePart : part = path := isPrefix.eq_of_length_le shorter
    subst samePart
    obtain ⟨noZero, noQuery, noFragment, noTab⟩ := whole rfl
    have written : (encode part).length ≤
        (receivedTarget (pathWithQuery (cString part))).length := by
      rw [← isPart, divide_fst]
      exact (List.takeWhile_prefix _).length_le
    exact ⟨noZero, noQuery, noFragment, noTab, isPath.symm, Nat.le_trans written short⟩
  · intro survives
    have uncut : ∀ {delimiter : UInt8}, delimiter ∉ path →
        (path.takeWhile fun value => decide (value ≠ delimiter)) = path := by
      intro delimiter absent
      refine List.takeWhile_eq_self_iff.mpr fun value member => decide_eq_true ?_
      rintro rfl
      exact absent member
    have noTab : path.rdropWhile (fun value => decide (value = byte '\t')) = path := by
      refine List.rdropWhile_eq_self_iff.mpr fun nonempty tab => survives.noTab ?_
      rw [List.getLast?_eq_some_getLast nonempty, of_decide_eq_true tab]
    have written : pathWithQuery (cString path) = encode path := by
      rw [pathWithQuery, divide_fst, cString_eq_self survives.noZero,
        divide_snd_of_not_mem survives.noQuery, uncut survives.noQuery, encodePath,
        cString_eq_self survives.noZero, if_pos (.inl rfl), List.append_nil, ← encode]
    have received : receivedTarget (encode path) = encode path := by
      rw [receivedTarget, rdropWhile_encode, noTab, takeWhile_encode_of_mem (by simp),
        uncut survives.noFragment]
    have methodShort : ∀ known ∈ methods, known.length ≤ 7 := by decide
    have lineShort : (requestLine method (encode path)).length ≤ maxLineLength := by
      have bound := methodShort method isMethod
      have short := survives.short
      have ending : (ascii " HTTP/1.1\r\n").length = 11 := by decide
      simp only [requestLine, List.length_append, List.length_cons, ending, maxLineLength,
        requestUriMaxLength] at short ⊢
      omega
    rw [written] at isWord head ⊢
    refine ⟨encode path, (receive_requestLine_iff isMethod isWord head).mpr
      ⟨lineShort, received.symm ▸ survives.short, ?_⟩⟩
    rw [received, divide_fst, takeWhile_encode_of_mem (by simp), uncut survives.noQuery,
      decodePathComponent_encode, survives.noEscape]

end Receive

end Httplib

end DistributedComputing
