import DistributedComputing.Utf8

/-!
# Validation and repair of UTF-8

Before a worker puts a text of unknown origin into JSON it replaces what is not UTF-8.
Bytes are read by index, and a read past the end has no result.
-/

namespace DistributedComputing

namespace StringUtils

/-! ## `IsValidUtf8` -/

/-- The number of bytes that follow a lead byte, and its bits of the codepoint. -/
structure Lead where
  need : Nat
  codepoint : Nat
deriving DecidableEq

def leadByte (c : Nat) : Option Lead :=
  if c &&& 0xE0 = 0xC0 then
    if c &&& 0x1F < 0x02 then none  -- overlong 2-byte form
    else some { need := 1, codepoint := c &&& 0x1F }
  else if c &&& 0xF0 = 0xE0 then some { need := 2, codepoint := c &&& 0x0F }
  else if c &&& 0xF8 = 0xF0 then
    if 0x04 < c &&& 0x07 then none  -- beyond U+10FFFF
    else some { need := 3, codepoint := c &&& 0x07 }
  else none

/-- The loop over the bytes that follow: the codepoint, or nothing to return false. -/
def readContinuation (input : List UInt8) :
    (position need codepoint : Nat) → Option (Option Nat)
  | _, 0, codepoint => some (some codepoint)
  | position, need + 1, codepoint =>
      input[position]?.bind fun cc =>
        if cc.toNat &&& 0xC0 ≠ 0x80 then some none
        else readContinuation input (position + 1) need (codepoint <<< 6 ||| (cc.toNat &&& 0x3F))

/-- One round of the loop: where the next one starts, or nothing to return false. -/
def validRound (input : List UInt8) (i : Nat) : Option (Option Nat) :=
  input[i]?.bind fun byte =>
    let c := byte.toNat
    if c &&& 0x80 = 0 then some (some (i + 1))
    else
      (leadByte c).elim (some none) fun lead =>
        if input.length ≤ i + lead.need then some none
        else
          (readContinuation input (i + 1) lead.need lead.codepoint).map fun read =>
            read.bind fun codepoint =>
              if lead.need = 2 ∧ codepoint < 0x800 ∨ lead.need = 3 ∧ codepoint < 0x10000 then none
              else if 0xD800 ≤ codepoint ∧ codepoint ≤ 0xDFFF then none
              else if 0x10FFFF < codepoint then none
              else some (i + lead.need + 1)

def isValidUtf8From (input : List UInt8) : (rounds i : Nat) → Option Bool
  | 0, _ => none
  | rounds + 1, i =>
      if i < input.length then
        (validRound input i).bind fun next =>
          next.elim (some false) (isValidUtf8From input rounds)
      else some true

/-- `IsValidUtf8`.  Every round consumes a byte. -/
def isValidUtf8 (input : List UInt8) : Option Bool :=
  isValidUtf8From input (input.length + 1) 0

/-! ## `SanitizeUtf8Lossy` -/

/-- The locals of a round. -/
structure Decoding where
  ok : Bool
  need : Nat
  codepoint : Nat

def lossyLead (c : Nat) : Decoding :=
  if c &&& 0xE0 = 0xC0 then
    { ok := if c &&& 0x1F < 0x02 then false else true, need := 1, codepoint := c &&& 0x1F }
  else if c &&& 0xF0 = 0xE0 then { ok := true, need := 2, codepoint := c &&& 0x0F }
  else if c &&& 0xF8 = 0xF0 then
    { ok := if 0x04 < c &&& 0x07 then false else true, need := 3, codepoint := c &&& 0x07 }
  else { ok := false, need := 0, codepoint := 0 }

/-- The loop over the bytes that follow, with its `break`. -/
def lossyContinuation (input : List UInt8) (decoding : Decoding) :
    (position remaining codepoint : Nat) → Option Decoding
  | _, 0, codepoint => some { decoding with codepoint := codepoint }
  | position, remaining + 1, codepoint =>
      input[position]?.bind fun cc =>
        if cc.toNat &&& 0xC0 ≠ 0x80 then
          some { decoding with ok := false, codepoint := codepoint }
        else
          lossyContinuation input decoding (position + 1) remaining
            (codepoint <<< 6 ||| (cc.toNat &&& 0x3F))

def Decoding.check (decoding : Decoding) : Decoding :=
  let ok :=
    if decoding.need = 2 ∧ decoding.codepoint < 0x800 ∨
        decoding.need = 3 ∧ decoding.codepoint < 0x10000 then false
    else decoding.ok
  let ok := if 0xD800 ≤ decoding.codepoint ∧ decoding.codepoint ≤ 0xDFFF then false else ok
  let ok := if 0x10FFFF < decoding.codepoint then false else ok
  { decoding with ok := ok }

def lossyDecode (input : List UInt8) (i c : Nat) : Option Decoding :=
  let decoding := lossyLead c
  if decoding.ok then
    if input.length ≤ i + decoding.need then some { decoding with ok := false }
    else
      (lossyContinuation input decoding (i + 1) decoding.need decoding.codepoint).map Decoding.check
  else some decoding

/-- One round of the loop: what it appends, and where the next one starts. -/
def lossyRound (input : List UInt8) (i : Nat) : Option (List UInt8 × Nat) :=
  input[i]?.bind fun byte =>
    let c := byte.toNat
    if c &&& 0x80 = 0 then some ([byte], i + 1)
    else
      (lossyDecode input i c).map fun decoding =>
        if decoding.ok then
          ((input.drop i).take (decoding.need + 1), i + (decoding.need + 1))
        else ([0xEF, 0xBF, 0xBD], i + 1)

def sanitizeUtf8LossyFrom (input : List UInt8) :
    (rounds i : Nat) → (out : List UInt8) → Option (List UInt8)
  | 0, _, _ => none
  | rounds + 1, i, out =>
      if i < input.length then
        (lossyRound input i).bind fun round =>
          sanitizeUtf8LossyFrom input rounds round.2 (out ++ round.1)
      else some out

/-- `SanitizeUtf8Lossy`. -/
def sanitizeUtf8Lossy (input : List UInt8) : Option (List UInt8) :=
  (isValidUtf8 input).bind fun valid =>
    if valid then some input
    else sanitizeUtf8LossyFrom input (input.length + 1) 0 []

/-! ## What the masks tell -/

theorem forall_byte {holds : Nat → Prop} (each : ∀ value < 256, holds value) (byte : UInt8) :
    holds byte.toNat :=
  each byte.toNat byte.toNat_lt

theorem isAscii_iff (byte : UInt8) : byte.toNat &&& 0x80 = 0 ↔ byte.toNat < 0x80 := by
  have each : ∀ value < 256, value &&& 0x80 = 0 ↔ value < 0x80 := by decide +kernel
  exact forall_byte each byte

theorem isContinuation_iff (byte : UInt8) :
    byte.toNat &&& 0xC0 = 0x80 ↔ Utf8.tail.Holds byte := by
  have each : ∀ value < 256, value &&& 0xC0 = 0x80 ↔ 0x80 ≤ value ∧ value ≤ 0xBF := by
    decide +kernel
  exact forall_byte each byte

/-- The lead bytes of the table. -/
theorem leadByte_eq (byte : UInt8) (notAscii : 0x80 ≤ byte.toNat) :
    leadByte byte.toNat =
      if byte.toNat < 0xC2 then none
      else if byte.toNat < 0xE0 then some { need := 1, codepoint := byte.toNat % 32 }
      else if byte.toNat < 0xF0 then some { need := 2, codepoint := byte.toNat % 16 }
      else if byte.toNat < 0xF5 then some { need := 3, codepoint := byte.toNat % 8 }
      else none := by
  have each : ∀ value < 256, 0x80 ≤ value → leadByte value =
      if value < 0xC2 then none
      else if value < 0xE0 then some { need := 1, codepoint := value % 32 }
      else if value < 0xF0 then some { need := 2, codepoint := value % 16 }
      else if value < 0xF5 then some { need := 3, codepoint := value % 8 }
      else none := by decide +kernel
  exact forall_byte each byte notAscii

theorem shift_or (codepoint : Nat) (byte : UInt8) :
    codepoint <<< 6 ||| (byte.toNat &&& 0x3F) = Utf8.push codepoint byte := by
  have bits : byte.toNat &&& 0x3F = byte.toNat % 64 := Nat.and_two_pow_sub_one_eq_mod _ 6
  have small : byte.toNat % 64 < 2 ^ 6 := Nat.mod_lt _ (by decide)
  rw [bits, ← Nat.shiftLeft_add_eq_or_of_lt small, Nat.shiftLeft_eq]
  rfl

/-- The checks after the loop pass. -/
def Passes (need codepoint : Nat) : Prop :=
  ¬ (need = 2 ∧ codepoint < 0x800 ∨ need = 3 ∧ codepoint < 0x10000) ∧
    ¬ (0xD800 ≤ codepoint ∧ codepoint ≤ 0xDFFF) ∧ ¬ 0x10FFFF < codepoint

instance (need codepoint : Nat) : Decidable (Passes need codepoint) :=
  inferInstanceAs (Decidable (_ ∧ _))

theorem ite_passes {Result : Type} (need codepoint : Nat) (result : Option Result) :
    (if need = 2 ∧ codepoint < 0x800 ∨ need = 3 ∧ codepoint < 0x10000 then none
      else if 0xD800 ≤ codepoint ∧ codepoint ≤ 0xDFFF then none
      else if 0x10FFFF < codepoint then none
      else result) = if Passes need codepoint then result else none := by
  unfold Passes
  grind

theorem Decoding.check_ok (decoding : Decoding) :
    decoding.check.ok = (decide (Passes decoding.need decoding.codepoint) && decoding.ok) := by
  unfold check Passes
  grind

/-- The decoding and its checks accept the sequences of the table. -/
theorem isSequence_iff {first : UInt8} {bytes : List UInt8} {lead : Lead}
    (notAscii : 0x80 ≤ first.toNat) (isLead : leadByte first.toNat = some lead)
    (length : bytes.length = lead.need) :
    let codepoint := bytes.foldl Utf8.push lead.codepoint
    Utf8.IsSequence (first :: bytes) ↔
      (∀ byte ∈ bytes, Utf8.tail.Holds byte) ∧ Passes lead.need codepoint := by
  intro codepoint
  unfold Passes
  rw [leadByte_eq first notAscii] at isLead
  split at isLead
  · cases isLead
  · split at isLead
    · cases isLead
      obtain ⟨second, rfl⟩ := List.length_eq_one_iff.mp length
      rw [Utf8.isSequence_two]
      simp only [codepoint, List.foldl, Utf8.push, List.forall_mem_singleton, Utf8.tail,
        Utf8.Range.Holds]
      omega
    · split at isLead
      · cases isLead
        obtain ⟨second, third, rfl⟩ := List.length_eq_two.mp length
        rw [Utf8.isSequence_three]
        simp only [codepoint, List.foldl, List.forall_mem_cons, List.not_mem_nil, false_imp_iff,
          implies_true, and_true, true_and, Nat.reduceEqDiff, false_and, or_false, Utf8.push,
          Utf8.tail, Utf8.Range.Holds]
        omega
      · split at isLead
        · cases isLead
          obtain ⟨second, third, fourth, rfl⟩ := List.length_eq_three.mp length
          rw [Utf8.isSequence_four]
          simp only [codepoint, List.foldl, List.forall_mem_cons, List.not_mem_nil, false_imp_iff,
            implies_true, and_true, true_and, Nat.reduceEqDiff, false_and, false_or, Utf8.push,
            Utf8.tail, Utf8.Range.Holds]
          omega
        · cases isLead

theorem need_eq_trailing {byte : UInt8} {lead : Lead} (notAscii : 0x80 ≤ byte.toNat)
    (isLead : leadByte byte.toNat = some lead) : lead.need = Utf8.trailing byte := by
  rw [leadByte_eq byte notAscii] at isLead
  unfold Utf8.trailing
  grind

/-- Every sequence beyond ASCII starts with a lead byte. -/
theorem exists_lead {first : UInt8} {bytes : List UInt8} (notAscii : 0x80 ≤ first.toNat)
    (isSequence : Utf8.IsSequence (first :: bytes)) : ∃ lead, leadByte first.toNat = some lead := by
  rw [leadByte_eq first notAscii]
  rcases bytes with _ | ⟨second, _ | ⟨third, _ | ⟨fourth, _ | ⟨fifth, bytes⟩⟩⟩⟩
  · have range := Utf8.isSequence_one.mp isSequence
    omega
  · have range := (Utf8.isSequence_two.mp isSequence).1
    rw [if_neg (by omega), if_pos (by omega)]
    exact ⟨_, rfl⟩
  · have range := (Utf8.isSequence_three.mp isSequence).1
    rw [if_neg (by omega), if_neg (by omega), if_pos (by omega)]
    exact ⟨_, rfl⟩
  · have range := (Utf8.isSequence_four.mp isSequence).1
    rw [if_neg (by omega), if_neg (by omega), if_neg (by omega), if_pos (by omega)]
    exact ⟨_, rfl⟩
  · exact absurd isSequence Utf8.not_isSequence_long

theorem leading_of_no_lead {byte : UInt8} (notAscii : 0x80 ≤ byte.toNat)
    (noLead : leadByte byte.toNat = none) (rest : List UInt8) :
    Utf8.leading (byte :: rest) = none := by
  rw [Utf8.leading, if_neg]
  intro isSequence
  obtain ⟨lead, isLead⟩ := exists_lead notAscii isSequence
  rw [noLead] at isLead
  cases isLead

theorem leading_of_lead {byte : UInt8} {lead : Lead} (notAscii : 0x80 ≤ byte.toNat)
    (isLead : leadByte byte.toNat = some lead) {bytes : List UInt8}
    (length : bytes.length = lead.need) (rest : List UInt8) :
    Utf8.leading (byte :: (bytes ++ rest)) =
      if Utf8.IsSequence (byte :: bytes) then some (byte :: bytes) else none := by
  have taken : (bytes ++ rest).take (Utf8.trailing byte) = bytes := by
    rw [← need_eq_trailing notAscii isLead, ← length]
    exact List.take_left
  rw [Utf8.leading, taken]

/-! ## One round -/

section Rounds

variable {input : List UInt8}

theorem getElem?_of_drop {position : Nat} {byte : UInt8} {rest : List UInt8}
    (split : input.drop position = byte :: rest) : input[position]? = some byte := by
  have first := congrArg List.head? split
  rwa [List.head?_drop] at first

theorem drop_succ_of_drop {position : Nat} {byte : UInt8} {rest : List UInt8}
    (split : input.drop position = byte :: rest) : input.drop (position + 1) = rest := by
  rw [← List.tail_drop, split, List.tail_cons]

theorem readContinuation_eq {bytes rest : List UInt8} {position : Nat}
    (split : input.drop position = bytes ++ rest) (codepoint : Nat) :
    ∃ read, readContinuation input position bytes.length codepoint = some read ∧
      ((∀ byte ∈ bytes, Utf8.tail.Holds byte) → read = some (bytes.foldl Utf8.push codepoint)) ∧
      ((¬ ∀ byte ∈ bytes, Utf8.tail.Holds byte) → read = none) := by
  induction bytes generalizing position codepoint with
  | nil => exact ⟨_, rfl, fun _ => rfl, fun broken => absurd (by simp) broken⟩
  | cons byte bytes ih =>
      rw [List.length_cons, readContinuation, getElem?_of_drop split, Option.bind_some]
      by_cases holds : Utf8.tail.Holds byte
      · rw [if_neg (not_not_intro ((isContinuation_iff byte).mpr holds)), shift_or]
        obtain ⟨read, returned, ends⟩ := ih (drop_succ_of_drop split) (Utf8.push codepoint byte)
        refine ⟨read, returned, ?_⟩
        simpa only [List.forall_mem_cons, holds, true_and, List.foldl_cons] using ends
      · rw [if_pos (fun masked => holds ((isContinuation_iff byte).mp masked))]
        have broken : ¬ ∀ other ∈ byte :: bytes, Utf8.tail.Holds other := fun each =>
          holds (each byte (List.mem_cons_self ..))
        exact ⟨_, rfl, fun each => absurd each broken, fun _ => rfl⟩

/-- The round finds the sequence at its position, and reads nothing past the end. -/
theorem validRound_eq {i : Nat} (inside : i < input.length) :
    validRound input i =
      some ((Utf8.leading (input.drop i)).map fun sequence => i + sequence.length) := by
  obtain ⟨byte, rest, split⟩ := List.exists_cons_of_length_pos
    (show 0 < (input.drop i).length by rw [List.length_drop]; omega)
  have lengths := congrArg List.length split
  rw [List.length_drop, List.length_cons] at lengths
  rw [validRound, getElem?_of_drop split, Option.bind_some, split]
  dsimp only
  by_cases ascii : byte.toNat < 0x80
  · have isSequence : Utf8.IsSequence [byte] := Utf8.isSequence_one.mpr (by omega)
    rw [if_pos ((isAscii_iff byte).mpr ascii),
      show byte :: rest = [byte] ++ rest from rfl, Utf8.leading_append isSequence]
    rfl
  · rw [if_neg (fun masked => ascii ((isAscii_iff byte).mp masked))]
    have notAscii : 0x80 ≤ byte.toNat := by omega
    cases isLead : leadByte byte.toNat with
    | none =>
        rw [leading_of_no_lead notAscii isLead]
        rfl
    | some lead =>
        have need := need_eq_trailing notAscii isLead
        rw [Option.elim_some]
        by_cases short : input.length ≤ i + lead.need
        · rw [if_pos short, Utf8.leading_eq_none_of_length (by omega)]
          rfl
        · obtain ⟨bytes, others, rfl, length⟩ :
              ∃ bytes others, rest = bytes ++ others ∧ bytes.length = lead.need :=
            ⟨rest.take lead.need, rest.drop lead.need, (List.take_append_drop ..).symm,
              List.length_take_of_le (by omega)⟩
          obtain ⟨read, returned, whole, broken⟩ :=
            readContinuation_eq (drop_succ_of_drop split) lead.codepoint
          rw [length] at returned
          rw [if_neg short, returned, leading_of_lead notAscii isLead length, Option.map_some]
          have accepts := isSequence_iff notAscii isLead length
          by_cases each : ∀ byte ∈ bytes, Utf8.tail.Holds byte
          · rw [whole each, Option.bind_some, ite_passes]
            by_cases passes : Passes lead.need (bytes.foldl Utf8.push lead.codepoint)
            · rw [if_pos passes, if_pos (accepts.mpr ⟨each, passes⟩), ← length]
              rfl
            · rw [if_neg passes, if_neg fun isSequence => passes (accepts.mp isSequence).2]
              rfl
          · rw [broken each, if_neg fun isSequence => each (accepts.mp isSequence).1]
            rfl

/-- The lead byte, the other way. -/
theorem lossyLead_eq (c : Nat) :
    leadByte c = if (lossyLead c).ok then
        some { need := (lossyLead c).need, codepoint := (lossyLead c).codepoint }
      else none := by
  unfold leadByte lossyLead
  grind

theorem lossyContinuation_eq (decoding : Decoding) {bytes rest : List UInt8} {position : Nat}
    (split : input.drop position = bytes ++ rest) (codepoint : Nat) :
    ∃ last, lossyContinuation input decoding position bytes.length codepoint = some last ∧
      last.need = decoding.need ∧
      ((∀ byte ∈ bytes, Utf8.tail.Holds byte) →
        last.ok = decoding.ok ∧ last.codepoint = bytes.foldl Utf8.push codepoint) ∧
      ((¬ ∀ byte ∈ bytes, Utf8.tail.Holds byte) → last.ok = false) := by
  induction bytes generalizing position codepoint with
  | nil => exact ⟨_, rfl, rfl, fun _ => ⟨rfl, rfl⟩, fun broken => absurd (by simp) broken⟩
  | cons byte bytes ih =>
      rw [List.length_cons, lossyContinuation, getElem?_of_drop split, Option.bind_some]
      by_cases holds : Utf8.tail.Holds byte
      · rw [if_neg (not_not_intro ((isContinuation_iff byte).mpr holds)), shift_or]
        obtain ⟨last, returned, need, ends⟩ := ih (drop_succ_of_drop split)
          (Utf8.push codepoint byte)
        refine ⟨last, returned, need, ?_⟩
        simpa only [List.forall_mem_cons, holds, true_and, List.foldl_cons] using ends
      · rw [if_pos (fun masked => holds ((isContinuation_iff byte).mp masked))]
        have broken : ¬ ∀ other ∈ byte :: bytes, Utf8.tail.Holds other := fun each =>
          holds (each byte (List.mem_cons_self ..))
        exact ⟨_, rfl, rfl, fun each => absurd each broken, fun _ => rfl⟩

/-- The lossy round finds it too. -/
theorem lossyDecode_eq {i : Nat} {byte : UInt8} {rest : List UInt8}
    (notAscii : 0x80 ≤ byte.toNat) (split : input.drop i = byte :: rest) :
    ∃ decoding, lossyDecode input i byte.toNat = some decoding ∧
      Utf8.leading (input.drop i) =
        if decoding.ok then some ((input.drop i).take (decoding.need + 1)) else none := by
  have lengths := congrArg List.length split
  rw [List.length_drop, List.length_cons] at lengths
  have leads := lossyLead_eq byte.toNat
  rw [split, lossyDecode]
  generalize lossyLead byte.toNat = decoding at leads
  cases isOk : decoding.ok with
  | false =>
      rw [isOk, if_neg Bool.false_ne_true] at leads
      refine ⟨decoding, if_neg Bool.false_ne_true, ?_⟩
      rw [isOk, if_neg Bool.false_ne_true, leading_of_no_lead notAscii leads]
  | true =>
      rw [isOk, if_pos rfl] at leads
      rw [if_pos rfl]
      have need : decoding.need = Utf8.trailing byte := need_eq_trailing notAscii leads
      by_cases short : input.length ≤ i + decoding.need
      · refine ⟨_, if_pos short, ?_⟩
        rw [if_neg Bool.false_ne_true, Utf8.leading_eq_none_of_length (by omega)]
      · obtain ⟨bytes, others, rfl, length⟩ :
            ∃ bytes others, rest = bytes ++ others ∧ bytes.length = decoding.need :=
          ⟨rest.take decoding.need, rest.drop decoding.need, (List.take_append_drop ..).symm,
            List.length_take_of_le (by omega)⟩
        obtain ⟨last, returned, sameNeed, whole, broken⟩ :=
          lossyContinuation_eq decoding (drop_succ_of_drop split) decoding.codepoint
        rw [length] at returned
        rw [if_neg short, returned, leading_of_lead notAscii leads length]
        refine ⟨last.check, rfl, ?_⟩
        have taken : (byte :: (bytes ++ others)).take (last.check.need + 1) = byte :: bytes := by
          rw [show last.check.need = bytes.length from sameNeed.trans length.symm,
            List.take_succ_cons, List.take_left]
        rw [taken, Decoding.check_ok, sameNeed]
        have accepts := isSequence_iff notAscii leads length
        by_cases each : ∀ byte ∈ bytes, Utf8.tail.Holds byte
        · obtain ⟨lastOk, lastCodepoint⟩ := whole each
          rw [lastOk, lastCodepoint, isOk, Bool.and_true]
          refine if_congr (accepts.trans ?_) rfl rfl
          simpa using fun _ => each
        · rw [broken each, Bool.and_false, if_neg Bool.false_ne_true,
            if_neg fun isSequence => each (accepts.mp isSequence).1]

/-- What a round appends, and what it leaves. -/
theorem lossyRound_eq {i : Nat} (inside : i < input.length) :
    ∃ appended next, lossyRound input i = some (appended, next) ∧ i < next ∧
      Utf8.repair (input.drop i) = appended ++ Utf8.repair (input.drop next) := by
  obtain ⟨byte, rest, split⟩ := List.exists_cons_of_length_pos
    (show 0 < (input.drop i).length by rw [List.length_drop]; omega)
  rw [lossyRound, getElem?_of_drop split, Option.bind_some]
  by_cases ascii : byte.toNat < 0x80
  · have isSequence : Utf8.IsSequence [byte] := Utf8.isSequence_one.mpr (by omega)
    refine ⟨[byte], i + 1, if_pos ((isAscii_iff byte).mpr ascii), by omega, ?_⟩
    rw [drop_succ_of_drop split, split]
    exact Utf8.repair_sequence isSequence rest
  · have unmasked : ¬ byte.toNat &&& 0x80 = 0 := fun masked => ascii ((isAscii_iff byte).mp masked)
    obtain ⟨decoding, decoded, leading⟩ := lossyDecode_eq (by omega) split
    dsimp only
    rw [if_neg unmasked, decoded, Option.map_some]
    cases isOk : decoding.ok with
    | true =>
        rw [isOk, if_pos rfl] at leading
        refine ⟨_, _, rfl, by omega, ?_⟩
        have isSequence := (Utf8.leading_eq_some_iff.mp leading).1
        conv_lhs => rw [← List.take_append_drop (decoding.need + 1) (input.drop i)]
        rw [Utf8.repair_sequence isSequence, List.drop_drop]
    | false =>
        rw [isOk, if_neg Bool.false_ne_true, split] at leading
        refine ⟨_, _, rfl, by omega, ?_⟩
        rw [drop_succ_of_drop split, split]
        exact Utf8.repair_stray leading

/-! ## The loops -/

/-- From any position, with rounds enough for the rest. -/
theorem isValidUtf8From_spec {rounds i : Nat} (enough : input.length - i < rounds) :
    ∃ accepted, isValidUtf8From input rounds i = some accepted ∧
      (accepted = true ↔ Utf8.WellFormed (input.drop i)) := by
  induction rounds generalizing i with
  | zero => omega
  | succ rounds ih =>
      unfold isValidUtf8From
      by_cases inside : i < input.length
      · rw [if_pos inside, validRound_eq inside, Option.bind_some]
        cases found : Utf8.leading (input.drop i) with
        | none =>
            refine ⟨false, rfl, iff_of_false Bool.false_ne_true ?_⟩
            rw [List.drop_eq_getElem_cons inside] at found ⊢
            exact Utf8.not_wellFormed_of_leading found
        | some sequence =>
            obtain ⟨isSequence, rest, split⟩ := Utf8.leading_eq_some_iff.mp found
            have positive := isSequence.length_pos
            obtain ⟨accepted, returned, accepts⟩ :=
              ih (show input.length - (i + sequence.length) < rounds by omega)
            refine ⟨accepted, returned, accepts.trans ?_⟩
            rw [← List.drop_drop, split, List.drop_left]
            exact isSequence.wellFormed_append_iff.symm
      · rw [if_neg inside, List.drop_of_length_le (by omega)]
        exact ⟨true, rfl, iff_of_true rfl Utf8.wellFormed_nil⟩

theorem sanitizeUtf8LossyFrom_eq {rounds i : Nat} (enough : input.length - i < rounds)
    (out : List UInt8) :
    sanitizeUtf8LossyFrom input rounds i out = some (out ++ Utf8.repair (input.drop i)) := by
  induction rounds generalizing i out with
  | zero => omega
  | succ rounds ih =>
      unfold sanitizeUtf8LossyFrom
      by_cases inside : i < input.length
      · obtain ⟨appended, next, round, further, repaired⟩ := lossyRound_eq inside
        rw [if_pos inside, round, Option.bind_some, ih (by omega), repaired, List.append_assoc]
      · rw [if_neg inside, List.drop_of_length_le (by omega), Utf8.repair_nil, List.append_nil]

end Rounds

/-! ## Whole strings -/

theorem isValidUtf8_spec (input : List UInt8) :
    ∃ accepted, isValidUtf8 input = some accepted ∧
      (accepted = true ↔ Utf8.WellFormed input) :=
  isValidUtf8From_spec (Nat.lt_succ_self _)

/-- The validation before the loop changes nothing. -/
theorem sanitizeUtf8Lossy_eq (input : List UInt8) :
    sanitizeUtf8Lossy input = some (Utf8.repair input) := by
  obtain ⟨accepted, returned, accepts⟩ := isValidUtf8_spec input
  rw [sanitizeUtf8Lossy, returned, Option.bind_some]
  cases accepted with
  | true =>
      rw [if_pos rfl, Utf8.repair_of_wellFormed (accepts.mp rfl)]
  | false =>
      rw [if_neg Bool.false_ne_true]
      exact sanitizeUtf8LossyFrom_eq (Nat.lt_succ_self _) []

/-- `IsValidUtf8` reads within the string, and accepts the encodings of texts and no other
strings. -/
theorem isValidUtf8_accepts_wellFormed (input : List UInt8) :
    ∃ accepted, isValidUtf8 input = some accepted ∧
      (accepted = true ↔ Utf8.WellFormed input) ∧
      (accepted = true ↔ ∃ text : List Char, input = text.flatMap String.utf8EncodeChar) := by
  obtain ⟨accepted, returned, accepts⟩ := isValidUtf8_spec input
  exact ⟨accepted, returned, accepts, accepts.trans Utf8.wellFormed_iff_exists_text⟩

/-- A surrogate is refused. -/
example : isValidUtf8 [0xED, 0xA0, 0x80] = some false := by decide

/-- `SanitizeUtf8Lossy` repairs every string and damages none. -/
theorem sanitizeUtf8Lossy_repairs :
    (∀ input, ∃ out, sanitizeUtf8Lossy input = some out ∧ Utf8.WellFormed out ∧
      (Utf8.WellFormed input → out = input) ∧ sanitizeUtf8Lossy out = some out) ∧
      ∀ first second, Utf8.WellFormed first →
        sanitizeUtf8Lossy (first ++ second) = (sanitizeUtf8Lossy second).map (first ++ ·) := by
  constructor
  · intro input
    have formed := Utf8.wellFormed_repair input
    refine ⟨Utf8.repair input, sanitizeUtf8Lossy_eq input, formed, Utf8.repair_of_wellFormed, ?_⟩
    rw [sanitizeUtf8Lossy_eq, Utf8.repair_of_wellFormed formed]
  · intro first second formed
    rw [sanitizeUtf8Lossy_eq, sanitizeUtf8Lossy_eq, Utf8.repair_append formed, Option.map_some]

end StringUtils

end DistributedComputing
