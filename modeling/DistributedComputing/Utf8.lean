import Mathlib.Data.List.Basic

/-!
# Well-formed UTF-8

The byte sequences that encode one Unicode scalar value are given by the table of the
standard, a range for each place.  A string of bytes splits in one way into such sequences
and bytes that start none.
-/

namespace DistributedComputing

namespace Utf8

/-- The least and the greatest byte of a place. -/
abbrev Range := Nat × Nat

/-- A byte after the first. -/
def tail : Range := (0x80, 0xBF)

/-- Table 3-7 of the Unicode Standard. -/
def table : List (List Range) :=
  [[(0x00, 0x7F)],
    [(0xC2, 0xDF), tail],
    [(0xE0, 0xE0), (0xA0, 0xBF), tail],
    [(0xE1, 0xEC), tail, tail],
    [(0xED, 0xED), (0x80, 0x9F), tail],
    [(0xEE, 0xEF), tail, tail],
    [(0xF0, 0xF0), (0x90, 0xBF), tail, tail],
    [(0xF1, 0xF3), tail, tail, tail],
    [(0xF4, 0xF4), (0x80, 0x8F), tail, tail]]

def Range.Holds (range : Range) (byte : UInt8) : Prop :=
  range.1 ≤ byte.toNat ∧ byte.toNat ≤ range.2

instance (range : Range) (byte : UInt8) : Decidable (range.Holds byte) :=
  inferInstanceAs (Decidable (_ ∧ _))

/-- The bytes are as many as the ranges, and each is in its own. -/
def Fits : List Range → List UInt8 → Prop
  | [], [] => True
  | range :: ranges, byte :: bytes => range.Holds byte ∧ Fits ranges bytes
  | _, _ => False

def decideFits : (ranges : List Range) → (bytes : List UInt8) → Decidable (Fits ranges bytes)
  | [], [] => .isTrue trivial
  | range :: ranges, byte :: bytes =>
      have := decideFits ranges bytes
      inferInstanceAs (Decidable (range.Holds byte ∧ Fits ranges bytes))
  | [], _ :: _ => .isFalse id
  | _ :: _, [] => .isFalse id

instance (ranges : List Range) (bytes : List UInt8) : Decidable (Fits ranges bytes) :=
  decideFits ranges bytes

/-- The bytes encode one scalar value. -/
def IsSequence (bytes : List UInt8) : Prop :=
  ∃ row ∈ table, Fits row bytes

instance (bytes : List UInt8) : Decidable (IsSequence bytes) :=
  inferInstanceAs (Decidable (∃ row ∈ table, Fits row bytes))

/-- The bytes are a concatenation of encodings. -/
def WellFormed (bytes : List UInt8) : Prop :=
  ∃ sequences : List (List UInt8), (∀ sequence ∈ sequences, IsSequence sequence) ∧
    bytes = sequences.flatten

/-! ## Sequences -/

theorem not_isSequence_nil : ¬ IsSequence [] := by
  simp [IsSequence, table, Fits]

theorem IsSequence.length_pos {bytes : List UInt8} (isSequence : IsSequence bytes) :
    0 < bytes.length := by
  refine List.length_pos_of_ne_nil ?_
  rintro rfl
  exact not_isSequence_nil isSequence

theorem isSequence_one {first : UInt8} : IsSequence [first] ↔ first.toNat ≤ 0x7F := by
  simp [IsSequence, table, Fits, Range.Holds]

theorem isSequence_two {first second : UInt8} :
    IsSequence [first, second] ↔
      (0xC2 ≤ first.toNat ∧ first.toNat ≤ 0xDF) ∧ tail.Holds second := by
  simp [IsSequence, table, Fits, Range.Holds]

/-- A tail adds six bits. -/
def push (codepoint : Nat) (byte : UInt8) : Nat :=
  codepoint * 64 + byte.toNat % 64

/-- Three bytes are neither overlong nor a surrogate. -/
theorem isSequence_three {first second third : UInt8} :
    IsSequence [first, second, third] ↔
      (0xE0 ≤ first.toNat ∧ first.toNat ≤ 0xEF) ∧ tail.Holds second ∧ tail.Holds third ∧
        let codepoint := push (push (first.toNat % 16) second) third
        0x800 ≤ codepoint ∧ ¬ (0xD800 ≤ codepoint ∧ codepoint ≤ 0xDFFF) := by
  simp only [IsSequence, table, Fits, Range.Holds, tail, push, List.mem_cons, List.not_mem_nil,
    or_false, exists_eq_or_imp, exists_eq_left, and_true, false_or, and_false, or_false]
  omega

/-- Four bytes are not overlong and not beyond the last codepoint. -/
theorem isSequence_four {first second third fourth : UInt8} :
    IsSequence [first, second, third, fourth] ↔
      (0xF0 ≤ first.toNat ∧ first.toNat ≤ 0xF4) ∧ tail.Holds second ∧ tail.Holds third ∧
        tail.Holds fourth ∧
        let codepoint := push (push (push (first.toNat % 8) second) third) fourth
        0x10000 ≤ codepoint ∧ codepoint ≤ 0x10FFFF := by
  simp only [IsSequence, table, Fits, Range.Holds, tail, push, List.mem_cons, List.not_mem_nil,
    or_false, exists_eq_or_imp, exists_eq_left, and_true, false_or, and_false, or_false]
  omega

theorem not_isSequence_long {first second third fourth fifth : UInt8} {bytes : List UInt8} :
    ¬ IsSequence (first :: second :: third :: fourth :: fifth :: bytes) := by
  simp [IsSequence, table, Fits]

/-- How many bytes come after the first. -/
def trailing (first : UInt8) : Nat :=
  if first.toNat < 0x80 then 0
  else if first.toNat < 0xE0 then 1
  else if first.toNat < 0xF0 then 2
  else 3

theorem IsSequence.length_eq {first : UInt8} {bytes : List UInt8}
    (isSequence : IsSequence (first :: bytes)) : bytes.length = trailing first := by
  rcases bytes with _ | ⟨second, _ | ⟨third, _ | ⟨fourth, _ | ⟨fifth, bytes⟩⟩⟩⟩
  · have range := isSequence_one.mp isSequence
    rw [trailing, if_pos (by omega)]
    rfl
  · have range := (isSequence_two.mp isSequence).1
    rw [trailing, if_neg (by omega), if_pos (by omega)]
    rfl
  · have range := (isSequence_three.mp isSequence).1
    rw [trailing, if_neg (by omega), if_neg (by omega), if_pos (by omega)]
    rfl
  · have range := (isSequence_four.mp isSequence).1
    rw [trailing, if_neg (by omega), if_neg (by omega), if_neg (by omega)]
    rfl
  · exact absurd isSequence not_isSequence_long

/-- The sequence at the start, if one is there. -/
def leading : List UInt8 → Option (List UInt8)
  | [] => none
  | first :: bytes =>
      let sequence := first :: bytes.take (trailing first)
      if IsSequence sequence then some sequence else none

/-- No sequence is the start of another one. -/
theorem leading_append {sequence : List UInt8} (isSequence : IsSequence sequence)
    (bytes : List UInt8) : leading (sequence ++ bytes) = some sequence := by
  cases sequence with
  | nil => exact absurd isSequence not_isSequence_nil
  | cons first others =>
      have taken : (others ++ bytes).take (trailing first) = others := by
        rw [← isSequence.length_eq]
        exact List.take_left
      rw [List.cons_append, leading, taken, if_pos isSequence]

theorem leading_eq_some_iff {bytes sequence : List UInt8} :
    leading bytes = some sequence ↔
      IsSequence sequence ∧ ∃ rest, bytes = sequence ++ rest := by
  constructor
  · intro found
    cases bytes with
    | nil => cases found
    | cons first bytes =>
        simp only [leading, Option.ite_none_right_eq_some, Option.some.injEq] at found
        obtain ⟨isSequence, rfl⟩ := found
        refine ⟨isSequence, bytes.drop (trailing first), ?_⟩
        rw [List.cons_append, List.take_append_drop]
  · rintro ⟨isSequence, rest, rfl⟩
    exact leading_append isSequence rest

/-- A byte that is no sequence together with what follows. -/
theorem leading_eq_none_of_length {first : UInt8} {bytes : List UInt8}
    (short : bytes.length < trailing first) : leading (first :: bytes) = none := by
  rw [Option.eq_none_iff_forall_ne_some]
  rintro sequence found
  obtain ⟨isSequence, rest, split⟩ := leading_eq_some_iff.mp found
  cases sequence with
  | nil => exact not_isSequence_nil isSequence
  | cons other others =>
      obtain ⟨rfl, rfl⟩ : first = other ∧ bytes = others ++ rest := List.cons.inj split
      have length := isSequence.length_eq
      rw [List.length_append] at short
      omega

/-! ## The scalar values -/

theorem isSequence_utf8EncodeChar (char : Char) : IsSequence (String.utf8EncodeChar char) := by
  have valid := char.valid
  simp only [UInt32.isValidChar, Nat.isValidChar] at valid
  unfold String.utf8EncodeChar
  generalize char.val.toNat = value at valid
  dsimp only
  split
  · rw [isSequence_one, UInt8.toNat_ofNat']
    omega
  · split
    · rw [isSequence_two]
      simp only [tail, Range.Holds, UInt8.toNat_ofNat']
      omega
    · split
      · rw [isSequence_three]
        simp only [tail, Range.Holds, push, UInt8.toNat_ofNat']
        omega
      · rw [isSequence_four]
        simp only [tail, Range.Holds, push, UInt8.toNat_ofNat']
        omega

theorem exists_char {value : Nat} (valid : value < 0xD800 ∨ 0xDFFF < value ∧ value < 0x110000) :
    ∃ char : Char, char.val.toNat = value :=
  ⟨Char.ofNatAux value valid, rfl⟩

theorem eq_ofNat (byte : UInt8) {value : Nat} (same : value = byte.toNat) :
    byte = UInt8.ofNat value := by
  rw [same, UInt8.ofNat_toNat]

/-- The sequences are the encodings of the scalar values. -/
theorem isSequence_iff_exists_char {bytes : List UInt8} :
    IsSequence bytes ↔ ∃ char : Char, bytes = String.utf8EncodeChar char := by
  constructor
  swap
  · rintro ⟨char, rfl⟩
    exact isSequence_utf8EncodeChar char
  · intro isSequence
    rcases bytes with _ | ⟨first, _ | ⟨second, _ | ⟨third, _ | ⟨fourth, _ | ⟨fifth, bytes⟩⟩⟩⟩⟩
    · exact absurd isSequence not_isSequence_nil
    · rw [isSequence_one] at isSequence
      obtain ⟨char, value⟩ := exists_char (show first.toNat < 0xD800 ∨ _ by omega)
      refine ⟨char, ?_⟩
      rw [String.utf8EncodeChar, value, if_pos (by omega), ← eq_ofNat first rfl]
    · rw [isSequence_two] at isSequence
      simp only [tail, Range.Holds] at isSequence
      obtain ⟨char, value⟩ :=
        exists_char (show push (first.toNat % 32) second < 0xD800 ∨ _ by rw [push]; omega)
      refine ⟨char, ?_⟩
      rw [String.utf8EncodeChar, value, push, if_neg (by omega), if_pos (by omega),
        ← eq_ofNat first (by omega), ← eq_ofNat second (by omega)]
    · rw [isSequence_three] at isSequence
      simp only [tail, Range.Holds, push] at isSequence
      obtain ⟨char, value⟩ := exists_char
        (show push (push (first.toNat % 16) second) third < 0xD800 ∨ _ by simp only [push]; omega)
      refine ⟨char, ?_⟩
      rw [String.utf8EncodeChar, value, push, push, if_neg (by omega), if_neg (by omega),
        if_pos (by omega), ← eq_ofNat first (by omega),
        ← eq_ofNat second (by omega), ← eq_ofNat third (by omega)]
    · rw [isSequence_four] at isSequence
      simp only [tail, Range.Holds, push] at isSequence
      obtain ⟨char, value⟩ := exists_char
        (show push (push (push (first.toNat % 8) second) third) fourth < 0xD800 ∨ _ by
          simp only [push]; omega)
      refine ⟨char, ?_⟩
      rw [String.utf8EncodeChar, value, push, push, push, if_neg (by omega), if_neg (by omega),
        if_neg (by omega), ← eq_ofNat first (by omega),
        ← eq_ofNat second (by omega), ← eq_ofNat third (by omega),
        ← eq_ofNat fourth (by omega)]
    · exact absurd isSequence not_isSequence_long

/-! ## Well-formed strings -/

theorem wellFormed_nil : WellFormed [] :=
  ⟨[], by simp, rfl⟩

theorem IsSequence.wellFormed_append_iff {sequence : List UInt8}
    (isSequence : IsSequence sequence) {bytes : List UInt8} :
    WellFormed (sequence ++ bytes) ↔ WellFormed bytes := by
  constructor
  · rintro ⟨sequences, each, split⟩
    cases sequences with
    | nil =>
        have empty : sequence = [] := (List.append_eq_nil_iff.mp split).1
        exact absurd (empty ▸ isSequence) not_isSequence_nil
    | cons other others =>
        rw [List.flatten_cons] at split
        have same := leading_append isSequence bytes
        rw [split, leading_append (each other (List.mem_cons_self ..)), Option.some_inj] at same
        rw [same] at split
        exact ⟨others, fun sequence member => each sequence (List.mem_cons_of_mem _ member),
          List.append_cancel_left split⟩
  · rintro ⟨sequences, each, rfl⟩
    exact ⟨sequence :: sequences, List.forall_mem_cons.mpr ⟨isSequence, each⟩, rfl⟩

theorem not_wellFormed_of_leading {first : UInt8} {bytes : List UInt8}
    (stray : leading (first :: bytes) = none) : ¬ WellFormed (first :: bytes) := by
  rintro ⟨sequences, each, split⟩
  cases sequences with
  | nil => cases split
  | cons sequence others =>
      rw [split, List.flatten_cons, leading_append (each sequence (List.mem_cons_self ..))] at stray
      cases stray

/-- The well-formed strings are the encodings of texts. -/
theorem wellFormed_iff_exists_text {bytes : List UInt8} :
    WellFormed bytes ↔ ∃ text : List Char, bytes = text.flatMap String.utf8EncodeChar := by
  constructor
  · rintro ⟨sequences, each, rfl⟩
    induction sequences with
    | nil => exact ⟨[], rfl⟩
    | cons sequence sequences ih =>
        rw [List.forall_mem_cons] at each
        obtain ⟨char, rfl⟩ := isSequence_iff_exists_char.mp each.1
        obtain ⟨text, rest⟩ := ih each.2
        exact ⟨char :: text, by rw [List.flatten_cons, rest, List.flatMap_cons]⟩
  · rintro ⟨text, rfl⟩
    refine ⟨text.map String.utf8EncodeChar, ?_, List.flatMap_def⟩
    rintro _ member
    obtain ⟨char, _, rfl⟩ := List.mem_map.mp member
    exact isSequence_utf8EncodeChar char

/-! ## Sequences and stray bytes -/

/-- A part of a string: a sequence, or a byte that starts none. -/
inductive Piece
  | sequence (bytes : List UInt8)
  | stray (byte : UInt8)

/-- The parts of a string, from its start. -/
def pieces : List UInt8 → List Piece
  | [] => []
  | first :: bytes =>
      if (leading (first :: bytes)).isSome then
        .sequence (first :: bytes.take (trailing first)) :: pieces (bytes.drop (trailing first))
      else .stray first :: pieces bytes
termination_by bytes => bytes.length

theorem pieces_sequence {sequence : List UInt8} (isSequence : IsSequence sequence)
    (bytes : List UInt8) : pieces (sequence ++ bytes) = .sequence sequence :: pieces bytes := by
  have starts := leading_append isSequence bytes
  cases sequence with
  | nil => exact absurd isSequence not_isSequence_nil
  | cons first others =>
      rw [List.cons_append] at starts ⊢
      rw [pieces, starts, if_pos Option.isSome_some, ← isSequence.length_eq, List.take_left,
        List.drop_left]

theorem pieces_stray {first : UInt8} {bytes : List UInt8}
    (stray : leading (first :: bytes) = none) :
    pieces (first :: bytes) = .stray first :: pieces bytes := by
  rw [pieces, stray]
  rfl

/-- Every string is empty, starts with a sequence or starts with a stray byte. -/
theorem pieces_induction {holds : List UInt8 → Prop} (nil : holds [])
    (sequence : ∀ sequence bytes, IsSequence sequence → holds bytes → holds (sequence ++ bytes))
    (stray : ∀ first bytes, leading (first :: bytes) = none → holds bytes →
      holds (first :: bytes)) (bytes : List UInt8) : holds bytes := by
  induction bytes using pieces.induct with
  | case1 => exact nil
  | case2 first bytes found ih =>
      obtain ⟨starts, isLeading⟩ := Option.isSome_iff_exists.mp found
      simp only [leading, Option.ite_none_right_eq_some, Option.some.injEq] at isLeading
      rw [← List.take_append_drop (trailing first) bytes, ← List.cons_append]
      exact sequence _ _ isLeading.1 ih
  | case3 first bytes found ih => exact stray first bytes (by simpa using found) ih

/-- What stands for a byte that starts no sequence: the encoding of U+FFFD. -/
def replacement : List UInt8 :=
  [0xEF, 0xBF, 0xBD]

theorem isSequence_replacement : IsSequence replacement := by
  decide

def Piece.repaired : Piece → List UInt8
  | .sequence bytes => bytes
  | .stray _ => replacement

/-- The string with each stray byte replaced. -/
def repair (bytes : List UInt8) : List UInt8 :=
  (pieces bytes).flatMap Piece.repaired

def Piece.isStray : Piece → Bool
  | .sequence _ => false
  | .stray _ => true

/-- The number of bytes that start no sequence. -/
def strays (bytes : List UInt8) : Nat :=
  (pieces bytes).countP Piece.isStray

theorem repair_nil : repair [] = [] := by
  simp [repair, pieces]

theorem repair_sequence {sequence : List UInt8} (isSequence : IsSequence sequence)
    (bytes : List UInt8) : repair (sequence ++ bytes) = sequence ++ repair bytes := by
  rw [repair, pieces_sequence isSequence]
  rfl

theorem repair_stray {first : UInt8} {bytes : List UInt8}
    (stray : leading (first :: bytes) = none) :
    repair (first :: bytes) = replacement ++ repair bytes := by
  rw [repair, pieces_stray stray]
  rfl

theorem wellFormed_repair (bytes : List UInt8) : WellFormed (repair bytes) := by
  induction bytes using pieces_induction with
  | nil =>
      rw [repair_nil]
      exact wellFormed_nil
  | sequence sequence bytes isSequence ih =>
      rw [repair_sequence isSequence]
      exact isSequence.wellFormed_append_iff.mpr ih
  | stray first bytes stray ih =>
      rw [repair_stray stray]
      exact isSequence_replacement.wellFormed_append_iff.mpr ih

/-- A repair leaves the well-formed start of a string alone. -/
theorem repair_append {first : List UInt8} (formed : WellFormed first) (second : List UInt8) :
    repair (first ++ second) = first ++ repair second := by
  obtain ⟨sequences, each, rfl⟩ := formed
  induction sequences with
  | nil => rfl
  | cons sequence sequences ih =>
      rw [List.forall_mem_cons] at each
      rw [List.flatten_cons, List.append_assoc, repair_sequence each.1, ih each.2,
        List.append_assoc]

theorem repair_of_wellFormed {bytes : List UInt8} (formed : WellFormed bytes) :
    repair bytes = bytes := by
  have whole := repair_append formed []
  rwa [repair_nil, List.append_nil] at whole

/-- Each stray byte becomes three. -/
theorem length_repair (bytes : List UInt8) :
    (repair bytes).length = bytes.length + 2 * strays bytes := by
  induction bytes using pieces_induction with
  | nil => simp [repair, strays, pieces]
  | sequence sequence bytes isSequence ih =>
      have counted : strays (sequence ++ bytes) = strays bytes := by
        rw [strays, pieces_sequence isSequence]
        rfl
      rw [repair_sequence isSequence, counted, List.length_append, List.length_append, ih]
      omega
  | stray first bytes stray ih =>
      have counted : strays (first :: bytes) = strays bytes + 1 := by
        rw [strays, pieces_stray stray]
        exact List.countP_cons_of_pos rfl
      rw [repair_stray stray, counted, List.length_append, List.length_cons, ih]
      simp only [replacement, List.length_cons, List.length_nil]
      omega

end Utf8

end DistributedComputing
