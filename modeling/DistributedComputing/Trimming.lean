import Mathlib.Data.List.DropRight
import Mathlib.Data.List.Infix
import Mathlib.Data.List.TakeWhile

/-!
# Trimming and cutting texts

A text without the blanks at its ends, and the parts before and after the first separator, over
any alphabet.  Where the letters are spelled out in the codes of another alphabet, and the codes
of a letter are all of its own kind, the codes can be trimmed and cut in place of the letters.
-/

namespace DistributedComputing

section Trim

variable {Letter : Type} {blank : Letter → Bool} {text : List Letter}

/-- The text without the blanks at its ends. -/
def trim (blank : Letter → Bool) (text : List Letter) : List Letter :=
  (text.dropWhile blank).rdropWhile blank

/-- What trimming takes away is blank. -/
theorem exists_trim (blank : Letter → Bool) (text : List Letter) :
    ∃ front back, text = front ++ trim blank text ++ back ∧
      (∀ letter ∈ front, blank letter = true) ∧ ∀ letter ∈ back, blank letter = true := by
  refine ⟨text.takeWhile blank, (text.dropWhile blank).rtakeWhile blank, ?_, ?_, ?_⟩
  · rw [List.append_assoc, trim, List.rdropWhile_append_rtakeWhile,
      List.takeWhile_append_dropWhile]
  · exact fun letter member => List.mem_takeWhile_imp member
  · exact fun letter member => List.mem_rtakeWhile_imp member

theorem trim_append_left {front : List Letter} (blanks : ∀ letter ∈ front, blank letter = true)
    (text : List Letter) : trim blank (front ++ text) = trim blank text := by
  rw [trim, List.dropWhile_append_of_pos blanks, trim]

theorem rdropWhile_append {back : List Letter} (blanks : ∀ letter ∈ back, blank letter = true)
    (text : List Letter) : (text ++ back).rdropWhile blank = text.rdropWhile blank := by
  have turned : ∀ letter ∈ back.reverse, blank letter = true := by simpa using blanks
  rw [List.rdropWhile, List.reverse_append, List.dropWhile_append_of_pos turned, List.rdropWhile]

theorem trim_eq_nil_iff : trim blank text = [] ↔ ∀ letter ∈ text, blank letter = true := by
  constructor
  · intro empty
    obtain ⟨front, back, split, frontBlank, backBlank⟩ := exists_trim blank text
    rw [empty, List.append_nil] at split
    rw [split]
    exact List.forall_mem_append.mpr ⟨frontBlank, backBlank⟩
  · intro blanks
    rw [trim, List.dropWhile_eq_nil_iff.mpr blanks, List.rdropWhile_nil]

theorem trim_append_right {back : List Letter} (blanks : ∀ letter ∈ back, blank letter = true)
    (text : List Letter) : trim blank (text ++ back) = trim blank text := by
  by_cases all : ∀ letter ∈ text, blank letter = true
  · rw [trim_eq_nil_iff.mpr all, trim_eq_nil_iff.mpr (List.forall_mem_append.mpr ⟨all, blanks⟩)]
  · have kept : (text.dropWhile blank).isEmpty = false := by
      rw [List.isEmpty_eq_false_iff, Ne, List.dropWhile_eq_nil_iff]
      exact all
    rw [trim, List.dropWhile_append, kept, if_neg Bool.false_ne_true, rdropWhile_append blanks,
      trim]

/-- Trimming more after trimming less is trimming more. -/
theorem trim_trim_of_imp {more : Letter → Bool}
    (imp : ∀ letter, blank letter = true → more letter = true) (text : List Letter) :
    trim more (trim blank text) = trim more text := by
  obtain ⟨front, back, split, frontBlank, backBlank⟩ := exists_trim blank text
  have longer := trim_append_left (fun letter member => imp letter (frontBlank letter member))
    (trim blank text)
  rw [← trim_append_right (fun letter member => imp letter (backBlank letter member)), ← split]
    at longer
  exact longer.symm

theorem trim_trim (blank : Letter → Bool) (text : List Letter) :
    trim blank (trim blank text) = trim blank text :=
  trim_trim_of_imp (fun _ => id) text

theorem isInfix_trim (blank : Letter → Bool) (text : List Letter) : trim blank text <:+: text := by
  obtain ⟨front, back, split, -, -⟩ := exists_trim blank text
  exact ⟨front, back, split.symm⟩

/-- Nothing is trimmed where no blank stands at an end. -/
theorem trim_eq_self_iff : trim blank text = text ↔
    (∀ letter, text.head? = some letter → blank letter = false) ∧
      ∀ letter, text.getLast? = some letter → blank letter = false := by
  constructor
  · intro same
    constructor
    · intro letter first
      by_contra isBlank
      obtain ⟨rest, rfl⟩ := List.head?_eq_some_iff.mp first
      have blanks : ∀ other ∈ [letter], blank other = true := by simpa using isBlank
      have shorter := trim_append_left blanks rest
      rw [List.singleton_append, same] at shorter
      have length := (isInfix_trim blank rest).length_le
      rw [← shorter, List.length_cons] at length
      omega
    · intro letter last
      by_contra isBlank
      obtain ⟨start, rfl⟩ := List.getLast?_eq_some_iff.mp last
      have blanks : ∀ other ∈ [letter], blank other = true := by simpa using isBlank
      have shorter := trim_append_right blanks start
      rw [same] at shorter
      have length := (isInfix_trim blank start).length_le
      rw [← shorter, List.length_append, List.length_singleton] at length
      omega
  · rintro ⟨first, last⟩
    cases text with
    | nil => rfl
    | cons letter rest =>
        rw [trim, List.dropWhile_cons_of_neg (by simp [first letter rfl]),
          List.rdropWhile_eq_self_iff]
        intro nonempty
        rw [last _ (List.getLast?_eq_some_getLast nonempty)]
        exact Bool.false_ne_true

theorem mem_trim_of_mem {letter : Letter} (member : letter ∈ text)
    (notBlank : blank letter = false) : letter ∈ trim blank text := by
  obtain ⟨front, back, split, frontBlank, backBlank⟩ := exists_trim blank text
  rw [split, List.append_assoc, List.mem_append, List.mem_append] at member
  rcases member with inFront | inText | inBack
  · simp [frontBlank letter inFront] at notBlank
  · exact inText
  · simp [backBlank letter inBack] at notBlank

theorem rdropWhile_append_cons {letter : Letter} (notBlank : blank letter = false)
    (front rest : List Letter) :
    (front ++ letter :: rest).rdropWhile blank = front ++ letter :: rest.rdropWhile blank := by
  induction rest using List.reverseRecOn with
  | nil => exact List.rdropWhile_concat_neg _ _ _ (by simp [notBlank])
  | append_singleton rest last ih =>
      rw [← List.cons_append, ← List.append_assoc]
      cases isBlank : blank last with
      | true =>
          rw [List.rdropWhile_concat_pos _ _ _ isBlank, List.rdropWhile_concat_pos _ _ _ isBlank,
            ih]
      | false =>
          rw [List.rdropWhile_concat_neg _ _ _ (by simp [isBlank]),
            List.rdropWhile_concat_neg _ _ _ (by simp [isBlank]), List.append_assoc,
            List.cons_append]

/-- Around a letter that is no blank, each side is trimmed at its outer end. -/
theorem trim_append_cons {letter : Letter} (notBlank : blank letter = false)
    (front rest : List Letter) :
    trim blank (front ++ letter :: rest) =
      front.dropWhile blank ++ letter :: rest.rdropWhile blank := by
  have outer : (front ++ letter :: rest).dropWhile blank =
      front.dropWhile blank ++ letter :: rest := by
    rw [List.dropWhile_append, List.dropWhile_cons_of_neg (by simp [notBlank])]
    split
    · rename_i empty
      rw [List.isEmpty_iff.mp empty, List.nil_append]
    · rfl
  rw [trim, outer, rdropWhile_append_cons notBlank]

/-- What is left of the end of a text lies within what is left of the text. -/
theorem trim_isInfix_of_isSuffix {front middle back part : List Letter}
    (frontBlank : ∀ letter ∈ front, blank letter = true)
    (backBlank : ∀ letter ∈ back, blank letter = true)
    (suffix : part <:+ front ++ middle ++ back) : trim blank part <:+: middle := by
  rcases List.suffix_or_suffix_of_suffix suffix (List.suffix_append _ back) with inBack | longer
  · have blanks : ∀ letter ∈ part, blank letter = true :=
      fun letter member => backBlank letter (inBack.subset member)
    rw [trim_eq_nil_iff.mpr blanks]
    exact List.nil_infix
  · obtain ⟨part, rfl⟩ := longer
    have inner : part <:+ front ++ middle := by
      obtain ⟨start, split⟩ := suffix
      rw [← List.append_assoc] at split
      exact ⟨start, List.append_cancel_right split⟩
    rw [trim_append_right backBlank]
    rcases List.suffix_or_suffix_of_suffix inner (List.suffix_append _ middle) with within | whole
    · exact (isInfix_trim blank part).trans within.isInfix
    · obtain ⟨start, rfl⟩ := whole
      have blanks : ∀ letter ∈ start, blank letter = true := by
        obtain ⟨more, split⟩ := inner
        rw [← List.append_assoc] at split
        have same := List.append_cancel_right split
        exact fun letter member => frontBlank letter (same ▸ List.mem_append_right more member)
      rw [trim_append_left blanks]
      exact isInfix_trim blank middle

end Trim

/-- A word without the separator that begins a text begins what stands before the separator. -/
theorem isPrefix_append_cons_iff {Letter : Type} {separator : Letter} {word : List Letter}
    (absent : separator ∉ word) {front rest : List Letter} :
    word <+: front ++ separator :: rest ↔ word <+: front := by
  constructor
  · intro begins
    rcases List.prefix_or_prefix_of_prefix begins (List.prefix_append front _) with inFront | longer
    · exact inFront
    · obtain ⟨more, rfl⟩ := longer
      rw [List.prefix_append_right_inj] at begins
      cases more with
      | nil => simp
      | cons letter more =>
          obtain ⟨rfl, -⟩ := List.cons_prefix_cons.mp begins
          simp at absent
  · exact fun begins => begins.trans (List.prefix_append front _)

/-! ## Cutting at a separator -/

section Cut

variable {Letter : Type} [DecidableEq Letter] {separator : Letter} {text front rest : List Letter}

/-- The text before the first separator and the text after it. -/
def cut (separator : Letter) (text : List Letter) : Option (List Letter × List Letter) :=
  if separator ∈ text then
    some (text.takeWhile fun letter => decide (letter ≠ separator),
      (text.dropWhile fun letter => decide (letter ≠ separator)).tail)
  else none

theorem cut_append_cons (absent : separator ∉ front) (rest : List Letter) :
    cut separator (front ++ separator :: rest) = some (front, rest) := by
  have whole : ∀ letter ∈ front, decide (letter ≠ separator) = true := by
    intro letter member
    exact decide_eq_true fun same => absent (same ▸ member)
  rw [cut, if_pos (by simp), List.takeWhile_append_of_pos whole, List.dropWhile_append_of_pos whole]
  simp

theorem cut_eq_some_iff : cut separator text = some (front, rest) ↔
    text = front ++ separator :: rest ∧ separator ∉ front := by
  constructor
  · intro parts
    have member : separator ∈ text := by
      by_contra absent
      rw [cut, if_neg absent] at parts
      cases parts
    obtain ⟨before, after, rfl, absent⟩ := List.eq_append_cons_of_mem member
    rw [cut_append_cons absent] at parts
    cases parts
    exact ⟨rfl, absent⟩
  · rintro ⟨rfl, absent⟩
    exact cut_append_cons absent rest

theorem cut_eq_none_iff : cut separator text = none ↔ separator ∉ text := by
  unfold cut
  split <;> simp_all

/-- The separator stands in none of the parts between separators. -/
theorem not_mem_of_mem_splitOn {part : List Letter} (member : part ∈ text.splitOn separator) :
    separator ∉ part := by
  induction text generalizing part with
  | nil =>
      rw [List.splitOn_nil, List.mem_singleton] at member
      rw [member]
      exact List.not_mem_nil
  | cons letter text ih =>
      have pieces := List.splitOn_ne_nil separator text
      obtain ⟨first, parts, split⟩ := List.exists_cons_of_ne_nil pieces
      rw [split] at ih
      rw [List.splitOn_cons_eq_if_modifyHead, split, List.modifyHead_cons] at member
      by_cases same : letter = separator
      · rw [if_pos (by simpa using same), List.mem_cons] at member
        rcases member with rfl | later
        · exact List.not_mem_nil
        · exact ih later
      · rw [if_neg (by simpa using same), List.mem_cons] at member
        rcases member with rfl | later
        · exact List.not_mem_cons_of_ne_of_not_mem (Ne.symm same) (ih List.mem_cons_self)
        · exact ih (List.mem_cons_of_mem first later)

end Cut

/-! ## Spelling letters out -/

section Spelling

variable {Letter Code : Type} {encode : Letter → List Code} {kind : Letter → Bool}
  {codeKind : Code → Bool}

/-- The codes of a letter are of the kind of the letter. -/
structure Spells (encode : Letter → List Code) (kind : Letter → Bool)
    (codeKind : Code → Bool) : Prop where
  nonempty : ∀ letter, encode letter ≠ []
  same : ∀ letter, ∀ code ∈ encode letter, codeKind code = kind letter

namespace Spells

variable (spells : Spells encode kind codeKind)

include spells

theorem reverse : Spells (List.reverse ∘ encode) kind codeKind where
  nonempty letter := by simpa using spells.nonempty letter
  same letter := by simpa using spells.same letter

theorem takeWhile (text : List Letter) :
    (text.flatMap encode).takeWhile codeKind = (text.takeWhile kind).flatMap encode := by
  induction text with
  | nil => rfl
  | cons letter text ih =>
      have same := spells.same letter
      obtain ⟨first, codes, spelled⟩ := List.exists_cons_of_ne_nil (spells.nonempty letter)
      rw [List.flatMap_cons]
      cases isKind : kind letter with
      | true =>
          have all : ∀ code ∈ encode letter, codeKind code = true :=
            fun code member => (same code member).trans isKind
          rw [List.takeWhile_append_of_pos all, ih, List.takeWhile_cons_of_pos isKind,
            List.flatMap_cons]
      | false =>
          have none : ¬codeKind first = true := by
            rw [same first (by simp [spelled]), isKind]
            exact Bool.false_ne_true
          rw [spelled, List.cons_append, List.takeWhile_cons_of_neg none,
            List.takeWhile_cons_of_neg (by simp [isKind]), List.flatMap_nil]

theorem dropWhile (text : List Letter) :
    (text.flatMap encode).dropWhile codeKind = (text.dropWhile kind).flatMap encode := by
  have whole := congrArg (List.flatMap encode)
    (List.takeWhile_append_dropWhile (p := kind) (l := text))
  have split := List.takeWhile_append_dropWhile (p := codeKind) (l := text.flatMap encode)
  rw [List.flatMap_append, ← spells.takeWhile] at whole
  exact List.append_cancel_left (split.trans whole.symm)

theorem rdropWhile (text : List Letter) :
    (text.flatMap encode).rdropWhile codeKind = (text.rdropWhile kind).flatMap encode := by
  rw [List.rdropWhile, List.reverse_flatMap, spells.reverse.dropWhile, List.reverse_flatMap]
  simp [List.rdropWhile, Function.comp_def]

/-- The codes are trimmed as the letters are. -/
theorem trim (text : List Letter) :
    DistributedComputing.trim codeKind (text.flatMap encode) =
      (DistributedComputing.trim kind text).flatMap encode := by
  rw [DistributedComputing.trim, spells.dropWhile, spells.rdropWhile, DistributedComputing.trim]

end Spells

section Separator

variable [DecidableEq Letter] [DecidableEq Code] {separator : Letter} {code : Code}

/-- A code that a separator alone is spelled with. -/
structure SpellsSeparator (encode : Letter → List Code) (separator : Letter) (code : Code) :
    Prop where
  spells : Spells encode (fun letter => decide (letter ≠ separator)) fun other =>
    decide (other ≠ code)
  single : encode separator = [code]

namespace SpellsSeparator

variable (spells : SpellsSeparator encode separator code)

include spells

theorem not_mem {text : List Letter} (absent : separator ∉ text) : code ∉ text.flatMap encode := by
  intro member
  obtain ⟨letter, listed, among⟩ := List.mem_flatMap.mp member
  have same := spells.spells.same letter code among
  rw [decide_eq_false (by simp), eq_comm, decide_eq_false_iff_not, not_not] at same
  exact absent (same ▸ listed)

/-- The codes are cut as the letters are. -/
theorem cut (text : List Letter) :
    DistributedComputing.cut code (text.flatMap encode) =
      (DistributedComputing.cut separator text).map fun parts =>
        (parts.1.flatMap encode, parts.2.flatMap encode) := by
  cases parts : DistributedComputing.cut separator text with
  | none => exact cut_eq_none_iff.mpr (spells.not_mem (cut_eq_none_iff.mp parts))
  | some pair =>
      obtain ⟨front, rest⟩ := pair
      obtain ⟨rfl, absent⟩ := cut_eq_some_iff.mp parts
      rw [List.flatMap_append, List.flatMap_cons, spells.single]
      exact cut_append_cons (spells.not_mem absent) _

theorem intercalate (lines : List (List Letter)) :
    ([separator].intercalate lines).flatMap encode =
      [code].intercalate (lines.map (List.flatMap encode)) := by
  induction lines with
  | nil => rfl
  | cons line lines ih =>
      cases lines with
      | nil => simp
      | cons next lines =>
          rw [List.intercalate_cons_cons, List.flatMap_append, List.flatMap_append, ih,
            List.flatMap_singleton, spells.single, List.map_cons, List.map_cons, List.map_cons,
            List.intercalate_cons_cons]

/-- The lines of the codes are those of the letters. -/
theorem splitOn (text : List Letter) :
    (text.flatMap encode).splitOn code = (text.splitOn separator).map (List.flatMap encode) := by
  have whole := spells.intercalate (text.splitOn separator)
  rw [List.intercalate_splitOn] at whole
  rw [whole]
  apply List.splitOn_intercalate
  · intro line member
    obtain ⟨letters, listed, rfl⟩ := List.mem_map.mp member
    exact spells.not_mem (not_mem_of_mem_splitOn listed)
  · simp

end SpellsSeparator

end Separator

end Spelling

end DistributedComputing
