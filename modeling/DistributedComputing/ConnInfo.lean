import DistributedComputing.ByteTexts
import Mathlib.Algebra.Order.Ring.Nat
import Mathlib.Data.List.Nodup
import Mathlib.Data.List.Perm.Subperm

/-!
# Keyword/value connection strings

A connection string is a sequence of settings `keyword = value`.  Blanks separate them and may
stand around the equals sign.  A value that starts with a quote goes on to the next quote, any
other to the next blank, and after a backslash every byte stands for itself.
-/

namespace DistributedComputing

namespace ConnInfo

/-- A keyword and its value. -/
abbrev Setting :=
  Bytes × Bytes

/-- A value without quotes, and what is left after it. -/
def unquoted : Bytes → Bytes × Bytes
  | [] => ([], [])
  | first :: rest =>
      if isBlank first then ([], rest)
      else if first = byte '\\' then
        match rest with
        | [] => ([], [])
        | escaped :: rest => (escaped :: (unquoted rest).1, (unquoted rest).2)
      else (first :: (unquoted rest).1, (unquoted rest).2)

/-- The rest of a quoted value, if the quote is closed, and what is left after it. -/
def quoted : Bytes → Option (Bytes × Bytes)
  | [] => none
  | first :: rest =>
      if first = byte '\'' then some ([], rest)
      else if first = byte '\\' then
        match rest with
        | [] => none
        | escaped :: rest => (quoted rest).map fun read => (escaped :: read.1, read.2)
      else (quoted rest).map fun read => (first :: read.1, read.2)

def readValue (text : Bytes) : Option (Bytes × Bytes) :=
  if text.head? = some (byte '\'') then quoted text.tail else some (unquoted text)

/-- Whether a byte belongs to a keyword. -/
def isName (value : UInt8) : Bool :=
  !isBlank value && decide (value ≠ byte '=')

/-- The first setting of a text that starts with one, and what is left after it. -/
def readSetting (text : Bytes) : Option (Setting × Bytes) :=
  let after := (text.dropWhile isName).dropWhile isBlank
  if after.head? = some (byte '=') then
    (readValue (after.tail.dropWhile isBlank)).map fun read =>
      ((text.takeWhile isName, read.1), read.2)
  else none

/-- Read at most so many settings. -/
def parseFrom : Nat → Bytes → Option (List Setting)
  | 0, text => if text.dropWhile isBlank = [] then some [] else none
  | limit + 1, text =>
      if text.dropWhile isBlank = [] then some []
      else (readSetting (text.dropWhile isBlank)).bind fun read =>
        (parseFrom limit read.2).map fun settings => read.1 :: settings

/-- Every setting takes at least one byte. -/
def parse (text : Bytes) : Option (List Setting) :=
  parseFrom text.length text

/-- A later setting replaces an earlier one of the same keyword. -/
def valueOf (keyword : Bytes) (settings : List Setting) : Option Bytes :=
  settings.reverse.lookup keyword

/-- Settings one after the other, each with a blank after it. -/
def render (settings : List Setting) : Bytes :=
  settings.flatMap fun setting => setting.1 ++ byte '=' :: setting.2 ++ [byte ' ']

/-- A value that stands for itself. -/
structure Plain (value : Bytes) : Prop where
  nonempty : value ≠ []
  notQuoted : value.head? ≠ some (byte '\'')
  noBlank : ∀ element ∈ value, isBlank element = false
  noEscape : byte '\\' ∉ value

/-! ## What a reading takes -/

/-- The last byte, if there is one, is a blank. -/
def EndsInBlank (text : Bytes) : Prop :=
  ∀ last ∈ text.getLast?, isBlank last = true

theorem EndsInBlank.of_suffix {text rest : Bytes} (ends : EndsInBlank text)
    (suffix : rest <:+ text) : EndsInBlank rest := by
  obtain ⟨front, rfl⟩ := suffix
  intro last isLast
  apply ends
  rw [List.getLast?_append, isLast]
  rfl

theorem unquoted_suffix (text : Bytes) : (unquoted text).2 <:+ text := by
  fun_induction unquoted text with
  | case1 => exact List.suffix_rfl
  | case2 first rest blank => exact List.suffix_cons first rest
  | case3 => exact List.nil_suffix
  | case4 escaped rest notBlank ih =>
      exact (ih.trans (List.suffix_cons escaped rest)).trans (List.suffix_cons _ _)
  | case5 first rest notBlank notEscape ih => exact ih.trans (List.suffix_cons first rest)

/-- A value that was read from a text without waste: nothing in it was escaped, and if the text
has no escapes at all, then it stands there as it is. -/
structure Verbatim (text value : Bytes) : Prop where
  noEscape : byte '\\' ∉ value
  noBlank : byte '\\' ∉ text → ∀ element ∈ value, isBlank element = false
  notQuoted : byte '\\' ∉ text → value.head? ≠ some (byte '\'')

/-- A value and the blank after it are not longer than what they were read from. -/
theorem length_unquoted {text : Bytes} (ends : EndsInBlank text) (nonempty : text ≠ []) :
    (unquoted text).1.length + (unquoted text).2.length + 1 ≤ text.length ∧
      ((unquoted text).1.length + (unquoted text).2.length + 1 = text.length →
        byte '\\' ∉ (unquoted text).1 ∧
          (byte '\\' ∉ text → ∀ element ∈ (unquoted text).1, isBlank element = false)) := by
  fun_induction unquoted text with
  | case1 => exact absurd rfl nonempty
  | case2 first rest blank => exact ⟨by simp, fun _ => ⟨by simp, by simp⟩⟩
  | case3 notBlank => exact absurd (ends _ rfl) notBlank
  | case4 escaped rest notBlank ih =>
      rcases eq_or_ne rest [] with rfl | more
      · have isLast : isBlank escaped = true := ends _ rfl
        refine ⟨by simp [unquoted], fun _ =>
          ⟨?_, fun noEscape => absurd List.mem_cons_self noEscape⟩⟩
        rw [unquoted, List.mem_singleton]
        rintro rfl
        exact notBlank isLast
      · have shorter := (ih (ends.of_suffix ⟨[_, escaped], rfl⟩) more).1
        simp only [List.length_cons]
        exact ⟨by omega, fun same => by omega⟩
  | case5 first rest notBlank notEscape ih =>
      have more : rest ≠ [] := by
        rintro rfl
        exact notBlank (ends _ rfl)
      obtain ⟨shorter, verbatim⟩ := ih (ends.of_suffix (List.suffix_cons first rest)) more
      simp only [List.length_cons]
      refine ⟨by omega, fun same => ?_⟩
      obtain ⟨noEscape, noBlank⟩ := verbatim (by omega)
      constructor
      · rw [List.mem_cons, not_or]
        exact ⟨fun same => notEscape same.symm, noEscape⟩
      · intro without
        rw [List.mem_cons, not_or] at without
        rw [List.forall_mem_cons]
        exact ⟨Bool.eq_false_iff.mpr notBlank, noBlank without.2⟩

/-- A value that is not empty starts where it was read, if nothing is escaped. -/
theorem head_unquoted {text : Bytes} (without : byte '\\' ∉ text) {first : UInt8}
    (isFirst : (unquoted text).1.head? = some first) : text.head? = some first := by
  cases text with
  | nil => cases isFirst
  | cons start rest =>
      rw [List.mem_cons, not_or] at without
      unfold unquoted at isFirst
      split at isFirst
      · cases isFirst
      · rw [if_neg (fun same => without.1 same.symm)] at isFirst
        exact isFirst

/-- A quoted value takes more bytes than it has. -/
theorem length_quoted {text : Bytes} {read : Bytes × Bytes} (isRead : quoted text = some read) :
    read.1.length + read.2.length + 1 ≤ text.length ∧ read.2 <:+ text := by
  fun_induction quoted text generalizing read with
  | case1 => cases isRead
  | case2 rest =>
      cases isRead
      exact ⟨by simp, List.suffix_cons _ _⟩
  | case3 => cases isRead
  | case4 escaped rest notQuote ih =>
      obtain ⟨inner, isInner, rfl⟩ := Option.map_eq_some_iff.mp isRead
      obtain ⟨shorter, suffix⟩ := ih isInner
      simp only [List.length_cons]
      exact ⟨by omega, (suffix.trans (List.suffix_cons escaped rest)).trans (List.suffix_cons _ _)⟩
  | case5 first rest notQuote notEscape ih =>
      obtain ⟨inner, isInner, rfl⟩ := Option.map_eq_some_iff.mp isRead
      obtain ⟨shorter, suffix⟩ := ih isInner
      simp only [List.length_cons]
      exact ⟨by omega, suffix.trans (List.suffix_cons first rest)⟩

theorem Verbatim.of_suffix {text rest value : Bytes} (verbatim : Verbatim rest value)
    (suffix : rest <:+ text) : Verbatim text value where
  noEscape := verbatim.noEscape
  noBlank without := verbatim.noBlank fun member => without (suffix.subset member)
  notQuoted without := verbatim.notQuoted fun member => without (suffix.subset member)

theorem length_readValue {text : Bytes} (ends : EndsInBlank text) (nonempty : text ≠ [])
    {read : Bytes × Bytes} (isRead : readValue text = some read) :
    read.1.length + read.2.length + 1 ≤ text.length ∧
      (read.1.length + read.2.length + 1 = text.length → Verbatim text read.1) ∧
      read.2 <:+ text := by
  unfold readValue at isRead
  split at isRead
  · obtain ⟨shorter, suffix⟩ := length_quoted isRead
    have less : text.tail.length + 1 = text.length := by
      rw [List.length_tail]
      have positive := List.length_pos_iff.mpr nonempty
      omega
    exact ⟨by omega, fun same => by omega, suffix.trans (List.tail_suffix text)⟩
  · rename_i notQuote
    cases isRead
    obtain ⟨shorter, verbatim⟩ := length_unquoted ends nonempty
    refine ⟨shorter, fun same => ?_, unquoted_suffix text⟩
    obtain ⟨noEscape, noBlank⟩ := verbatim same
    exact ⟨noEscape, noBlank, fun without isQuote => notQuote (head_unquoted without isQuote)⟩

theorem length_readSetting {text : Bytes} (ends : EndsInBlank text) {read : Setting × Bytes}
    (isRead : readSetting text = some read) :
    read.1.1.length + 1 + read.1.2.length + 1 + read.2.length ≤ text.length ∧
      (read.1.1.length + 1 + read.1.2.length + 1 + read.2.length = text.length →
        Verbatim text read.1.2) ∧
      read.2 <:+ text := by
  let after := (text.dropWhile isName).dropWhile isBlank
  let start := after.tail.dropWhile isBlank
  have keyword : (text.takeWhile isName).length + (text.dropWhile isName).length = text.length := by
    rw [← List.length_append, List.takeWhile_append_dropWhile]
  have afterSuffix : after <:+ text :=
    (List.dropWhile_suffix _).trans (List.dropWhile_suffix _)
  have startSuffix : start <:+ text :=
    ((List.dropWhile_suffix _).trans (List.tail_suffix after)).trans afterSuffix
  have afterLength : after.length ≤ (text.dropWhile isName).length :=
    (List.dropWhile_suffix _).length_le
  have startLength : start.length ≤ after.tail.length := (List.dropWhile_suffix _).length_le
  unfold readSetting at isRead
  dsimp only at isRead
  split at isRead
  · rename_i equals
    obtain ⟨value, isValue, rfl⟩ := Option.map_eq_some_iff.mp isRead
    obtain ⟨rest, split⟩ := List.head?_eq_some_iff.mp equals
    have split : after = byte '=' :: rest := split
    have tailLength : after.tail.length + 1 = after.length := by
      rw [split]
      rfl
    rcases eq_or_ne start [] with noValue | more
    · have isNothing : value = ([], []) := by
        have isValue : readValue start = some value := isValue
        rw [noValue] at isValue
        exact (Option.some_inj.mp isValue).symm
      subst isNothing
      have filled : rest ≠ [] := by
        rintro rfl
        have last := ends.of_suffix afterSuffix
        rw [split] at last
        exact absurd (last _ rfl) (by decide)
      have positive := List.length_pos_iff.mpr filled
      rw [split, List.length_cons] at afterLength
      simp only [List.length_nil]
      have nothing : Verbatim text [] := ⟨by simp, by simp, by simp⟩
      exact ⟨by omega, fun _ => nothing, List.nil_suffix⟩
    · obtain ⟨shorter, verbatim, suffix⟩ :=
        length_readValue (ends.of_suffix startSuffix) more isValue
      dsimp only
      exact ⟨by omega, fun same => (verbatim (by omega)).of_suffix startSuffix,
        suffix.trans startSuffix⟩
  · cases isRead

/-- How many bytes settings take at least. -/
def cost (settings : List Setting) : Nat :=
  (settings.map fun setting => setting.1.length + 1 + setting.2.length + 1).sum

theorem cost_parseFrom {limit : Nat} {text : Bytes} (ends : EndsInBlank text)
    {settings : List Setting} (parsed : parseFrom limit text = some settings) :
    cost settings ≤ text.length ∧
      (cost settings = text.length → ∀ setting ∈ settings, Verbatim text setting.2) := by
  induction limit generalizing text settings with
  | zero =>
      unfold parseFrom at parsed
      split at parsed
      · cases parsed
        exact ⟨Nat.zero_le _, fun _ _ member => nomatch member⟩
      · cases parsed
  | succ limit ih =>
      unfold parseFrom at parsed
      split at parsed
      · cases parsed
        exact ⟨Nat.zero_le _, fun _ _ member => nomatch member⟩
      · obtain ⟨read, isRead, continued⟩ := Option.bind_eq_some_iff.mp parsed
        obtain ⟨others, areRead, rfl⟩ := Option.map_eq_some_iff.mp continued
        have startSuffix : text.dropWhile isBlank <:+ text := List.dropWhile_suffix _
        obtain ⟨shorter, verbatim, suffix⟩ :=
          length_readSetting (ends.of_suffix startSuffix) isRead
        have restSuffix := suffix.trans startSuffix
        obtain ⟨restShorter, restVerbatim⟩ := ih (ends.of_suffix restSuffix) areRead
        have startLength := startSuffix.length_le
        have total : cost (read.1 :: others) =
            read.1.1.length + 1 + read.1.2.length + 1 + cost others := List.sum_cons
        refine ⟨by omega, fun same => ?_⟩
        rw [List.forall_mem_cons]
        exact ⟨(verbatim (by omega)).of_suffix startSuffix,
          fun setting member => (restVerbatim (by omega) setting member).of_suffix restSuffix⟩

/-! ## Reading what was written -/

/-- A keyword in the usual letters. -/
structure Keyword (name : Bytes) : Prop where
  nonempty : name ≠ []
  isName : ∀ element ∈ name, ConnInfo.isName element = true
  noEscape : byte '\\' ∉ name
  noQuote : byte '\'' ∉ name

theorem unquoted_of_plain {value : Bytes} (noBlank : ∀ element ∈ value, isBlank element = false)
    (noEscape : byte '\\' ∉ value) (rest : Bytes) :
    unquoted (value ++ byte ' ' :: rest) = (value, rest) := by
  induction value with
  | nil =>
      rw [List.nil_append]
      unfold unquoted
      exact if_pos (by decide)
  | cons first value ih =>
      rw [List.forall_mem_cons] at noBlank
      rw [List.mem_cons, not_or] at noEscape
      rw [List.cons_append]
      unfold unquoted
      rw [if_neg (by simp [noBlank.1]), if_neg fun same => noEscape.1 same.symm,
        ih noBlank.2 noEscape.2]

theorem isBlank_of_isName {value : UInt8} (name : isName value = true) : isBlank value = false := by
  unfold isName at name
  simp_all

section Setting

variable {name : Bytes} (keyword : Keyword name)

include keyword

theorem Keyword.dropWhile_isBlank (rest : Bytes) :
    (name ++ rest).dropWhile isBlank = name ++ rest := by
  cases name with
  | nil => exact absurd rfl keyword.nonempty
  | cons first name =>
      have notBlank := isBlank_of_isName (keyword.isName first List.mem_cons_self)
      exact List.dropWhile_cons_of_neg (by simp [notBlank])

/-- After its keyword, a setting goes on with the value. -/
theorem Keyword.readSetting (rest : Bytes) :
    ConnInfo.readSetting (name ++ byte '=' :: rest) =
      (readValue (rest.dropWhile isBlank)).map fun read => ((name, read.1), read.2) := by
  have taken : (name ++ byte '=' :: rest).takeWhile ConnInfo.isName = name := by
    rw [List.takeWhile_append_of_pos keyword.isName]
    simp [show ConnInfo.isName (byte '=') = false by decide]
  have dropped : (name ++ byte '=' :: rest).dropWhile ConnInfo.isName = byte '=' :: rest := by
    rw [List.dropWhile_append_of_pos keyword.isName]
    simp [show ConnInfo.isName (byte '=') = false by decide]
  have kept : (byte '=' :: rest).dropWhile isBlank = byte '=' :: rest :=
    List.dropWhile_cons_of_neg (by decide)
  unfold ConnInfo.readSetting
  dsimp only
  rw [taken, dropped, kept, List.head?_cons, if_pos rfl, List.tail_cons]

theorem Keyword.readSetting_of_plain {value : Bytes} (plain : Plain value) (rest : Bytes) :
    ConnInfo.readSetting (name ++ byte '=' :: value ++ byte ' ' :: rest) =
      some ((name, value), rest) := by
  have started : (value ++ byte ' ' :: rest).dropWhile isBlank = value ++ byte ' ' :: rest := by
    cases value with
    | nil => exact absurd rfl plain.nonempty
    | cons first value =>
        have notBlank := plain.noBlank first List.mem_cons_self
        exact List.dropWhile_cons_of_neg (by simp [notBlank])
  have notQuoted : (value ++ byte ' ' :: rest).head? ≠ some (byte '\'') := by
    rw [List.head?_append_of_ne_nil _ plain.nonempty]
    exact plain.notQuoted
  rw [List.append_assoc, List.cons_append, keyword.readSetting, started, readValue,
    if_neg notQuoted, unquoted_of_plain plain.noBlank plain.noEscape]
  rfl

/-- The value of a setting that is written without one is read from what follows. -/
theorem Keyword.readSetting_of_empty {next : Bytes} (nextKeyword : Keyword next) (rest : Bytes) :
    ∃ value after, value ≠ [] ∧
      ConnInfo.readSetting (name ++ byte '=' :: [] ++ byte ' ' :: (next ++ rest)) =
        some ((name, value), after) := by
  have started : (byte ' ' :: (next ++ rest)).dropWhile isBlank = next ++ rest := by
    rw [List.dropWhile_cons_of_pos (by decide)]
    exact nextKeyword.dropWhile_isBlank rest
  obtain ⟨first, others, rfl⟩ := List.exists_cons_of_ne_nil nextKeyword.nonempty
  have notBlank := isBlank_of_isName (nextKeyword.isName first List.mem_cons_self)
  have notQuote : ¬ (first :: others ++ rest).head? = some (byte '\'') := by
    rw [List.cons_append, List.head?_cons, Option.some_inj]
    rintro rfl
    exact nextKeyword.noQuote List.mem_cons_self
  have notEscape : ¬ first = byte '\\' := by
    rintro rfl
    exact nextKeyword.noEscape List.mem_cons_self
  have isValue : (unquoted (first :: others ++ rest)).1 ≠ [] := by
    rw [List.cons_append]
    unfold unquoted
    rw [if_neg (by simp [notBlank]), if_neg notEscape]
    exact List.cons_ne_nil _ _
  refine ⟨_, (unquoted (first :: others ++ rest)).2, isValue, ?_⟩
  rw [List.append_assoc, List.cons_append, keyword.readSetting, List.nil_append, started,
    readValue, if_neg notQuote]
  rfl

end Setting

theorem render_cons (setting : Setting) (settings : List Setting) :
    render (setting :: settings) =
      setting.1 ++ byte '=' :: setting.2 ++ byte ' ' :: render settings := by
  simp [render]

theorem length_render (settings : List Setting) : (render settings).length = cost settings := by
  induction settings with
  | nil => rfl
  | cons setting settings ih =>
      rw [render_cons, cost, List.map_cons, List.sum_cons, ← cost, ← ih]
      simp only [List.length_append, List.length_cons]
      omega

theorem endsInBlank_render (settings : List Setting) : EndsInBlank (render settings) := by
  induction settings with
  | nil => exact fun _ impossible => nomatch impossible
  | cons setting settings ih =>
      intro last isLast
      rw [render_cons, List.getLast?_append, List.getLast?_cons, Option.some_or] at isLast
      cases found : (render settings).getLast? with
      | none =>
          rw [found] at isLast
          cases isLast
          decide
      | some value =>
          rw [found] at isLast
          cases isLast
          exact ih _ found

theorem render_ne_blank {name : Bytes} (keyword : Keyword name) (rest : Bytes) :
    (name ++ rest).dropWhile isBlank ≠ [] := by
  rw [keyword.dropWhile_isBlank]
  intro empty
  exact keyword.nonempty (List.append_eq_nil_iff.mp empty).1

/-- One more setting is read, whatever its value is read as. -/
theorem parseFrom_cons {name : Bytes} (keyword : Keyword name) {rest after : Bytes}
    {setting : Setting} (isRead : readSetting (name ++ rest) = some (setting, after))
    (limit : Nat) :
    parseFrom (limit + 1) (name ++ rest) =
      (parseFrom limit after).map fun settings => setting :: settings := by
  rw [parseFrom, if_neg (render_ne_blank keyword rest), keyword.dropWhile_isBlank, isRead]
  rfl

theorem parseFrom_render {settings : List Setting}
    (keywords : ∀ setting ∈ settings, Keyword setting.1)
    (plain : ∀ setting ∈ settings, Plain setting.2) {limit : Nat}
    (enough : settings.length ≤ limit) : parseFrom limit (render settings) = some settings := by
  induction settings generalizing limit with
  | nil => cases limit <;> rfl
  | cons setting settings ih =>
      rw [List.forall_mem_cons] at keywords plain
      obtain ⟨limit, rfl⟩ : ∃ less, limit = less + 1 :=
        Nat.exists_eq_succ_of_ne_zero (by rw [List.length_cons] at enough; omega)
      have isRead := keywords.1.readSetting_of_plain plain.1 (render settings)
      rw [List.append_assoc] at isRead
      rw [render_cons, List.append_assoc, parseFrom_cons keywords.1 isRead,
        ih keywords.2 plain.2 (Nat.le_of_succ_le_succ enough)]
      rfl

theorem length_le_cost (settings : List Setting) : settings.length ≤ cost settings := by
  induction settings with
  | nil => exact Nat.zero_le _
  | cons setting settings ih =>
      rw [cost, List.map_cons, List.sum_cons, ← cost, List.length_cons]
      omega

theorem parse_render {settings : List Setting}
    (keywords : ∀ setting ∈ settings, Keyword setting.1)
    (plain : ∀ setting ∈ settings, Plain setting.2) : parse (render settings) = some settings :=
  parseFrom_render keywords plain (by rw [length_render]; exact length_le_cost settings)

/-! ## Exactly the settings that were meant -/

/-- The text is read as these settings and no other. -/
def Carries (text : Bytes) (expected : List Setting) : Prop :=
  ∃ settings, parse text = some settings ∧
    ∀ keyword, valueOf keyword settings = valueOf keyword expected

theorem mem_of_valueOf {keyword value : Bytes} {settings : List Setting}
    (found : valueOf keyword settings = some value) : (keyword, value) ∈ settings := by
  rw [valueOf] at found
  obtain ⟨before, after, split, _⟩ := List.lookup_eq_some_iff.mp found
  rw [← List.mem_reverse, split]
  simp

theorem eq_of_mem {settings : List Setting} (distinct : (settings.map Prod.fst).Nodup)
    {keyword value other : Bytes} (member : (keyword, value) ∈ settings)
    (otherMember : (keyword, other) ∈ settings) : value = other :=
  (Prod.mk.inj (List.inj_on_of_nodup_map distinct member otherMember rfl)).2

theorem valueOf_of_mem {settings : List Setting} (distinct : (settings.map Prod.fst).Nodup)
    {setting : Setting} (member : setting ∈ settings) :
    valueOf setting.1 settings = some setting.2 := by
  cases found : valueOf setting.1 settings with
  | none =>
      have missing := List.lookup_eq_none_iff.mp found setting (List.mem_reverse.mpr member)
      simp at missing
  | some value => rw [eq_of_mem distinct (mem_of_valueOf found) member]

theorem cost_sublist {fewer settings : List Setting} (sublist : fewer.Sublist settings) :
    cost fewer ≤ cost settings ∧ (cost settings ≤ cost fewer → fewer = settings) := by
  induction sublist with
  | slnil => exact ⟨Nat.le_refl _, fun _ => rfl⟩
  | cons setting sublist ih =>
      simp only [cost, List.map_cons, List.sum_cons] at ih ⊢
      exact ⟨by omega, fun _ => by omega⟩
  | cons_cons setting sublist ih =>
      simp only [cost, List.map_cons, List.sum_cons] at ih ⊢
      refine ⟨by omega, fun same => ?_⟩
      rw [ih.2 (by omega)]

/-- Settings that are read from what was written for some others, if all of these are among
them, are these. -/
theorem perm_of_parse {expected settings : List Setting}
    (distinct : (expected.map Prod.fst).Nodup)
    (parsed : parse (render expected) = some settings)
    (subset : expected ⊆ settings) :
    settings.Perm expected ∧ ∀ setting ∈ settings, Verbatim (render expected) setting.2 := by
  obtain ⟨least, verbatim⟩ := cost_parseFrom (endsInBlank_render expected) parsed
  rw [length_render] at least verbatim
  obtain ⟨fewer, perm, sublist⟩ := List.subperm_of_subset distinct.of_map subset
  have sameCost : cost fewer = cost expected := (perm.map _).sum_nat
  obtain ⟨most, whole⟩ := cost_sublist sublist
  have isWhole := whole (by omega)
  subst isWhole
  exact ⟨perm, verbatim (by omega)⟩

/-- If every setting is read, then all values have been written. -/
theorem nonempty_of_parseFrom {expected settings : List Setting}
    (distinct : (expected.map Prod.fst).Nodup)
    (keywords : ∀ setting ∈ expected, Keyword setting.1)
    (verbatim : ∀ setting ∈ expected, setting.2 ≠ [] → Plain setting.2)
    (lastFilled : ∀ setting ∈ expected.getLast?, setting.2 ≠ []) {limit : Nat}
    (parsed : parseFrom limit (render expected) = some settings)
    (perm : settings.Perm expected) : ∀ setting ∈ expected, setting.2 ≠ [] := by
  induction expected generalizing settings limit with
  | nil => exact fun _ member => nomatch member
  | cons setting expected ih =>
      obtain ⟨keyword, value⟩ := setting
      obtain ⟨limit, rfl⟩ : ∃ less, limit = less + 1 := by
        apply Nat.exists_eq_succ_of_ne_zero
        rintro rfl
        rw [render_cons, List.append_assoc, parseFrom,
          if_neg (render_ne_blank (keywords _ List.mem_cons_self) _)] at parsed
        cases parsed
      have isKeyword := keywords _ List.mem_cons_self
      rw [render_cons] at parsed
      have continued : ∀ {after : Bytes} {read : Setting},
          readSetting (keyword ++ byte '=' :: value ++ byte ' ' :: render expected) =
              some (read, after) →
            ∃ others, parseFrom limit after = some others ∧ settings = read :: others := by
        intro after read isRead
        rw [List.append_assoc] at isRead parsed
        rw [parseFrom_cons isKeyword isRead] at parsed
        obtain ⟨others, areRead, rfl⟩ := Option.map_eq_some_iff.mp parsed
        exact ⟨others, areRead, rfl⟩
      rcases eq_or_ne value [] with rfl | nonempty
      · cases expected with
        | nil => exact absurd rfl (lastFilled _ rfl)
        | cons next more =>
            -- The value is read from the next setting, and is none of the expected ones.
            obtain ⟨value, after, filled, isRead⟩ := isKeyword.readSetting_of_empty
              (keywords next (by simp)) (byte '=' :: next.2 ++ byte ' ' :: render more)
            rw [← List.append_assoc, ← render_cons] at isRead
            obtain ⟨others, _, rfl⟩ := continued isRead
            have member := perm.subset List.mem_cons_self
            exact absurd (eq_of_mem distinct member List.mem_cons_self) filled
      · have plain := verbatim _ List.mem_cons_self nonempty
        obtain ⟨others, areRead, rfl⟩ := continued (isKeyword.readSetting_of_plain plain _)
        rw [List.forall_mem_cons]
        refine ⟨nonempty, ih ?_ ?_ ?_ ?_ areRead ((List.perm_cons _).mp perm)⟩
        · rw [List.map_cons, List.nodup_cons] at distinct
          exact distinct.2
        · exact fun setting member => keywords setting (List.mem_cons_of_mem _ member)
        · exact fun setting member => verbatim setting (List.mem_cons_of_mem _ member)
        · intro setting isLast
          apply lastFilled
          rw [List.getLast?_cons, isLast]
          rfl

/-- What is written for settings is read as these settings exactly when every value stands for
itself. -/
theorem carries_render_iff {expected : List Setting} (distinct : (expected.map Prod.fst).Nodup)
    (keywords : ∀ setting ∈ expected, Keyword setting.1)
    (lastFilled : ∀ setting ∈ expected.getLast?, setting.2 ≠ []) :
    Carries (render expected) expected ↔ ∀ setting ∈ expected, Plain setting.2 := by
  constructor
  · rintro ⟨settings, parsed, sameValues⟩
    have subset : expected ⊆ settings := by
      intro setting member
      apply mem_of_valueOf
      rw [sameValues, valueOf_of_mem distinct member]
    obtain ⟨perm, verbatim⟩ := perm_of_parse distinct parsed subset
    have noEscape : byte '\\' ∉ render expected := by
      intro member
      obtain ⟨setting, isSetting, inside⟩ := List.mem_flatMap.mp member
      have inKeyword := (keywords setting isSetting).noEscape
      have inValue := (verbatim setting (subset isSetting)).noEscape
      have separators : byte '\\' ≠ byte '=' ∧ byte '\\' ≠ byte ' ' := by decide
      simp [inKeyword, inValue, separators] at inside
    have plain : ∀ setting ∈ expected, setting.2 ≠ [] → Plain setting.2 := by
      intro setting member nonempty
      have exact := verbatim setting (subset member)
      exact ⟨nonempty, exact.notQuoted noEscape, exact.noBlank noEscape, exact.noEscape⟩
    have filled := nonempty_of_parseFrom distinct keywords plain lastFilled parsed perm
    exact fun setting member => plain setting member (filled setting member)
  · intro plain
    exact ⟨expected, parse_render keywords plain, fun _ => rfl⟩

end ConnInfo

end DistributedComputing
