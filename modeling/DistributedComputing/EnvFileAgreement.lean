import DistributedComputing.EnvFileLines

/-!
# When both readers agree on an env file

Master and worker take the parts of an entry as they stand, without the blanks at their ends.  The
scripts take away the word `export`, quotes, and all that Unicode counts as white space.  So they
agree when no key and no value that counts has any of these, and otherwise they do not: where a
key is read in another way, no line can make up for it.
-/

namespace DistributedComputing

namespace EnvFile

/-! ## Keys -/

/-- The key that stands before the `=`. -/
def keyText (front : List Char) : List Char :=
  trim isTextBlank front

/-- A key that both readers take as it stands. -/
structure PlainKey (front : List Char) : Prop where
  strip : strip (keyText front) = keyText front
  noExport : ¬exportWord <+: front
  noZero : '\x00' ∉ keyText front

/-- What is known of an entry of a file that is accepted. -/
structure IsEntry (parts : List Char × List Char) : Prop where
  head : ∀ char, parts.1.head? = some char → isTextBlank char = false ∧ char ≠ '#'
  nonempty : cText (keyText parts.1) ≠ []

theorem head_of_entry {line : List Char} {parts : List Char × List Char}
    (found : entry line = some parts) (char : Char) (isFirst : parts.1.head? = some char) :
    isTextBlank char = false ∧ char ≠ '#' := by
  obtain ⟨front, rest⟩ := parts
  unfold entry at found
  dsimp only at found
  split at found
  · cases found
  · rename_i kept
    rw [not_or] at kept
    obtain ⟨split, -⟩ := cut_eq_some_iff.mp found
    obtain ⟨others, rfl⟩ := List.head?_eq_some_iff.mp isFirst
    constructor
    · have trimmed := trim_trim isTextBlank line
      apply (trim_eq_self_iff.mp trimmed).1
      rw [split]
      rfl
    · rintro rfl
      apply kept.2
      rw [split]
      rfl

theorem IsEntry.keyText_ne {parts : List Char × List Char} (isEntry : IsEntry parts) :
    keyText parts.1 ≠ [] := by
  intro empty
  apply isEntry.nonempty
  rw [empty]
  rfl

/-- An entry begins with its key. -/
theorem IsEntry.exists_blanks {parts : List Char × List Char} (isEntry : IsEntry parts) :
    ∃ back, parts.1 = keyText parts.1 ++ back ∧ ∀ char ∈ back, isTextBlank char = true := by
  obtain ⟨front, back, split, frontBlank, backBlank⟩ := exists_trim isTextBlank parts.1
  cases front with
  | nil => exact ⟨back, split, backBlank⟩
  | cons first front =>
      have notBlank := (isEntry.head first (by rw [split]; rfl)).1
      rw [frontBlank first List.mem_cons_self] at notBlank
      cases notBlank

/-- The key of the scripts lies within the key, and they strip no more off it. -/
theorem scriptKey_isInfix {front key : List Char} (found : scriptKey front = some key) :
    key <:+: keyText front ∧ strip key = key := by
  unfold scriptKey at found
  dsimp only at found
  split at found
  · cases found
  · obtain rfl := Option.some.inj found
    obtain ⟨start, back, split, startBlank, backBlank⟩ := exists_trim isTextBlank front
    have whole : front <:+ start ++ keyText front ++ back := ⟨[], split⟩
    have suffix := ((dropExport_isSuffix (front.dropWhile isPySpace)).trans
      (List.dropWhile_suffix isPySpace)).trans whole
    have within := trim_isInfix_of_isSuffix
      (fun char member => isPySpace_of_isTextBlank (startBlank char member))
      (fun char member => isPySpace_of_isTextBlank (backBlank char member)) suffix
    exact ⟨within, trim_trim isPySpace _⟩

/-- The scripts take away spaces and the word only. -/
theorem mem_scriptKey {front key : List Char} (found : scriptKey front = some key) {char : Char}
    (member : char ∈ keyText front) (notSpace : isPySpace char = false)
    (notExport : char ∉ exportWord) : char ∈ key := by
  unfold scriptKey at found
  dsimp only at found
  split at found
  · cases found
  · obtain rfl := Option.some.inj found
    apply mem_trim_of_mem _ notSpace
    have inFront : char ∈ front := (isInfix_trim isTextBlank front).subset member
    rw [← List.takeWhile_append_dropWhile (p := isPySpace) (l := front), List.mem_append] at inFront
    rcases inFront with inSpaces | inLine
    · rw [List.mem_takeWhile_imp inSpaces] at notSpace
      cases notSpace
    · unfold dropExport
      split
      · rename_i begins
        obtain ⟨rest, split⟩ := begins
        rw [← split, List.mem_append] at inLine
        rw [← split, List.drop_left]
        exact inLine.resolve_left notExport
      · exact inLine

section Entry

variable {parts : List Char × List Char} (isEntry : IsEntry parts)

include isEntry

/-- Where Python strips nothing off a key, the scripts look at all that stands before the `=`. -/
theorem scriptKey_eq (stripped : strip (keyText parts.1) = keyText parts.1) :
    scriptKey parts.1 = some (strip (dropExport parts.1)) := by
  obtain ⟨back, split, -⟩ := isEntry.exists_blanks
  obtain ⟨first, others, chars⟩ := List.exists_cons_of_ne_nil isEntry.keyText_ne
  have isFirst : parts.1.head? = some first := by
    rw [split, chars]
    rfl
  have notSpace : isPySpace first = false := by
    apply (trim_eq_self_iff.mp stripped).1
    rw [chars]
    rfl
  have whole : parts.1.dropWhile isPySpace = parts.1 := by
    rw [split, chars, List.cons_append, List.dropWhile_cons_of_neg (by simp [notSpace])]
  have notComment : parts.1.head? ≠ some '#' := by
    rw [isFirst]
    exact fun same => (isEntry.head first isFirst).2 (Option.some.inj same)
  unfold scriptKey
  rw [whole]
  exact if_neg notComment

theorem scriptKey_of_plain (plain : PlainKey parts.1) :
    scriptKey parts.1 = some (keyText parts.1) := by
  rw [scriptKey_eq isEntry plain.strip, dropExport, if_neg plain.noExport, ← strip_trim]
  exact congrArg some plain.strip

/-- Behind the word stands less than the key, when the key begins with it, or nothing. -/
theorem strip_dropExport (begins : exportWord <+: parts.1) :
    exportWord <+: keyText parts.1 ∧
        (strip (dropExport parts.1)).length < (keyText parts.1).length ∨
      strip (dropExport parts.1) = [] := by
  obtain ⟨back, split, backBlank⟩ := isEntry.exists_blanks
  have backSpace : ∀ char ∈ back, isPySpace char = true :=
    fun char member => isPySpace_of_isTextBlank (backBlank char member)
  have ⟨rest, word⟩ := begins
  have dropped : dropExport parts.1 = rest := by
    rw [dropExport, if_pos begins, ← word, List.drop_left]
  rw [dropped]
  rcases List.append_eq_append_iff.mp (word.trans split) with
    ⟨more, isKey, isRest⟩ | ⟨more, isWord, isBack⟩
  · left
    have shorter := (isInfix_trim isPySpace more).length_le
    have behind : strip rest = strip more := by
      rw [isRest]
      exact trim_append_right backSpace more
    have seven : exportWord.length = 7 := by decide
    have length := congrArg List.length isKey
    rw [List.length_append] at length
    refine ⟨⟨more, isKey.symm⟩, ?_⟩
    rw [behind, strip]
    omega
  · right
    apply trim_eq_nil_iff.mpr
    intro char member
    apply backSpace
    rw [isBack]
    exact List.mem_append_right more member

/-- Only a key that both take as it stands is read as such by the scripts. -/
theorem plainKey_of_scriptKey (found : scriptKey parts.1 = some (keyText parts.1))
    (noZero : '\x00' ∉ keyText parts.1) : PlainKey parts.1 := by
  have stripped := (scriptKey_isInfix found).2
  refine ⟨stripped, fun begins => ?_, noZero⟩
  have same := Option.some.inj ((scriptKey_eq isEntry stripped).symm.trans found)
  rcases strip_dropExport isEntry begins with ⟨-, shorter⟩ | empty
  · rw [same] at shorter
    exact Nat.lt_irrefl _ shorter
  · exact isEntry.keyText_ne (same.symm.trans empty)

end Entry

/-- Two entries of one key: when the scripts take one as it stands, they take the other so, or
make nothing of it. -/
theorem scriptKey_of_same {parts others : List Char × List Char} (isEntry : IsEntry parts)
    (isOther : IsEntry others) (same : keyText parts.1 = keyText others.1)
    (plain : PlainKey others.1) :
    scriptKey parts.1 = some (keyText parts.1) ∨ scriptKey parts.1 = some [] := by
  have stripped : strip (keyText parts.1) = keyText parts.1 := by rw [same, plain.strip]
  by_cases begins : exportWord <+: parts.1
  · right
    rw [scriptKey_eq isEntry stripped]
    rcases strip_dropExport isEntry begins with ⟨inKey, -⟩ | empty
    · obtain ⟨back, split, -⟩ := isOther.exists_blanks
      rw [same] at inKey
      have inOther : exportWord <+: others.1 := by
        rw [split]
        exact inKey.trans (List.prefix_append _ back)
      exact absurd inOther plain.noExport
    · rw [empty]
  · left
    have noZero : '\x00' ∉ keyText parts.1 := same ▸ plain.noZero
    exact scriptKey_of_plain isEntry ⟨stripped, begins, noZero⟩

/-! ## The keys of a file -/

theorem zero_not_mem_cText (text : List Char) : '\x00' ∉ cText text := by
  intro member
  have nonzero := List.mem_takeWhile_imp member
  rw [decide_eq_true_eq] at nonzero
  exact nonzero rfl

theorem cText_eq_self {text : List Char} (noZero : '\x00' ∉ text) : cText text = text := by
  apply List.takeWhile_eq_self_iff.mpr
  intro char member
  apply decide_eq_true
  rintro rfl
  exact noZero member

/-- Both readers find the same keys in the entries. -/
structure SameKeys (entries : List (List Char × List Char)) : Prop where
  covered : ∀ parts ∈ entries, ∃ others ∈ entries,
    scriptKey others.1 = some (cText (keyText parts.1))
  kept : ∀ parts ∈ entries, ∀ key, scriptKey parts.1 = some key →
    ∃ others ∈ entries, cText (keyText others.1) = key

section Keys

variable {entries : List (List Char × List Char)}
  (each : ∀ parts ∈ entries, IsEntry parts) (sameKeys : SameKeys entries)

include each sameKeys

/-- A key with a zero is cut for master and worker only. -/
theorem SameKeys.noZero {parts : List Char × List Char} (member : parts ∈ entries) :
    '\x00' ∉ keyText parts.1 := by
  intro zero
  cases found : scriptKey parts.1 with
  | some key =>
      have inKey := mem_scriptKey found zero (by decide) (by decide)
      obtain ⟨others, -, rfl⟩ := sameKeys.kept parts member key found
      exact zero_not_mem_cText _ inKey
  | none =>
      have isEntry := each parts member
      obtain ⟨back, split, -⟩ := isEntry.exists_blanks
      obtain ⟨first, chars, key⟩ := List.exists_cons_of_ne_nil isEntry.keyText_ne
      have isFirst : parts.1.head? = some first := by
        rw [split, key]
        rfl
      -- The scripts see a comment only behind a space that master and worker keep.
      have isSpace : isPySpace first = true := by
        by_contra notSpace
        unfold scriptKey at found
        rw [split, key, List.cons_append, List.dropWhile_cons_of_neg notSpace] at found
        dsimp only at found
        rw [List.head?_cons, if_neg] at found
        · cases found
        · exact fun same => (isEntry.head first isFirst).2 (Option.some.inj same)
      have nonzero : first ≠ '\x00' := by
        rintro rfl
        exact absurd isSpace (by decide)
      obtain ⟨others, -, covered⟩ := sameKeys.covered parts member
      have stripped := (scriptKey_isInfix covered).2
      have notSpace : isPySpace first = false := by
        apply (trim_eq_self_iff.mp stripped).1
        rw [cText, key, List.takeWhile_cons_of_pos (by simpa using nonzero)]
        rfl
      rw [isSpace] at notSpace
      cases notSpace

/-- The scripts read every key as it stands: a key that they read otherwise would have to come
from a longer one that they read otherwise, too. -/
theorem SameKeys.plain {parts : List Char × List Char} (member : parts ∈ entries) :
    PlainKey parts.1 := by
  have covered : ∀ parts ∈ entries, ∃ others ∈ entries,
      scriptKey others.1 = some (keyText parts.1) := by
    intro parts member
    have covers := sameKeys.covered parts member
    rwa [cText_eq_self (sameKeys.noZero each member)] at covers
  have notEmpty : ∀ parts ∈ entries, scriptKey parts.1 ≠ some [] := by
    intro parts member found
    obtain ⟨others, otherMember, empty⟩ := sameKeys.kept parts member [] found
    exact (each others otherMember).nonempty empty
  have ofSame {parts others : List Char × List Char} (member : parts ∈ entries)
      (otherMember : others ∈ entries) (same : keyText parts.1 = keyText others.1)
      (found : scriptKey others.1 = some (keyText parts.1)) :
      scriptKey parts.1 = some (keyText parts.1) := by
    rw [same] at found
    have plain := plainKey_of_scriptKey (each others otherMember) found
      (sameKeys.noZero each otherMember)
    rcases scriptKey_of_same (each parts member) (each others otherMember) same plain with
      asItStands | empty
    · exact asItStands
    · exact absurd empty (notEmpty parts member)
  let lengths := entries.map fun parts => (keyText parts.1).length
  have nonempty : lengths ≠ [] := List.ne_nil_of_mem (List.mem_map_of_mem member)
  have bounded : ∀ parts ∈ entries, (keyText parts.1).length ≤ lengths.max nonempty := by
    intro others otherMember
    have listed : (keyText others.1).length ∈ lengths := List.mem_map_of_mem otherMember
    exact List.le_max_of_mem listed
  have descend : ∀ distance, ∀ parts ∈ entries,
      lengths.max nonempty ≤ (keyText parts.1).length + distance →
      scriptKey parts.1 = some (keyText parts.1) := by
    intro distance
    induction distance with
    | zero =>
        intro parts member long
        obtain ⟨others, otherMember, found⟩ := covered parts member
        have within := (scriptKey_isInfix found).1
        have same : keyText parts.1 = keyText others.1 :=
          within.eq_of_length (Nat.le_antisymm within.length_le
            ((bounded others otherMember).trans long))
        exact ofSame member otherMember same found
    | succ distance ih =>
        intro parts member long
        obtain ⟨others, otherMember, found⟩ := covered parts member
        have within := (scriptKey_isInfix found).1
        by_cases equal : (keyText parts.1).length = (keyText others.1).length
        · exact ofSame member otherMember (within.eq_of_length equal) found
        · have longer := within.length_le
          have asItStands := ih others otherMember (by omega)
          rw [found] at asItStands
          exact absurd (congrArg List.length (Option.some.inj asItStands)) equal
  have found := descend (lengths.max nonempty) parts member (Nat.le_add_left _ _)
  exact plainKey_of_scriptKey (each parts member) found (sameKeys.noZero each member)

end Keys

/-! ## Values -/

/-- The value that stands after the `=`. -/
def valueText (rest : List Char) : List Char :=
  trim isTextBlank rest

/-- A value that both readers take as it stands. -/
structure PlainValue (rest : List Char) : Prop where
  strip : strip (valueText rest) = valueText rest
  unquoted : stripQuotes (valueText rest) = valueText rest
  noZero : '\x00' ∉ valueText rest

theorem stripQuotes_isInfix (text : List Char) : stripQuotes text <:+: text :=
  (isInfix_trim _ _).trans (isInfix_trim _ _)

theorem mem_scriptValue {rest : List Char} {char : Char} (member : char ∈ valueText rest)
    (notSpace : isPySpace char = false) (notQuote : char ≠ '\'' ∧ char ≠ '"') :
    char ∈ scriptValue rest := by
  rw [scriptValue, ← strip_trim]
  apply mem_trim_of_mem
  · apply mem_trim_of_mem (mem_trim_of_mem member notSpace)
    simpa using notQuote.1
  · simpa using notQuote.2

/-- Both readers make the same of a value when they take it as it stands. -/
theorem cText_eq_scriptValue_iff (rest : List Char) :
    cText (valueText rest) = scriptValue rest ↔ PlainValue rest := by
  have behind : scriptValue rest = stripQuotes (strip (valueText rest)) := by
    rw [scriptValue, valueText, strip_trim]
  constructor
  · intro same
    have noZero : '\x00' ∉ valueText rest := by
      intro zero
      have inValue := mem_scriptValue zero (by decide) (by decide)
      rw [← same] at inValue
      exact zero_not_mem_cText _ inValue
    rw [cText_eq_self noZero, behind] at same
    have outer := (isInfix_trim isPySpace (valueText rest)).length_le
    have inner := (stripQuotes_isInfix (strip (valueText rest))).length_le
    have length := congrArg List.length same
    have stripped : strip (valueText rest) = valueText rest := by
      apply (isInfix_trim isPySpace (valueText rest)).eq_of_length
      exact Nat.le_antisymm outer (length.trans_le inner)
    rw [stripped] at same
    exact ⟨stripped, same.symm, noZero⟩
  · intro plain
    rw [cText_eq_self plain.noZero, behind, plain.strip, plain.unquoted]

/-! ## Files -/

/-- The entries of a text. -/
def entries (text : List Char) : List (List Char × List Char) :=
  (text.splitOn '\n').filterMap entry

/-- Every line of the text has the same entry for both readers, wherever it has carriage
returns. -/
def OneReadings (text : List Char) : Prop :=
  ∀ line ∈ text.splitOn '\n', OneReading line

/-- What the scripts store for entries. -/
def scriptBindings (entries : List (List Char × List Char)) : List (List Char × List Char) :=
  entries.filterMap fun parts => (scriptKey parts.1).map fun key => (key, scriptValue parts.2)

/-- The variables that master and worker set are those that the scripts return, with the same
values. -/
def ReadAlike (content : Bytes) : Prop :=
  ∃ data, parseEnvFile content = some data ∧
    ∀ key, lastValue key (loadEnvFileToEnv content).bindings =
      lastValue key (data.map fun binding => (encode binding.1, encode binding.2))

theorem loadEnvFileToEnv_encode (text : List Char) :
    loadEnvFileToEnv (encode text) = loadLines ((text.splitOn '\n').map encode) 1 := by
  have feed : SpellsSeparator String.utf8EncodeChar '\n' (byte '\n') := spellsSeparator (by decide)
  rw [loadEnvFileToEnv, encode, feed.splitOn]
  rfl

theorem sameKeys_of_alike {entries : List (List Char × List Char)}
    (alike : ∀ key, lastValue key (entries.map masterBinding) =
      lastValue key (scriptBindings entries)) : SameKeys entries where
  covered := by
    intro parts member
    have bound : ∃ value, lastValue (cText (keyText parts.1))
        (entries.map masterBinding) = some value :=
      exists_lastValue_iff.mpr ⟨_, List.mem_map_of_mem member, rfl⟩
    rw [alike, exists_lastValue_iff] at bound
    obtain ⟨binding, listed, same⟩ := bound
    obtain ⟨others, otherMember, found⟩ := List.mem_filterMap.mp listed
    obtain ⟨key, isKey, rfl⟩ := Option.map_eq_some_iff.mp found
    exact ⟨others, otherMember, isKey.trans (congrArg some same)⟩
  kept := by
    intro parts member key found
    have bound : ∃ value, lastValue key (scriptBindings entries) = some value := by
      apply exists_lastValue_iff.mpr
      refine ⟨(key, scriptValue parts.2), List.mem_filterMap.mpr ⟨parts, member, ?_⟩, rfl⟩
      rw [found]
      rfl
    rw [← alike, exists_lastValue_iff] at bound
    obtain ⟨binding, listed, rfl⟩ := bound
    obtain ⟨others, otherMember, rfl⟩ := List.mem_map.mp listed
    exact ⟨others, otherMember, rfl⟩

section Text

variable {text : List Char} (accepted : (loadEnvFileToEnv (encode text)).error = none)

include accepted

theorem isEntry_of_accepted {parts : List Char × List Char} (member : parts ∈ entries text) :
    IsEntry parts := by
  rw [loadEnvFileToEnv_encode] at accepted
  obtain ⟨line, -, found⟩ := List.mem_filterMap.mp member
  exact ⟨head_of_entry found, (loadLines_encode accepted).1 parts member⟩

/-- On a text, agreement is about characters. -/
theorem readAlike_encode_iff (readings : OneReadings text) : ReadAlike (encode text) ↔
    ∀ key, lastValue key ((entries text).map masterBinding) =
      lastValue key (scriptBindings (entries text)) := by
  have parsed : parseEnvFile (encode text) = some (scriptBindings (entries text)) := by
    rw [parseEnvFile, decode_eq_some_iff.mpr rfl, Option.map_some, filterMap_parseEnvLine,
      filterMap_entry_universalNewlines readings]
    rfl
  have loaded := accepted
  rw [loadEnvFileToEnv_encode] at loaded
  have bindings := (loadLines_encode loaded).2
  rw [← loadEnvFileToEnv_encode] at bindings
  have injective : ∀ first second, encode first = encode second → first = second :=
    fun _ _ => encode_injective
  unfold ReadAlike
  rw [parsed, bindings]
  constructor
  · rintro ⟨data, same, alike⟩ key
    obtain rfl := Option.some.inj same
    have bytes := alike (encode key)
    rw [lastValue_map injective, lastValue_map injective] at bytes
    exact Option.map_injective (fun _ _ => encode_injective) bytes
  · intro alike
    refine ⟨_, rfl, fun key => ?_⟩
    by_cases spelled : ∃ chars, encode chars = key
    · obtain ⟨chars, rfl⟩ := spelled
      rw [lastValue_map injective, lastValue_map injective]
      exact congrArg (Option.map encode) (alike chars)
    · have unbound (found : List (List Char × List Char)) :
          lastValue key (found.map fun binding => (encode binding.1, encode binding.2)) = none := by
        rw [lastValue_eq_none_iff]
        rintro _ member rfl
        obtain ⟨binding, -, rfl⟩ := List.mem_map.mp member
        exact spelled ⟨_, rfl⟩
      exact (unbound _).trans (unbound _).symm

/-- When all keys are taken as they stand, the last value of each key decides. -/
theorem alike_iff_of_plain (plain : ∀ parts ∈ entries text, PlainKey parts.1) :
    (∀ key, lastValue key ((entries text).map masterBinding) =
      lastValue key (scriptBindings (entries text))) ↔
    ∀ key parts, lastValue key ((entries text).map fun parts => (keyText parts.1, parts)) =
      some parts → PlainValue parts.2 := by
  have masters : (entries text).map masterBinding =
      (entries text).map fun parts => (keyText parts.1, cText (valueText parts.2)) := by
    apply List.map_congr_left
    intro parts member
    exact Prod.ext (cText_eq_self (plain parts member).noZero) rfl
  have scripts : scriptBindings (entries text) =
      (entries text).map fun parts => (keyText parts.1, scriptValue parts.2) := by
    rw [scriptBindings, ← List.filterMap_eq_map]
    apply List.filterMap_congr
    intro parts member
    rw [scriptKey_of_plain (isEntry_of_accepted accepted member) (plain parts member)]
    rfl
  rw [masters, scripts]
  apply forall_congr'
  intro key
  rw [lastValue_items (fun parts : List Char × List Char => keyText parts.1)
      fun parts => cText (valueText parts.2),
    lastValue_items (fun parts : List Char × List Char => keyText parts.1)
      fun parts => scriptValue parts.2]
  cases lastValue key ((entries text).map fun parts => (keyText parts.1, parts)) with
  | none => simp
  | some parts =>
      rw [Option.map_some, Option.map_some, Option.some_inj, cText_eq_scriptValue_iff]
      simp

end Text

/-- A text that both readers take as it stands: no key, and no value that a key has last, holds
what only one of them takes away. -/
structure PlainText (text : List Char) : Prop where
  readings : OneReadings text
  keys : ∀ parts ∈ entries text, PlainKey parts.1
  values : ∀ key parts, lastValue key ((entries text).map fun parts => (keyText parts.1, parts)) =
    some parts → PlainValue parts.2

/-- The file is the encoding of a plain text. -/
def PlainFile (content : Bytes) : Prop :=
  ∃ text, content = encode text ∧ PlainText text

/-- Python finds no other entries in the lines of the file, if it can decode them. -/
def OrdinaryFile (content : Bytes) : Prop :=
  ∀ text, content = encode text → OneReadings text

/-- Master, worker and scripts read a plain file alike, and of the files with ordinary lines no
other. -/
theorem envFile_read_alike_iff {content : Bytes}
    (accepted : (loadEnvFileToEnv content).error = none) :
    (PlainFile content → ReadAlike content) ∧
      (OrdinaryFile content → (ReadAlike content ↔ PlainFile content)) := by
  have alike : PlainFile content → ReadAlike content := by
    rintro ⟨text, rfl, plain⟩
    rw [readAlike_encode_iff accepted plain.readings, alike_iff_of_plain accepted plain.keys]
    exact plain.values
  refine ⟨alike, fun ordinary => ⟨?_, alike⟩⟩
  intro readAlike
  obtain ⟨text, rfl⟩ : ∃ text, content = encode text := by
    obtain ⟨data, parsed, -⟩ := readAlike
    obtain ⟨text, decoded, -⟩ := Option.map_eq_some_iff.mp parsed
    exact ⟨text, decode_eq_some_iff.mp decoded⟩
  have readings := ordinary text rfl
  rw [readAlike_encode_iff accepted readings] at readAlike
  have sameKeys := sameKeys_of_alike readAlike
  have keys : ∀ parts ∈ entries text, PlainKey parts.1 := fun parts member =>
    sameKeys.plain (fun _ => isEntry_of_accepted accepted) member
  rw [alike_iff_of_plain accepted keys] at readAlike
  exact ⟨text, rfl, readings, keys, readAlike⟩

/-- A file as the master accepts it, with a comment, a repeated key and carriage returns in the
comment and among the blanks at the ends of lines. -/
def plainSample : List Char :=
  "# database\rof the broker\n\rDB_USER = app\r\r\nDB_PASSWORD=old\nDB_PASSWORD=s3cret \r".toList

theorem plainText_plainSample : PlainText plainSample := by
  have readings : ∀ line ∈ plainSample.splitOn '\n',
      (line.splitOn '\r').filterMap entry = (entry line).toList := by decide
  have keys : ∀ parts ∈ entries plainSample, strip (keyText parts.1) = keyText parts.1 ∧
      ¬exportWord <+: parts.1 ∧ '\x00' ∉ keyText parts.1 := by decide
  have values : ∀ parts ∈ entries plainSample, strip (valueText parts.2) = valueText parts.2 ∧
      stripQuotes (valueText parts.2) = valueText parts.2 ∧ '\x00' ∉ valueText parts.2 := by
    decide
  constructor
  · exact fun line member => (filterMap_parts_iff line).mp (readings line member)
  · intro parts member
    obtain ⟨stripped, noExport, noZero⟩ := keys parts member
    exact ⟨stripped, noExport, noZero⟩
  · intro key parts isLast
    obtain ⟨before, after, split, -⟩ := lastValue_eq_some_iff.mp isLast
    have listed : (key, parts) ∈
        (entries plainSample).map fun parts => (keyText parts.1, parts) := by
      rw [split]
      simp
    obtain ⟨others, member, same⟩ := List.mem_map.mp listed
    obtain ⟨-, rfl⟩ := Prod.mk.inj same
    obtain ⟨stripped, unquoted, noZero⟩ := values others member
    exact ⟨stripped, unquoted, noZero⟩

theorem envFile_read_alike_plainSample : ReadAlike (encode plainSample) :=
  (envFile_read_alike_iff (by decide)).1 ⟨plainSample, rfl, plainText_plainSample⟩

/-- A file of which master and scripts make different users and passwords. -/
def quotedSample : List Char :=
  "export DB_USER=app\nDB_PASSWORD='s3cret'\n".toList

theorem envFile_read_differently :
    ¬∀ content, (loadEnvFileToEnv content).error = none → ReadAlike content := by
  intro claim
  have accepted : (loadEnvFileToEnv (encode quotedSample)).error = none := by decide
  have readings : ∀ line ∈ quotedSample.splitOn '\n',
      (line.splitOn '\r').filterMap entry = (entry line).toList := by decide
  have each : OneReadings quotedSample := fun line member =>
    (filterMap_parts_iff line).mp (readings line member)
  have alike := (readAlike_encode_iff accepted each).mp (claim _ accepted) "DB_PASSWORD".toList
  exact absurd alike (by decide)

end EnvFile

end DistributedComputing
