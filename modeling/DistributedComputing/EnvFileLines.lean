import DistributedComputing.EnvFiles
import DistributedComputing.LastBindings

/-!
# Env files line by line

On a file in UTF-8 both readers see the same entries: what stands before and after the first `=`
of a line that is no comment.  What each of them makes of an entry is given by the two parts.
-/

namespace DistributedComputing

namespace EnvFile

/-! ## Bytes and characters -/

theorem utf8EncodeChar_of_ascii {char : Char} (isAscii : char.toNat < 128) :
    String.utf8EncodeChar char = [byte char] := by
  unfold String.utf8EncodeChar
  rw [if_pos (by exact Nat.le_of_lt_succ isAscii)]
  rfl

theorem le_of_mem_utf8EncodeChar {char : Char} (high : 128 ≤ char.toNat) {code : UInt8}
    (member : code ∈ String.utf8EncodeChar char) : 128 ≤ code.toNat := by
  have valid := char.valid
  change 128 ≤ char.val.toNat at high
  simp only [UInt32.isValidChar, Nat.isValidChar] at valid
  unfold String.utf8EncodeChar at member
  generalize char.val.toNat = value at valid high member
  dsimp only at member
  split at member
  · omega
  · split at member
    · simp only [List.mem_cons, List.not_mem_nil, or_false] at member
      rcases member with rfl | rfl <;> rw [UInt8.toNat_ofNat'] <;> omega
    · split at member
      · simp only [List.mem_cons, List.not_mem_nil, or_false] at member
        rcases member with rfl | rfl | rfl <;> rw [UInt8.toNat_ofNat'] <;> omega
      · simp only [List.mem_cons, List.not_mem_nil, or_false] at member
        rcases member with rfl | rfl | rfl | rfl <;> rw [UInt8.toNat_ofNat'] <;> omega

theorem byte_inj {first second : Char} (isAscii : first.toNat < 128)
    (otherAscii : second.toNat < 128) (same : byte first = byte second) : first = second := by
  have values := congrArg UInt8.toNat same
  rw [byte, byte, UInt8.toNat_ofNat', UInt8.toNat_ofNat'] at values
  apply Char.toNat_inj.mp
  omega

theorem spellsSeparator {separator : Char} (isAscii : separator.toNat < 128) :
    SpellsSeparator String.utf8EncodeChar separator (byte separator) where
  single := utf8EncodeChar_of_ascii isAscii
  spells := {
    nonempty := fun _ => String.utf8EncodeChar_ne_nil
    same := by
      intro letter code member
      by_cases low : letter.toNat < 128
      · rw [utf8EncodeChar_of_ascii low, List.mem_singleton] at member
        subst member
        apply decide_eq_decide.mpr
        exact not_congr ⟨byte_inj low isAscii, congrArg byte⟩
      · have high := le_of_mem_utf8EncodeChar (not_lt.mp low) member
        have otherCode : code ≠ byte separator := by
          rintro rfl
          rw [byte, UInt8.toNat_ofNat'] at high
          omega
        have otherLetter : letter ≠ separator := by
          rintro rfl
          exact low isAscii
        rw [decide_eq_true otherCode, decide_eq_true otherLetter] }

/-- The blanks of `TrimWhitespace` among the characters. -/
def isTextBlank (char : Char) : Bool :=
  char ∈ [' ', '\t', '\r', '\n']

theorem spellsBlank : Spells String.utf8EncodeChar isTextBlank isEnvBlank where
  nonempty _ := String.utf8EncodeChar_ne_nil
  same := by
    intro letter code member
    by_cases low : letter.toNat < 128
    · rw [utf8EncodeChar_of_ascii low, List.mem_singleton] at member
      have agree : ∀ value < 128,
          isEnvBlank (UInt8.ofNat value) = isTextBlank (Char.ofNat value) := by
        decide
      rw [member, byte, agree letter.toNat low, Char.ofNat_toNat]
    · have high := le_of_mem_utf8EncodeChar (not_lt.mp low) member
      have otherCode : isEnvBlank code = false := by
        have small : ∀ blank ∈ ascii " \t\r\n", blank.toNat < 128 := by simp [ascii, byte]
        apply decide_eq_false
        intro listed
        have below := small code listed
        omega
      have otherLetter : isTextBlank letter = false := by
        have small : ∀ blank ∈ [' ', '\t', '\r', '\n'], blank.toNat < 128 := by simp
        apply decide_eq_false
        intro listed
        exact low (small letter listed)
      rw [otherCode, otherLetter]

theorem encode_eq_nil_iff {text : List Char} : encode text = [] ↔ text = [] := by
  cases text with
  | nil => exact iff_of_true rfl rfl
  | cons char text => simp [encode]

theorem encode_injective {first second : List Char} (same : encode first = encode second) :
    first = second := by
  have bytes : first.utf8Encode = second.utf8Encode := by
    rw [List.utf8Encode, List.utf8Encode]
    exact congrArg List.toByteArray same
  have strings : String.ofList first = String.ofList second := by
    rw [← String.toByteArray_inj, String.toByteArray_ofList, String.toByteArray_ofList, bytes]
  exact String.ofList_injective strings

theorem decode_eq_some_iff {content : Bytes} {text : List Char} :
    decode content = some text ↔ content = encode text := by
  have spelled : (String.ofList text).toByteArray = (encode text).toByteArray := by
    rw [String.toByteArray_ofList, List.utf8Encode, encode]
  unfold decode String.fromUTF8?
  constructor
  · intro decoded
    split at decoded
    · rename_i valid
      have chars : (String.fromUTF8 content.toByteArray valid).toList = text :=
        Option.some.inj decoded
      have bytes : (encode text).toByteArray = content.toByteArray := by
        rw [← spelled, ← chars, String.ofList_toList]
        rfl
      have lists := congrArg (fun bytes => bytes.data.toList) bytes
      rw [List.toList_data_toByteArray, List.toList_data_toByteArray] at lists
      exact lists.symm
    · cases decoded
  · rintro rfl
    rw [← spelled, dif_pos (String.ofList text).isValidUTF8]
    exact congrArg some String.toList_ofList

theorem cString_encode (text : List Char) :
    cString (encode text) = encode (text.takeWhile fun char => decide (char ≠ '\x00')) := by
  have zero : SpellsSeparator String.utf8EncodeChar '\x00' 0 := spellsSeparator (by decide)
  exact zero.spells.takeWhile text

/-! ## Entries -/

/-- What stands before and after the first `=` of a line that is no comment. -/
def entry (line : List Char) : Option (List Char × List Char) :=
  let core := trim isTextBlank line
  if core = [] ∨ core.head? = some '#' then none else cut '=' core

/-- A text up to the first zero. -/
def cText (text : List Char) : List Char :=
  text.takeWhile fun char => decide (char ≠ '\x00')

/-- The name and the value that master and worker make of the parts of an entry. -/
def masterBinding (parts : List Char × List Char) : List Char × List Char :=
  (cText (trim isTextBlank parts.1), cText (trim isTextBlank parts.2))

/-- A line with an entry is the entry, without the blanks at its ends. -/
theorem core_of_entry {line : List Char} {parts : List Char × List Char}
    (found : entry line = some parts) : trim isTextBlank line = parts.1 ++ '=' :: parts.2 := by
  unfold entry at found
  dsimp only at found
  split at found
  · cases found
  · exact (cut_eq_some_iff.mp found).1

theorem head?_encode_iff {separator : Char} (isAscii : separator.toNat < 128) (text : List Char) :
    (encode text).head? = some (byte separator) ↔ text.head? = some separator := by
  cases text with
  | nil => simp [encode]
  | cons char text =>
      have spells := spellsSeparator isAscii
      obtain ⟨first, codes, spelled⟩ := List.exists_cons_of_ne_nil (spells.spells.nonempty char)
      have same := spells.spells.same char first (by simp [spelled])
      rw [decide_eq_decide] at same
      rw [encode, List.flatMap_cons, spelled, List.cons_append, List.head?_cons, List.head?_cons,
        Option.some_inj, Option.some_inj]
      exact not_iff_not.mp same

theorem trimWhitespace_encode (text : List Char) :
    trimWhitespace (encode text) = encode (trim isTextBlank text) :=
  spellsBlank.trim text

/-- The bytes of a line are read by its entry. -/
theorem readEnvLine_encode (line : List Char) :
    (entry line = none → readEnvLine (encode line) = .skipped ∨
      readEnvLine (encode line) = .missingEquals) ∧
    ∀ parts, entry line = some parts → readEnvLine (encode line) =
      if trim isTextBlank parts.1 = [] then .emptyKey
      else .binding (encode (trim isTextBlank parts.1)) (encode (trim isTextBlank parts.2)) := by
  have comment : '#'.toNat < 128 := by decide
  have parted (text : List Char) : cut (byte '=') (encode text) =
      (cut '=' text).map fun parts => (encode parts.1, encode parts.2) := by
    have equals : SpellsSeparator String.utf8EncodeChar '=' (byte '=') :=
      spellsSeparator (by decide)
    exact equals.cut text
  unfold readEnvLine entry
  simp only [trimWhitespace_encode, encode_eq_nil_iff, head?_encode_iff comment, parted]
  split
  · simp
  · cases cut '=' (trim isTextBlank line) with
    | none => simp
    | some parts =>
        simp only [Option.map_some, Option.elim_some, trimWhitespace_encode, encode_eq_nil_iff]
        simp

/-- The bindings of a file that is accepted are those of its entries, none with an empty key. -/
theorem loadLines_encode {lines : List (List Char)} {lineNo : Nat}
    (accepted : (loadLines (lines.map encode) lineNo).error = none) :
    (∀ parts ∈ lines.filterMap entry, (masterBinding parts).1 ≠ []) ∧
      (loadLines (lines.map encode) lineNo).bindings =
        ((lines.filterMap entry).map masterBinding).map fun binding =>
          (encode binding.1, encode binding.2) := by
  induction lines generalizing lineNo with
  | nil => simp [loadLines]
  | cons line lines ih =>
      rw [List.map_cons] at accepted ⊢
      obtain ⟨ofNone, ofSome⟩ := readEnvLine_encode line
      cases found : entry line with
      | none =>
          rw [List.filterMap_cons_none found]
          rcases ofNone found with read | read
          · simp only [loadLines, read] at accepted ⊢
            exact ih accepted
          · simp only [loadLines, read, Loaded.fail] at accepted
            cases accepted
      | some parts =>
          rw [List.filterMap_cons_some found, List.map_cons, List.map_cons, List.forall_mem_cons]
          have read := ofSome parts found
          by_cases empty : trim isTextBlank parts.1 = []
          · rw [if_pos empty] at read
            simp only [loadLines, read, Loaded.fail] at accepted
            cases accepted
          · rw [if_neg empty] at read
            simp only [loadLines, read, setEnvVar, cString_encode] at accepted ⊢
            split at accepted
            · cases accepted
            · rename_i settable
              obtain ⟨named, bindings⟩ := ih accepted
              rw [if_neg settable, ← bindings]
              refine ⟨⟨?_, named⟩, rfl⟩
              exact fun none => settable (.inl (encode_eq_nil_iff.mpr none))

/-! ## What the scripts make of an entry -/

/-- The key that the scripts make of what stands before the `=`, unless they see a comment. -/
def scriptKey (front : List Char) : Option (List Char) :=
  let line := front.dropWhile isPySpace
  if line.head? = some '#' then none else some (strip (dropExport line))

/-- The value that the scripts make of what stands after the `=`. -/
def scriptValue (rest : List Char) : List Char :=
  stripQuotes (strip rest)

theorem isPySpace_of_isTextBlank {char : Char} (isBlank : isTextBlank char = true) :
    isPySpace char = true := by
  have each : ∀ char ∈ [' ', '\t', '\r', '\n'], isPySpace char = true := by simp [isPySpace]
  exact each char (of_decide_eq_true isBlank)

theorem strip_trim (text : List Char) : strip (trim isTextBlank text) = strip text :=
  trim_trim_of_imp (fun _ => isPySpace_of_isTextBlank) text

theorem strip_rdropWhile (text : List Char) : strip (text.rdropWhile isPySpace) = strip text := by
  have split := List.rdropWhile_append_rtakeWhile (p := isPySpace) (l := text)
  have blanks : ∀ char ∈ text.rtakeWhile isPySpace, isPySpace char = true :=
    fun _ member => List.mem_rtakeWhile_imp member
  have longer := trim_append_right blanks (text.rdropWhile isPySpace)
  rw [split] at longer
  exact longer.symm

theorem dropExport_append_cons (front rest : List Char) :
    dropExport (front ++ '=' :: rest) = dropExport front ++ '=' :: rest := by
  have absent : '=' ∉ exportWord := by decide
  unfold dropExport
  by_cases begins : exportWord <+: front
  · rw [if_pos begins, if_pos ((isPrefix_append_cons_iff absent).mpr begins),
      List.drop_append_of_le_length begins.length_le]
  · rw [if_neg begins, if_neg (mt (isPrefix_append_cons_iff absent).mp begins)]

theorem dropExport_isSuffix (line : List Char) : dropExport line <:+ line := by
  unfold dropExport
  split
  · exact List.drop_suffix _ _
  · exact List.suffix_rfl

/-- The scripts read a line by its entry, too. -/
theorem parseEnvLine_eq (line : List Char) :
    parseEnvLine line = (entry line).bind fun parts =>
      (scriptKey parts.1).map fun key => (key, scriptValue parts.2) := by
  have notSpace : isPySpace '=' = false := by decide
  unfold parseEnvLine entry
  rw [← strip_trim line]
  generalize trim isTextBlank line = core
  dsimp only
  by_cases skipped : core = [] ∨ core.head? = some '#'
  · rw [if_pos skipped, Option.bind_none, if_pos]
    rcases skipped with rfl | comment
    · exact .inl rfl
    · obtain ⟨rest, rfl⟩ := List.head?_eq_some_iff.mp comment
      have mark : isPySpace '#' = false := by decide
      right
      rw [strip, ← List.nil_append ('#' :: rest), trim_append_cons mark]
      rfl
  · rw [if_neg skipped]
    cases parts : cut '=' core with
    | none =>
        rw [Option.bind_none]
        split
        · rfl
        · rw [cut_eq_none_iff.mpr, Option.map_none]
          intro member
          have inner := (dropExport_isSuffix (strip core)).subset member
          exact cut_eq_none_iff.mp parts ((isInfix_trim isPySpace core).subset inner)
    | some pair =>
        obtain ⟨front, rest⟩ := pair
        obtain ⟨rfl, absent⟩ := cut_eq_some_iff.mp parts
        have inner : '=' ∉ dropExport (front.dropWhile isPySpace) := fun member =>
          absent ((List.dropWhile_suffix _).subset ((dropExport_isSuffix _).subset member))
        rw [strip, trim_append_cons notSpace, dropExport_append_cons, cut_append_cons inner,
          Option.map_some, strip_rdropWhile, Option.bind_some, scriptKey]
        cases begins : front.dropWhile isPySpace with
        | nil => rfl
        | cons first others =>
            by_cases mark : first = '#' <;> simp [mark, scriptValue]

theorem filterMap_parseEnvLine (lines : List (List Char)) :
    lines.filterMap parseEnvLine = (lines.filterMap entry).filterMap fun parts =>
      (scriptKey parts.1).map fun key => (key, scriptValue parts.2) := by
  rw [List.filterMap_filterMap]
  exact congrArg (List.filterMap · lines) (funext parseEnvLine_eq)

/-! ## Line ends -/

/-- The parts of a line between carriage returns, which Python takes for lines, have the entry
of the line and no other: a carriage return stands among the blanks at an end of the line, or
no part has an entry. -/
def OneReading (line : List Char) : Prop :=
  ((entry line).isSome = true → '\r' ∉ trim isTextBlank line) ∧
    (entry line = none → ∀ part ∈ line.splitOn '\r', entry part = none)

theorem entry_of_trim {line other : List Char}
    (same : trim isTextBlank line = trim isTextBlank other) : entry line = entry other := by
  rw [entry, entry, same]

theorem entry_of_blanks {line : List Char} (blanks : ∀ char ∈ line, isTextBlank char = true) :
    entry line = none := by
  rw [entry, trim_eq_nil_iff.mpr blanks]
  exact if_pos (.inl rfl)

/-- Blanks before a line add no entry to its parts. -/
theorem filterMap_parts_append_left {front : List Char}
    (blanks : ∀ char ∈ front, isTextBlank char = true) (line : List Char) :
    ((front ++ line).splitOn '\r').filterMap entry = (line.splitOn '\r').filterMap entry := by
  induction front with
  | nil => rfl
  | cons char front ih =>
      rw [List.forall_mem_cons] at blanks
      rw [← ih blanks.2, List.cons_append, List.splitOn_cons_eq_if_modifyHead]
      split
      · exact List.filterMap_cons_none (entry_of_blanks (by simp))
      · obtain ⟨first, parts, split⟩ :=
          List.exists_cons_of_ne_nil (List.splitOn_ne_nil '\r' (front ++ line))
        have single : ∀ other ∈ [char], isTextBlank other = true := by simpa using blanks.1
        have same : entry (char :: first) = entry first :=
          entry_of_trim (trim_append_left single first)
        rw [split, List.modifyHead_cons, List.filterMap_cons, List.filterMap_cons, same]

/-- The parts of a line with blanks behind what has no carriage return. -/
theorem filterMap_parts_append_right {core back : List Char} (absent : '\r' ∉ core)
    (blanks : ∀ char ∈ back, isTextBlank char = true) :
    ((core ++ back).splitOn '\r').filterMap entry = (entry core).toList := by
  have only : ∀ front, '\r' ∉ front → (∀ char ∈ front, isTextBlank char = true) →
      '\r' ∉ core ++ front ∧ entry (core ++ front) = entry core := fun front free frontBlank =>
    ⟨by simp [absent, free], entry_of_trim (trim_append_right frontBlank core)⟩
  by_cases member : '\r' ∈ back
  · obtain ⟨front, rest, rfl, free⟩ := List.eq_append_cons_of_mem member
    rw [List.forall_mem_append, List.forall_mem_cons] at blanks
    obtain ⟨none, same⟩ := only front free blanks.1
    have behind : (rest.splitOn '\r').filterMap entry = [] := by
      have more := filterMap_parts_append_left blanks.2.2 []
      rwa [List.append_nil, List.splitOn_nil] at more
    rw [← List.append_assoc, List.splitOn_append_cons_self_of_not_mem none, List.filterMap_cons,
      same, behind]
    cases entry core <;> rfl
  · obtain ⟨none, same⟩ := only back member blanks
    rw [List.splitOn_eq_singleton none, List.filterMap_cons, same]
    cases entry core <;> rfl

/-- A line is read alike in one part and in several. -/
theorem filterMap_parts_iff (line : List Char) :
    (line.splitOn '\r').filterMap entry = (entry line).toList ↔ OneReading line := by
  unfold OneReading
  cases found : entry line with
  | none => simp [List.filterMap_eq_nil_iff]
  | some parts =>
      simp only [Option.isSome_some, forall_const, reduceCtorEq, false_implies, and_true]
      constructor
      · intro same inCore
        have listed : parts ∈ (line.splitOn '\r').filterMap entry := by simp [same]
        obtain ⟨part, member, isPart⟩ := List.mem_filterMap.mp listed
        have core := (core_of_entry found).trans (core_of_entry isPart).symm
        rw [core] at inCore
        exact not_mem_of_mem_splitOn member ((isInfix_trim isTextBlank part).subset inCore)
      · intro absent
        obtain ⟨front, back, split, frontBlank, backBlank⟩ := exists_trim isTextBlank line
        have same : entry (trim isTextBlank line) = entry line :=
          entry_of_trim (trim_trim isTextBlank line)
        rw [split, List.append_assoc, filterMap_parts_append_left frontBlank,
          filterMap_parts_append_right absent backBlank, same, found]

/-- The lines of the scripts are the parts of the lines of master and worker, but for empty ones. -/
theorem splitOn_universalNewlines (text : List Char) :
    ∃ first mine theirs,
      ((text.splitOn '\n').flatMap fun line => line.splitOn '\r') = first :: mine ∧
      (universalNewlines text).splitOn '\n' = first :: theirs ∧
      theirs.filterMap entry = mine.filterMap entry := by
  have empty : entry [] = none := rfl
  have feed (text : List Char) : ('\n' :: text).splitOn '\n' = [] :: text.splitOn '\n' :=
    List.splitOn_append_cons_self_of_not_mem List.not_mem_nil text
  have whole {first : List Char} {mine theirs : List (List Char)}
      (same : theirs.filterMap entry = mine.filterMap entry) :
      (first :: theirs).filterMap entry = (first :: mine).filterMap entry := by
    rw [List.filterMap_cons, List.filterMap_cons, same]
  induction text using universalNewlines.induct with
  | case1 => exact ⟨[], [], [], rfl, rfl, rfl⟩
  | case2 text ih =>
      obtain ⟨first, mine, theirs, parts, lines, same⟩ := ih
      have absent : '\n' ∉ ['\r'] := by decide
      have ended : ('\r' :: '\n' :: text).splitOn '\n' = ['\r'] :: text.splitOn '\n' :=
        List.splitOn_append_cons_self_of_not_mem absent text
      refine ⟨[], [] :: first :: mine, first :: theirs, ?_, ?_, ?_⟩
      · rw [ended, List.flatMap_cons, parts]
        rfl
      · rw [universalNewlines, feed, lines]
      · rw [whole same, List.filterMap_cons_none empty]
  | case3 text unpaired ih =>
      obtain ⟨first, mine, theirs, parts, lines, same⟩ := ih
      obtain ⟨line, others, split⟩ :=
        List.exists_cons_of_ne_nil (List.splitOn_ne_nil '\n' text)
      rw [split, List.flatMap_cons] at parts
      refine ⟨[], first :: mine, first :: theirs, ?_, ?_, whole same⟩
      · rw [List.splitOn_cons_eq_if_modifyHead, if_neg (by decide), split, List.modifyHead_cons,
          List.flatMap_cons, ← parts, List.splitOn_cons_eq_if_modifyHead, if_pos (by decide)]
        rfl
      · rw [universalNewlines, feed, lines]
        exact unpaired
  | case4 char text notPair notReturn ih =>
      obtain ⟨first, mine, theirs, parts, lines, same⟩ := ih
      have kept : universalNewlines (char :: text) = char :: universalNewlines text := by
        rw [universalNewlines]
        · exact notPair
        · exact notReturn
      by_cases isFeed : char = '\n'
      · subst isFeed
        refine ⟨[], first :: mine, first :: theirs, ?_, ?_, whole same⟩
        · rw [feed, List.flatMap_cons, parts]
          rfl
        · rw [kept, feed, lines]
      · obtain ⟨line, others, split⟩ :=
          List.exists_cons_of_ne_nil (List.splitOn_ne_nil '\n' text)
        obtain ⟨part, more, partSplit⟩ :=
          List.exists_cons_of_ne_nil (List.splitOn_ne_nil '\r' line)
        rw [split, List.flatMap_cons, partSplit, List.cons_append, List.cons.injEq] at parts
        obtain ⟨rfl, rest⟩ := parts
        refine ⟨char :: part, mine, theirs, ?_, ?_, same⟩
        · rw [List.splitOn_cons_eq_if_modifyHead, if_neg (by simpa using isFeed), split,
            List.modifyHead_cons, List.flatMap_cons, List.splitOn_cons_eq_if_modifyHead,
            if_neg (by simpa using notReturn), partSplit, List.modifyHead_cons, List.cons_append,
            rest]
        · rw [kept, List.splitOn_cons_eq_if_modifyHead, if_neg (by simpa using isFeed), lines,
            List.modifyHead_cons]

/-- The entries of a file, in either reading of its line ends. -/
theorem filterMap_entry_universalNewlines {text : List Char}
    (readings : ∀ line ∈ text.splitOn '\n', OneReading line) :
    ((universalNewlines text).splitOn '\n').filterMap entry =
      (text.splitOn '\n').filterMap entry := by
  obtain ⟨first, mine, theirs, parts, lines, same⟩ := splitOn_universalNewlines text
  rw [lines, List.filterMap_cons, same, ← List.filterMap_cons, ← parts, List.filterMap_flatMap,
    List.filterMap_eq_flatMap_toList]
  apply List.flatMap_congr
  intro line member
  exact (filterMap_parts_iff line).mpr (readings line member)

end EnvFile

end DistributedComputing
