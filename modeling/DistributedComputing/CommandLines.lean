import DistributedComputing.ByteTexts
import Mathlib.Data.List.Chain
import Mathlib.Tactic.SplitIfs

/-!
# Command lines of Windows

How `CommandLineToArgvW` splits a command line: blanks separate the arguments outside of quotes,
and backslashes are special before a quote only, where two of them stand for one and an odd one
makes the quote a literal.
-/

namespace DistributedComputing

namespace CommandLine

def backslash : UInt8 :=
  byte '\\'

def quoteMark : UInt8 :=
  byte '"'

def isSeparator (value : UInt8) : Bool :=
  decide (value = byte ' ') || decide (value = byte '\t')

/-- What has been read of an argument when the backslashes stand for themselves. -/
def pending (current : Option Bytes) (slashes : Nat) : Bytes :=
  current.getD [] ++ List.replicate slashes backslash

/-- The argument that ends here, if one has begun. -/
def ended (current : Option Bytes) (slashes : Nat) : List Bytes :=
  (current.map fun _ => pending current slashes).toList

/-- The arguments that are left to read: whether this is between quotes, the number of backslashes
directly before, and what has been read of the current argument before them. -/
def splitArgs (inQuotes : Bool) (slashes : Nat) (current : Option Bytes) : Bytes → List Bytes
  | [] => ended current slashes
  | first :: rest =>
      if first = backslash then splitArgs inQuotes (slashes + 1) (some (current.getD [])) rest
      else if first = quoteMark then
        if slashes % 2 = 1 then
          splitArgs inQuotes 0 (some (pending current (slashes / 2) ++ [quoteMark])) rest
        else splitArgs (!inQuotes) 0 (some (pending current (slashes / 2))) rest
      else if isSeparator first = true ∧ inQuotes = false then
        ended current slashes ++ splitArgs false 0 none rest
      else splitArgs inQuotes 0 (some (pending current slashes ++ [first])) rest

/-- The first argument begins with the line, even if that begins with a blank.  An empty line has
no arguments; the function answers with the path of the running program then. -/
def commandLineToArgv (line : Bytes) : List Bytes :=
  if line = [] then [] else splitArgs false 0 (some []) line

/-! ## One step -/

theorem isSeparator_ne {value : UInt8} (separator : isSeparator value = true) :
    value ≠ backslash ∧ value ≠ quoteMark := by
  rw [isSeparator, Bool.or_eq_true, decide_eq_true_eq, decide_eq_true_eq] at separator
  rcases separator with rfl | rfl <;> decide

section Step

variable (inQuotes : Bool) (slashes : Nat) (current : Option Bytes) (rest : Bytes)

theorem splitArgs_backslash :
    splitArgs inQuotes slashes current (backslash :: rest) =
      splitArgs inQuotes (slashes + 1) (some (current.getD [])) rest :=
  if_pos rfl

theorem splitArgs_quoteMark :
    splitArgs inQuotes slashes current (quoteMark :: rest) =
      if slashes % 2 = 1 then
        splitArgs inQuotes 0 (some (pending current (slashes / 2) ++ [quoteMark])) rest
      else splitArgs (!inQuotes) 0 (some (pending current (slashes / 2))) rest := by
  rw [splitArgs, if_neg (by decide), if_pos rfl]

theorem splitArgs_separator {first : UInt8} (separator : isSeparator first = true) :
    splitArgs false slashes current (first :: rest) =
      ended current slashes ++ splitArgs false 0 none rest := by
  obtain ⟨notBackslash, notQuote⟩ := isSeparator_ne separator
  rw [splitArgs, if_neg notBackslash, if_neg notQuote, if_pos ⟨separator, rfl⟩]

theorem splitArgs_other {first : UInt8} (notBackslash : first ≠ backslash)
    (notQuote : first ≠ quoteMark) (inside : ¬ (isSeparator first = true ∧ inQuotes = false)) :
    splitArgs inQuotes slashes current (first :: rest) =
      splitArgs inQuotes 0 (some (pending current slashes ++ [first])) rest := by
  rw [splitArgs, if_neg notBackslash, if_neg notQuote, if_neg inside]

/-- An argument begins with anything but a separator. -/
theorem splitArgs_begin {first : UInt8} (notSeparator : isSeparator first = false) :
    splitArgs inQuotes 0 none (first :: rest) = splitArgs inQuotes 0 (some []) (first :: rest) := by
  unfold splitArgs
  split_ifs <;> simp_all [pending]

end Step

theorem pending_succ (current : Bytes) (slashes : Nat) :
    pending (some current) (slashes + 1) = pending (some current) slashes ++ [backslash] := by
  rw [pending, pending, List.replicate_succ', List.append_assoc]

/-! ## Backslashes and quotes -/

def isMark (value : UInt8) : Bool :=
  decide (value = backslash) || decide (value = quoteMark)

/-- At most one backslash stands directly before any quote. -/
def Tame : (slashes : Nat) → Bytes → Prop
  | _, [] => True
  | slashes, first :: rest =>
      if first = backslash then Tame (slashes + 1) rest
      else (first = quoteMark → slashes ≤ 1) ∧ Tame 0 rest

/-- The number of quotes after an odd number of backslashes. -/
def literals : (slashes : Nat) → Bytes → Nat
  | _, [] => 0
  | slashes, first :: rest =>
      if first = backslash then literals (slashes + 1) rest
      else (if first = quoteMark then slashes % 2 else 0) + literals 0 rest

@[simp]
theorem tame_backslash (slashes : Nat) (rest : Bytes) :
    Tame slashes (backslash :: rest) ↔ Tame (slashes + 1) rest := by
  rw [Tame, if_pos rfl]

@[simp]
theorem tame_quoteMark (slashes : Nat) (rest : Bytes) :
    Tame slashes (quoteMark :: rest) ↔ slashes ≤ 1 ∧ Tame 0 rest := by
  rw [Tame, if_neg (by decide)]
  simp

theorem tame_other {first : UInt8} (notBackslash : first ≠ backslash) (notQuote : first ≠ quoteMark)
    (slashes : Nat) (rest : Bytes) : Tame slashes (first :: rest) ↔ Tame 0 rest := by
  rw [Tame, if_neg notBackslash]
  simp [notQuote]

@[simp]
theorem literals_backslash (slashes : Nat) (rest : Bytes) :
    literals slashes (backslash :: rest) = literals (slashes + 1) rest :=
  if_pos rfl

@[simp]
theorem literals_quoteMark (slashes : Nat) (rest : Bytes) :
    literals slashes (quoteMark :: rest) = slashes % 2 + literals 0 rest := by
  rw [literals, if_neg (by decide), if_pos rfl]

theorem literals_other {first : UInt8} (notBackslash : first ≠ backslash)
    (notQuote : first ≠ quoteMark) (slashes : Nat) (rest : Bytes) :
    literals slashes (first :: rest) = literals 0 rest := by
  rw [literals, if_neg notBackslash, if_neg notQuote, Nat.zero_add]

theorem quoteMark_ne_backslash : quoteMark ≠ backslash := by
  decide

theorem countP_pending (current : Option Bytes) (slashes : Nat) :
    (pending current slashes).countP isMark = (current.getD []).countP isMark + slashes := by
  have marked : isMark backslash = true := by decide
  rw [pending, List.countP_append, List.countP_replicate, if_pos marked]

theorem count_pending (current : Option Bytes) (slashes : Nat) :
    (pending current slashes).count quoteMark = (current.getD []).count quoteMark := by
  rw [pending, List.count_append, List.count_replicate, if_neg, Nat.add_zero]
  rw [beq_iff_eq]
  exact quoteMark_ne_backslash.symm

theorem countP_ended (current : Option Bytes) (slashes : Nat) :
    (ended current slashes).flatten.countP isMark ≤ (current.getD []).countP isMark + slashes := by
  cases current with
  | none => exact Nat.zero_le _
  | some current =>
      rw [ended, Option.map_some, Option.toList_some, List.flatten_singleton, countP_pending]

theorem count_ended (current : Option Bytes) (slashes : Nat) :
    (ended current slashes).flatten.count quoteMark = (current.getD []).count quoteMark := by
  cases current with
  | none => rfl
  | some current =>
      rw [ended, Option.map_some, Option.toList_some, List.flatten_singleton, count_pending]

/-- Every backslash and every literal quote in the arguments was a backslash in the line, and where
all of them are left, no two backslashes stood before a quote. -/
theorem countP_splitArgs (inQuotes : Bool) (slashes : Nat) (current : Option Bytes)
    (text : Bytes) :
    (splitArgs inQuotes slashes current text).flatten.countP isMark ≤
        (current.getD []).countP isMark + slashes + text.count backslash ∧
      ((current.getD []).countP isMark + slashes + text.count backslash ≤
          (splitArgs inQuotes slashes current text).flatten.countP isMark →
        Tame slashes text) := by
  induction text generalizing inQuotes slashes current with
  | nil => exact ⟨countP_ended current slashes, fun _ => trivial⟩
  | cons first rest ih =>
      by_cases isBackslash : first = backslash
      · subst isBackslash
        have next := ih inQuotes (slashes + 1) (some (current.getD []))
        rw [splitArgs_backslash, tame_backslash, List.count_cons_self]
        rw [Option.getD_some] at next
        exact ⟨by omega, fun most => next.2 (by omega)⟩
      · by_cases isQuote : first = quoteMark
        · subst isQuote
          rw [splitArgs_quoteMark, tame_quoteMark, List.count_cons_of_ne isBackslash]
          split
          · rename_i odd
            have next := ih inQuotes 0 (some (pending current (slashes / 2) ++ [quoteMark]))
            have marked : isMark quoteMark = true := by decide
            rw [Option.getD_some, List.countP_append, countP_pending,
              List.countP_singleton, if_pos marked] at next
            exact ⟨by omega, fun most => ⟨by omega, next.2 (by omega)⟩⟩
          · rename_i even
            have next := ih (!inQuotes) 0 (some (pending current (slashes / 2)))
            rw [Option.getD_some, countP_pending] at next
            exact ⟨by omega, fun most => ⟨by omega, next.2 (by omega)⟩⟩
        · rw [tame_other isBackslash isQuote, List.count_cons_of_ne isBackslash]
          by_cases separates : isSeparator first = true ∧ inQuotes = false
          · obtain ⟨separator, rfl⟩ := separates
            have next := ih false 0 none
            have before := countP_ended current slashes
            rw [splitArgs_separator _ _ _ separator, List.flatten_append, List.countP_append]
            rw [Option.getD_none, List.countP_nil] at next
            exact ⟨by omega, fun most => next.2 (by omega)⟩
          · have next := ih inQuotes 0 (some (pending current slashes ++ [first]))
            have unmarked : isMark first = false := by
              simp [isMark, isBackslash, isQuote]
            rw [splitArgs_other _ _ _ _ isBackslash isQuote separates]
            rw [Option.getD_some, List.countP_append, countP_pending, List.countP_singleton,
              unmarked, if_neg Bool.false_ne_true] at next
            exact ⟨by omega, fun most => next.2 (by omega)⟩

/-- The quotes in the arguments are those after an odd number of backslashes. -/
theorem count_splitArgs (inQuotes : Bool) (slashes : Nat) (current : Option Bytes) (text : Bytes) :
    (splitArgs inQuotes slashes current text).flatten.count quoteMark =
      (current.getD []).count quoteMark + literals slashes text := by
  induction text generalizing inQuotes slashes current with
  | nil => exact count_ended current slashes
  | cons first rest ih =>
      by_cases isBackslash : first = backslash
      · subst isBackslash
        rw [splitArgs_backslash, ih, literals_backslash, Option.getD_some]
      · by_cases isQuote : first = quoteMark
        · subst isQuote
          rw [splitArgs_quoteMark, literals_quoteMark]
          split
          · rename_i odd
            rw [ih, Option.getD_some, List.count_append, count_pending, List.count_singleton_self]
            omega
          · rename_i even
            rw [ih, Option.getD_some, count_pending]
            omega
        · rw [literals_other isBackslash isQuote]
          by_cases separates : isSeparator first = true ∧ inQuotes = false
          · obtain ⟨separator, rfl⟩ := separates
            rw [splitArgs_separator _ _ _ separator, List.flatten_append, List.count_append, ih,
              count_ended, Option.getD_none, List.count_nil, Nat.zero_add]
          · rw [splitArgs_other _ _ _ _ isBackslash isQuote separates, ih, Option.getD_some,
              List.count_append, count_pending, List.count_singleton, if_neg, Nat.add_zero]
            rwa [beq_iff_eq]

/-! ## Arguments that are read as they are -/

/-- The line ends here or goes on with a blank. -/
def AtEnd (rest : Bytes) : Prop :=
  ∀ first ∈ rest.head?, isSeparator first = true

/-- No backslash stands directly before a quote. -/
def NoEscape (text : Bytes) : Prop :=
  text.IsChain fun previous next => ¬ (previous = backslash ∧ next = quoteMark)

theorem noEscape_cons {first : UInt8} {rest : Bytes} :
    NoEscape (first :: rest) ↔
      (first = backslash → rest.head? ≠ some quoteMark) ∧ NoEscape rest := by
  unfold NoEscape
  rw [List.isChain_cons]
  refine and_congr_left fun _ => ⟨?_, ?_⟩
  · intro apart isBackslash isQuote
    exact apart quoteMark isQuote ⟨isBackslash, rfl⟩
  · rintro apart next isNext ⟨isBackslash, rfl⟩
    exact apart isBackslash isNext

theorem splitArgs_atEnd {rest : Bytes} (atEnd : AtEnd rest) (current : Option Bytes)
    (slashes : Nat) :
    splitArgs false slashes current rest =
      ended current slashes ++ splitArgs false 0 none rest := by
  cases rest with
  | nil => exact (List.append_nil _).symm
  | cons first rest =>
      have separator := atEnd first rfl
      rw [splitArgs_separator _ _ _ separator, splitArgs_separator _ _ _ separator]
      rfl

theorem literals_atEnd {rest : Bytes} (atEnd : AtEnd rest) (slashes : Nat) :
    literals slashes rest = literals 0 rest := by
  cases rest with
  | nil => rfl
  | cons first rest =>
      obtain ⟨notBackslash, notQuote⟩ := isSeparator_ne (atEnd first rfl)
      rw [literals_other notBackslash notQuote, literals_other notBackslash notQuote]

theorem tame_atEnd {rest : Bytes} (atEnd : AtEnd rest) (slashes : Nat) :
    Tame slashes rest ↔ Tame 0 rest := by
  cases rest with
  | nil => rfl
  | cons first rest =>
      obtain ⟨notBackslash, notQuote⟩ := isSeparator_ne (atEnd first rfl)
      rw [tame_other notBackslash notQuote, tame_other notBackslash notQuote]

/-- A text without separators and quotes. -/
def IsBare (text : Bytes) : Prop :=
  ∀ value ∈ text, isSeparator value = false ∧ value ≠ quoteMark

section Bare

variable {text rest : Bytes} (bare : IsBare text) (atEnd : AtEnd rest)

include bare atEnd

theorem splitArgs_bare (slashes : Nat) (current : Bytes) :
    splitArgs false slashes (some current) (text ++ rest) =
      (pending (some current) slashes ++ text) :: splitArgs false 0 none rest := by
  induction text generalizing slashes current with
  | nil =>
      rw [List.nil_append, List.append_nil, splitArgs_atEnd atEnd]
      rfl
  | cons first text ih =>
      rw [IsBare, List.forall_mem_cons] at bare
      rw [List.cons_append]
      by_cases isBackslash : first = backslash
      · subst isBackslash
        rw [splitArgs_backslash, Option.getD_some, ih bare.2, pending_succ, List.append_assoc,
          List.singleton_append]
      · rw [splitArgs_other _ _ _ _ isBackslash bare.1.2 (by simp [bare.1.1]), ih bare.2]
        simp [pending]

theorem literals_bare (slashes : Nat) : literals slashes (text ++ rest) = literals 0 rest := by
  induction text generalizing slashes with
  | nil => exact literals_atEnd atEnd slashes
  | cons first text ih =>
      rw [IsBare, List.forall_mem_cons] at bare
      rw [List.cons_append]
      by_cases isBackslash : first = backslash
      · rw [isBackslash, literals_backslash, ih bare.2]
      · rw [literals_other isBackslash bare.1.2, ih bare.2]

theorem tame_bare (slashes : Nat) : Tame slashes (text ++ rest) ↔ Tame 0 rest := by
  induction text generalizing slashes with
  | nil => exact tame_atEnd atEnd slashes
  | cons first text ih =>
      rw [IsBare, List.forall_mem_cons] at bare
      rw [List.cons_append]
      by_cases isBackslash : first = backslash
      · rw [isBackslash, tame_backslash, ih bare.2]
      · rw [tame_other isBackslash bare.1.2, ih bare.2]

end Bare

/-- A text with a backslash before each quote. -/
def escapeQuotes (text : Bytes) : Bytes :=
  text.flatMap fun value => if value = quoteMark then [backslash, value] else [value]

theorem escapeQuotes_quoteMark (text : Bytes) :
    escapeQuotes (quoteMark :: text) = backslash :: quoteMark :: escapeQuotes text := by
  simp [escapeQuotes]

theorem escapeQuotes_other {first : UInt8} (notQuote : first ≠ quoteMark) (text : Bytes) :
    escapeQuotes (first :: text) = first :: escapeQuotes text := by
  simp [escapeQuotes, notQuote]

theorem count_escapeQuotes (text : Bytes) :
    (escapeQuotes text).count backslash = text.countP isMark := by
  induction text with
  | nil => rfl
  | cons first text ih =>
      by_cases isQuote : first = quoteMark
      · subst isQuote
        rw [escapeQuotes_quoteMark, List.count_cons_self,
          List.count_cons_of_ne quoteMark_ne_backslash, ih,
          List.countP_cons_of_pos (by decide)]
      · rw [escapeQuotes_other isQuote]
        by_cases isBackslash : first = backslash
        · subst isBackslash
          rw [List.count_cons_self, ih, List.countP_cons_of_pos (by decide)]
        · rw [List.count_cons_of_ne isBackslash, ih,
            List.countP_cons_of_neg (by simp [isMark, isBackslash, isQuote])]

/-- Between quotes, an argument in which no backslash is before a quote is read as it is. -/
theorem splitArgs_escapeQuotes {text : Bytes} {slashes : Nat}
    (apart : 0 < slashes → (text ++ [quoteMark]).head? ≠ some quoteMark)
    (noEscape : NoEscape (text ++ [quoteMark])) (current rest : Bytes) :
    splitArgs true slashes (some current) (escapeQuotes text ++ quoteMark :: rest) =
      splitArgs false 0 (some (pending (some current) slashes ++ text)) rest := by
  induction text generalizing slashes current with
  | nil =>
      obtain rfl : slashes = 0 := Nat.eq_zero_of_not_pos fun positive => apart positive rfl
      rw [show escapeQuotes [] = [] from rfl, List.nil_append, splitArgs_quoteMark,
        if_neg (by decide), List.append_nil]
      rfl
  | cons first text ih =>
      rw [List.cons_append, noEscape_cons] at noEscape
      by_cases isQuote : first = quoteMark
      · subst isQuote
        obtain rfl : slashes = 0 := Nat.eq_zero_of_not_pos fun positive => apart positive rfl
        rw [escapeQuotes_quoteMark, List.cons_append, List.cons_append, splitArgs_backslash,
          splitArgs_quoteMark, if_pos rfl, ih (by omega) noEscape.2]
        simp [pending]
      · rw [escapeQuotes_other isQuote, List.cons_append]
        by_cases isBackslash : first = backslash
        · subst isBackslash
          rw [splitArgs_backslash, Option.getD_some, ih (fun _ => noEscape.1 rfl) noEscape.2,
            pending_succ, List.append_assoc, List.singleton_append]
        · rw [splitArgs_other _ _ _ _ isBackslash isQuote (by simp), ih (by omega) noEscape.2]
          simp [pending]

/-- Between quotes, a literal quote is left for each quote of the argument, and another one where
a backslash is before the closing quote. -/
theorem literals_escapeQuotes {text rest : Bytes} {slashes : Nat}
    (tame : Tame slashes (escapeQuotes text ++ quoteMark :: rest)) :
    Tame 0 rest ∧
      text.count quoteMark + literals 0 rest ≤
        literals slashes (escapeQuotes text ++ quoteMark :: rest) ∧
      (literals slashes (escapeQuotes text ++ quoteMark :: rest) ≤
          text.count quoteMark + literals 0 rest →
        (0 < slashes → (text ++ [quoteMark]).head? ≠ some quoteMark) ∧
          NoEscape (text ++ [quoteMark])) := by
  induction text generalizing slashes with
  | nil =>
      rw [show escapeQuotes [] = [] from rfl, List.nil_append, tame_quoteMark] at tame
      rw [show escapeQuotes [] = [] from rfl, List.nil_append, literals_quoteMark, List.count_nil]
      refine ⟨tame.2, by omega, fun least => ⟨fun positive => by omega, ?_⟩⟩
      exact List.IsChain.singleton _
  | cons first text ih =>
      rw [List.cons_append, noEscape_cons]
      by_cases isQuote : first = quoteMark
      · subst isQuote
        rw [escapeQuotes_quoteMark, List.cons_append, List.cons_append, tame_backslash,
          tame_quoteMark] at tame
        obtain ⟨rest, least, safe⟩ := ih tame.2
        rw [escapeQuotes_quoteMark, List.cons_append, List.cons_append, literals_backslash,
          literals_quoteMark, List.count_cons_self]
        refine ⟨rest, by omega, fun most => ⟨by omega, ?_, (safe (by omega)).2⟩⟩
        exact fun isBackslash => absurd isBackslash quoteMark_ne_backslash
      · rw [escapeQuotes_other isQuote, List.cons_append] at tame
        rw [escapeQuotes_other isQuote, List.cons_append, List.count_cons_of_ne isQuote,
          List.head?_cons]
        have notHead : some first ≠ some quoteMark := fun same => isQuote (Option.some.inj same)
        by_cases isBackslash : first = backslash
        · subst isBackslash
          rw [tame_backslash] at tame
          obtain ⟨rest, least, safe⟩ := ih tame
          rw [literals_backslash]
          refine ⟨rest, least, fun most => ⟨fun _ => notHead, fun _ => ?_, (safe most).2⟩⟩
          exact (safe most).1 (Nat.succ_pos _)
        · rw [tame_other isBackslash isQuote] at tame
          obtain ⟨rest, least, safe⟩ := ih tame
          rw [literals_other isBackslash isQuote]
          exact ⟨rest, least, fun most =>
            ⟨fun _ => notHead, fun same => absurd same isBackslash, (safe most).2⟩⟩

end CommandLine

end DistributedComputing
