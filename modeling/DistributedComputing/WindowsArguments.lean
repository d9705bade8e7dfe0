import DistributedComputing.WindowsExecutor

/-!
# The arguments of a child on Windows

The executor puts the command and the arguments into one line, and the child takes it apart again.
What is lost are empty arguments and backslashes before quotes.
-/

namespace DistributedComputing

namespace WindowsExecutor

open CommandLine

/-- The argument vector that the child finds in its command line. -/
def childArgv (command : Bytes) (args : List Bytes) : List Bytes :=
  commandLineToArgv (cString (cmdline command args))

/-- If the argument is put into quotes, no backslash comes to stand before one of its quotes or
before the closing one. -/
def IsQuotable (arg : Bytes) : Prop :=
  needsQuotes arg = true → NoEscape (arg ++ [quoteMark])

structure ArgumentsSurvive (command : Bytes) (args : List Bytes) : Prop where
  quotable : ∀ arg ∈ command :: args, IsQuotable arg
  nonempty : ∀ arg ∈ args, arg ≠ []
  present : command ≠ [] ∨ args ≠ []

theorem isBare_of_needsQuotes {arg : Bytes} (bare : needsQuotes arg = false) : IsBare arg := by
  intro value member
  have plain := List.any_eq_false.mp bare value member
  simpa [ascii, isSeparator, quoteMark, not_or, and_assoc] using plain

theorem quoteArg_of_needsQuotes {arg : Bytes} (needs : needsQuotes arg = true) :
    quoteArg arg = quoteMark :: (escapeQuotes arg ++ [quoteMark]) :=
  if_pos needs

theorem quoteArg_of_bare {arg : Bytes} (bare : needsQuotes arg = false) : quoteArg arg = arg := by
  rw [quoteArg, bare, if_neg Bool.false_ne_true]

/-- The arguments after the command, each with a blank before it. -/
def tailLine (args : List Bytes) : Bytes :=
  args.flatMap fun arg => byte ' ' :: quoteArg arg

theorem cmdline_eq (command : Bytes) (args : List Bytes) :
    cmdline command args = quoteArg command ++ tailLine args := by
  unfold cmdline tailLine
  generalize quoteArg command = line
  induction args generalizing line with
  | nil => exact (List.append_nil line).symm
  | cons arg args ih =>
      rw [List.foldl_cons, ih, List.flatMap_cons, List.append_assoc, List.append_assoc,
        List.singleton_append]
      rfl

theorem atEnd_tailLine (args : List Bytes) : AtEnd (tailLine args) := by
  cases args with
  | nil => exact nofun
  | cons arg args =>
      rintro first ⟨⟩
      decide

/-! ## Reading back -/

theorem splitArgs_quoteArg {arg rest : Bytes} (quotable : IsQuotable arg) (atEnd : AtEnd rest) :
    splitArgs false 0 (some []) (quoteArg arg ++ rest) =
      arg :: splitArgs false 0 none rest := by
  cases needs : needsQuotes arg with
  | false =>
      rw [quoteArg_of_bare needs, splitArgs_bare (isBare_of_needsQuotes needs) atEnd]
      rfl
  | true =>
      rw [quoteArg_of_needsQuotes needs, List.cons_append, List.append_assoc,
        List.singleton_append, splitArgs_quoteMark, if_neg (by decide), Bool.not_false,
        splitArgs_escapeQuotes (by omega) (quotable needs), splitArgs_atEnd atEnd]
      simp [pending, ended]

theorem quoteArg_eq_nil {arg : Bytes} : quoteArg arg = [] ↔ arg = [] := by
  cases needs : needsQuotes arg with
  | false => rw [quoteArg_of_bare needs]
  | true =>
      rw [quoteArg_of_needsQuotes needs]
      refine ⟨nofun, ?_⟩
      rintro rfl
      cases needs

/-- An argument that is not empty does not begin with a separator. -/
theorem head_quoteArg {arg : Bytes} {first : UInt8}
    (isFirst : (quoteArg arg).head? = some first) : isSeparator first = false := by
  cases needs : needsQuotes arg with
  | false =>
      rw [quoteArg_of_bare needs] at isFirst
      exact (isBare_of_needsQuotes needs first (List.mem_of_mem_head? isFirst)).1
  | true =>
      rw [quoteArg_of_needsQuotes needs] at isFirst
      cases isFirst
      decide

/-- Empty arguments vanish. -/
theorem splitArgs_tailLine {args : List Bytes} (quotable : ∀ arg ∈ args, IsQuotable arg) :
    splitArgs false 0 none (tailLine args) = args.filter fun arg => !arg.isEmpty := by
  induction args with
  | nil => rfl
  | cons arg args ih =>
      rw [List.forall_mem_cons] at quotable
      rw [tailLine, List.flatMap_cons, ← tailLine, List.cons_append,
        splitArgs_separator _ _ _ (by decide), show ended none 0 = [] from rfl,
        List.nil_append]
      rcases eq_or_ne arg [] with rfl | nonempty
      · rw [quoteArg_eq_nil.mpr rfl, List.nil_append, ih quotable.2]
        rfl
      · obtain ⟨first, rest, isQuoted⟩ :=
          List.exists_cons_of_ne_nil (mt quoteArg_eq_nil.mp nonempty)
        have begins : splitArgs false 0 none (quoteArg arg ++ tailLine args) =
            splitArgs false 0 (some []) (quoteArg arg ++ tailLine args) := by
          have isFirst : (quoteArg arg).head? = some first := by
            rw [isQuoted]
            rfl
          rw [isQuoted, List.cons_append]
          exact splitArgs_begin _ _ (head_quoteArg isFirst)
        rw [begins, splitArgs_quoteArg quotable.1 (atEnd_tailLine args), ih quotable.2,
          List.filter_cons_of_pos (by simp [nonempty])]

/-! ## What is lost -/

theorem count_quoteArg (arg : Bytes) : (quoteArg arg).count backslash = arg.countP isMark := by
  cases needs : needsQuotes arg with
  | false =>
      rw [quoteArg_of_bare needs, List.count_eq_countP]
      refine List.countP_congr fun value member => ?_
      have notQuote := (isBare_of_needsQuotes needs value member).2
      simp [isMark, notQuote]
  | true =>
      rw [quoteArg_of_needsQuotes needs, List.count_cons_of_ne quoteMark_ne_backslash,
        List.count_append, count_escapeQuotes, List.count_singleton, if_neg, Nat.add_zero]
      rw [beq_iff_eq]
      exact quoteMark_ne_backslash

theorem count_tailLine (args : List Bytes) :
    (tailLine args).count backslash = args.flatten.countP isMark := by
  induction args with
  | nil => rfl
  | cons arg args ih =>
      rw [tailLine, List.flatMap_cons, ← tailLine, List.count_append, ih,
        List.count_cons_of_ne (by decide), count_quoteArg, List.flatten_cons,
        List.countP_append]

/-- What a tame line says about an argument. -/
theorem literals_quoteArg {arg rest : Bytes} (atEnd : AtEnd rest)
    (tame : Tame 0 (quoteArg arg ++ rest)) :
    Tame 0 rest ∧
      arg.count quoteMark + literals 0 rest ≤ literals 0 (quoteArg arg ++ rest) ∧
      (literals 0 (quoteArg arg ++ rest) ≤ arg.count quoteMark + literals 0 rest →
        IsQuotable arg) := by
  cases needs : needsQuotes arg with
  | false =>
      have bare := isBare_of_needsQuotes needs
      rw [quoteArg_of_bare needs, tame_bare bare atEnd] at tame
      have none : arg.count quoteMark = 0 :=
        List.count_eq_zero.mpr fun member => (bare _ member).2 rfl
      rw [quoteArg_of_bare needs, literals_bare bare atEnd, none, Nat.zero_add]
      refine ⟨tame, Nat.le_refl _, fun _ quoted => ?_⟩
      rw [needs] at quoted
      cases quoted
  | true =>
      rw [quoteArg_of_needsQuotes needs, List.cons_append, List.append_assoc,
        List.singleton_append, tame_quoteMark] at tame
      obtain ⟨rest, least, safe⟩ := literals_escapeQuotes tame.2
      rw [quoteArg_of_needsQuotes needs, List.cons_append, List.append_assoc,
        List.singleton_append, literals_quoteMark]
      exact ⟨rest, by omega, fun most _ => (safe (by omega)).2⟩

theorem literals_tailLine {args : List Bytes} (tame : Tame 0 (tailLine args)) :
    args.flatten.count quoteMark ≤ literals 0 (tailLine args) ∧
      (literals 0 (tailLine args) ≤ args.flatten.count quoteMark →
        ∀ arg ∈ args, IsQuotable arg) := by
  induction args with
  | nil => exact ⟨Nat.le_refl _, fun _ _ member => nomatch member⟩
  | cons arg args ih =>
      have blank : byte ' ' ≠ backslash ∧ byte ' ' ≠ quoteMark := by decide
      rw [tailLine, List.flatMap_cons, ← tailLine, List.cons_append,
        tame_other blank.1 blank.2] at tame
      obtain ⟨rest, least, safe⟩ := literals_quoteArg (atEnd_tailLine args) tame
      obtain ⟨restLeast, restSafe⟩ := ih rest
      rw [tailLine, List.flatMap_cons, ← tailLine, List.cons_append,
        literals_other blank.1 blank.2, List.flatten_cons, List.count_append,
        List.forall_mem_cons]
      exact ⟨by omega, fun most => ⟨safe (by omega), restSafe (by omega)⟩⟩

/-- If the child finds the arguments, then no backslash was lost in any of them. -/
theorem quotable_of_splitArgs {command : Bytes} {args : List Bytes}
    (found : splitArgs false 0 (some []) (cmdline command args) = command :: args) :
    ∀ arg ∈ command :: args, IsQuotable arg := by
  obtain ⟨_, tameOfMost⟩ := countP_splitArgs false 0 (some []) (cmdline command args)
  have quotes := count_splitArgs false 0 (some []) (cmdline command args)
  have backslashes : (cmdline command args).count backslash =
      (command :: args).flatten.countP isMark := by
    rw [cmdline_eq, List.count_append, count_quoteArg, count_tailLine, List.flatten_cons,
      List.countP_append]
  rw [found, Option.getD_some, List.countP_nil, Nat.zero_add, backslashes] at tameOfMost
  have tame := tameOfMost (Nat.le_refl _)
  rw [found, Option.getD_some, List.count_nil, Nat.zero_add, List.flatten_cons,
    List.count_append] at quotes
  rw [cmdline_eq] at tame quotes
  obtain ⟨rest, least, safe⟩ := literals_quoteArg (atEnd_tailLine args) tame
  obtain ⟨restLeast, restSafe⟩ := literals_tailLine rest
  rw [List.forall_mem_cons]
  exact ⟨safe (by omega), restSafe (by omega)⟩

theorem zero_not_mem_quoteArg {arg : Bytes} (noZero : 0 ∉ arg) : 0 ∉ quoteArg arg := by
  have marks : (0 : UInt8) ≠ quoteMark ∧ (0 : UInt8) ≠ backslash := by decide
  cases needs : needsQuotes arg with
  | false => rwa [quoteArg_of_bare needs]
  | true =>
      rw [quoteArg_of_needsQuotes needs]
      intro member
      simp only [List.mem_cons, List.mem_append, List.not_mem_nil, or_false, marks.1, false_or,
        escapeQuotes, List.mem_flatMap] at member
      obtain ⟨value, inside, isZero⟩ := member
      split at isZero
      · rename_i quote
        simp [quote, marks] at isZero
      · rw [List.mem_singleton] at isZero
        exact noZero (isZero ▸ inside)

theorem zero_not_mem_cmdline {command : Bytes} {args : List Bytes}
    (noZero : ∀ text ∈ command :: args, 0 ∉ text) : 0 ∉ cmdline command args := by
  rw [List.forall_mem_cons] at noZero
  have blank : (0 : UInt8) ≠ byte ' ' := by decide
  rw [cmdline_eq, List.mem_append, tailLine, List.mem_flatMap]
  rintro (inCommand | ⟨arg, member, inArg⟩)
  · exact zero_not_mem_quoteArg noZero.1 inCommand
  · rw [List.mem_cons] at inArg
    exact inArg.elim blank (zero_not_mem_quoteArg (noZero.2 arg member))

/-- A child finds the command and its arguments in its command line exactly when no argument is
empty and none has a backslash that quoting brings before a quote. -/
theorem childArgv_eq_iff {command : Bytes} {args : List Bytes}
    (noZero : ∀ text ∈ command :: args, 0 ∉ text) :
    childArgv command args = command :: args ↔ ArgumentsSurvive command args := by
  rw [childArgv, cString_eq_self (zero_not_mem_cmdline noZero), commandLineToArgv]
  by_cases empty : cmdline command args = []
  · rw [if_pos empty]
    refine ⟨nofun, fun survive => ?_⟩
    rw [cmdline_eq, List.append_eq_nil_iff, quoteArg_eq_nil] at empty
    cases args with
    | nil => exact absurd empty.1 (survive.present.resolve_right fun filled => filled rfl)
    | cons arg args => cases empty.2
  · rw [if_neg empty]
    have found : (∀ arg ∈ command :: args, IsQuotable arg) →
        splitArgs false 0 (some []) (cmdline command args) =
          command :: args.filter fun arg => !arg.isEmpty := by
      intro quotable
      rw [List.forall_mem_cons] at quotable
      rw [cmdline_eq, splitArgs_quoteArg quotable.1 (atEnd_tailLine args),
        splitArgs_tailLine quotable.2]
    constructor
    · intro same
      have quotable := quotable_of_splitArgs same
      rw [found quotable, List.cons_inj_right, List.filter_eq_self] at same
      refine ⟨quotable, fun arg member => by simpa using same arg member, ?_⟩
      by_contra missing
      rw [not_or, not_not, not_not] at missing
      rw [missing.1, missing.2] at empty
      exact empty rfl
    · intro survive
      rw [found survive.quotable, List.filter_eq_self.mpr]
      intro arg member
      simpa using survive.nonempty arg member

/-- A command with arguments in which blanks, quotes and backslashes are harmless. -/
theorem childArgv_eq_of_program :
    childArgv (ascii "C:\\tools\\run.exe") [ascii "C:\\in dir\\a.txt", ascii "say \"hi\""] =
      [ascii "C:\\tools\\run.exe", ascii "C:\\in dir\\a.txt", ascii "say \"hi\""] := by
  refine (childArgv_eq_iff (by decide)).mpr ⟨?_, by decide, by decide⟩
  unfold IsQuotable NoEscape
  decide

/-- A backslash at the end of an argument with a blank takes the closing quote with it. -/
theorem childArgv_ne_of_trailing_backslash :
    ¬ ∀ (command : Bytes) (args : List Bytes), (∀ text ∈ command :: args, 0 ∉ text) →
      childArgv command args = command :: args := by
  intro found
  have same := found (ascii "run.exe") [ascii "in dir\\", ascii "out"] (by decide)
  exact absurd same (by decide)

end WindowsExecutor

end DistributedComputing
