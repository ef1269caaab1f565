import Mathlib.Data.List.Forall2
import Modelwright.Text.Blank

namespace Modelwright.Target

/-! The skeleton of a text in the target language: the text without the contents of its string
literals.  A literal stands between single quotes of one kind, on one line, or between three of
them; a backslash makes the next character a part of the contents. -/

def isQuote (c : Char) : Bool :=
  c = '\'' || c = '"'

def endsLine (c : Char) : Bool :=
  c = '\n' || c = '\r'

namespace Skeleton

inductive Mode where
  | code
  | comment
  /-- After one quote, which may be the first of three. -/
  | opened (quote : Char)
  /-- After two quotes, an empty literal unless a third one follows. -/
  | openedTwice (quote : Char)
  | short (quote : Char)
  | shortEscape (quote : Char)
  /-- Between three quotes and three quotes, with some of the last seen. -/
  | long (quote : Char) (closing : Nat)
  | longEscape (quote : Char)
  /-- After a line that ended inside a short literal. -/
  | broken
  deriving DecidableEq, Repr

def codeStep (c : Char) : Mode × List Char :=
  if isQuote c then (.opened c, [c]) else if c = '#' then (.comment, [c]) else (.code, [c])

def shortStep (quote c : Char) : Mode × List Char :=
  if c = quote then (.code, [quote])
  else if c = '\\' then (.shortEscape quote, [])
  else if endsLine c then (.broken, [])
  else (.short quote, [])

/-- The mode after a character, and what the skeleton keeps. -/
def step : Mode → Char → Mode × List Char
  | .code, c => codeStep c
  | .comment, c => (if endsLine c then .code else .comment, [c])
  | .opened quote, c => if c = quote then (.openedTwice quote, [quote]) else shortStep quote c
  | .openedTwice quote, c => if c = quote then (.long quote 0, [quote]) else codeStep c
  | .short quote, c => shortStep quote c
  | .shortEscape quote, _ => (.short quote, [])
  | .long quote closing, c =>
    if c = quote then
      if closing = 2 then (.code, [quote, quote, quote]) else (.long quote (closing + 1), [])
    else if c = '\\' then (.longEscape quote, [])
    else (.long quote 0, [])
  | .longEscape quote, _ => (.long quote 0, [])
  | .broken, _ => (.broken, [])

def run (mode : Mode) : List Char → Mode × List Char
  | [] => (mode, [])
  | c :: rest =>
    let (next, kept) := step mode c
    let (last, more) := run next rest
    (last, kept ++ more)

namespace Mode

def isOutside : Mode → Bool
  | .code => true
  | .comment => true
  | .openedTwice _ => true
  | _ => false

/-- Nothing is open, and no quote would continue a literal but the one just closed. -/
def AtRest : Mode → Prop
  | .code => True
  | .openedTwice quote => isQuote quote = true
  | _ => False

end Mode

end Skeleton

open Skeleton

/-- What is left without the contents of literals; none if the text ends inside one. -/
def skeleton (text : String) : Option String :=
  let (last, kept) := run .code text.toList
  if last.isOutside then some (String.ofList kept) else none

namespace Skeleton

@[simp] theorem run_nil (mode : Mode) : run mode [] = (mode, []) := rfl

theorem run_cons (mode : Mode) (c : Char) (rest : List Char) :
    run mode (c :: rest) =
      ((run (step mode c).1 rest).1, (step mode c).2 ++ (run (step mode c).1 rest).2) := rfl

theorem run_trans {mode middle last : Mode} {first second kept more : List Char}
    (head : run mode first = (middle, kept)) (tail : run middle second = (last, more)) :
    run mode (first ++ second) = (last, kept ++ more) := by
  induction first generalizing mode kept with
  | nil =>
      obtain ⟨rfl, rfl⟩ := Prod.mk.inj head
      exact tail
  | cons c rest ih =>
      rw [run_cons, Prod.mk.injEq] at head
      obtain ⟨reached, rfl⟩ := head
      rw [List.cons_append, run_cons, ih (Prod.ext reached rfl), List.append_assoc]

theorem run_step {mode middle last : Mode} {c : Char} {rest kept more : List Char}
    (head : step mode c = (middle, kept)) (tail : run middle rest = (last, more)) :
    run mode (c :: rest) = (last, kept ++ more) := by
  rw [run_cons, head, tail]

theorem run_flatMap {mode : Mode} {text kept : α → List Char} {parts : List α}
    (steady : ∀ part ∈ parts, run mode (text part) = (mode, kept part)) :
    run mode (parts.flatMap text) = (mode, parts.flatMap kept) := by
  induction parts with
  | nil => rfl
  | cons part rest ih =>
      obtain ⟨first, others⟩ := List.forall_mem_cons.mp steady
      rw [List.flatMap_cons, List.flatMap_cons]
      exact run_trans first (ih others)

theorem run_flatMap_dropped {mode : Mode} {text : α → List Char} {parts : List α}
    (steady : ∀ part ∈ parts, run mode (text part) = (mode, [])) :
    run mode (parts.flatMap text) = (mode, []) := by
  rw [run_flatMap steady, List.flatMap_eq_nil_iff.mpr fun _ _ => rfl]

theorem run_of_steps {mode : Mode} {kept : Char → List Char} {text : List Char}
    (steady : ∀ c ∈ text, step mode c = (mode, kept c)) :
    run mode text = (mode, text.flatMap kept) := by
  have single : ∀ c ∈ text, run mode [c] = (mode, kept c) := fun c member => by
    simpa using run_step (steady c member) (run_nil mode)
  rw [← run_flatMap single, List.flatMap_singleton']

def isPlain (c : Char) : Bool :=
  !isQuote c && !endsLine c && c ≠ '#' && c ≠ '\\'

def PlainChars (chars : List Char) : Prop :=
  ∀ c ∈ chars, isPlain c = true

def Plain (text : String) : Prop :=
  PlainChars text.toList

def Quoteless (text : String) : Prop :=
  ∀ c ∈ text.toList, isQuote c = false

-- A search for the instance alone would find one that tries every character there is.
instance (chars : List Char) : Decidable (PlainChars chars) :=
  decidable_of_iff (chars.all isPlain = true) List.all_eq_true

instance (text : String) : Decidable (Plain text) :=
  inferInstanceAs (Decidable (PlainChars text.toList))

instance (text : String) : Decidable (Quoteless text) :=
  decidable_of_iff (text.toList.all (!isQuote ·) = true) (by simp [Quoteless])

theorem PlainChars.append {first second : List Char} (firstPlain : PlainChars first)
    (secondPlain : PlainChars second) : PlainChars (first ++ second) :=
  List.forall_mem_append.mpr ⟨firstPlain, secondPlain⟩

theorem PlainChars.cons {c : Char} {rest : List Char} (first : isPlain c = true)
    (others : PlainChars rest) : PlainChars (c :: rest) :=
  List.forall_mem_cons.mpr ⟨first, others⟩

theorem PlainChars.take {chars : List Char} (plain : PlainChars chars) (count : Nat) :
    PlainChars (chars.take count) :=
  fun c member => plain c (List.mem_of_mem_take member)

theorem PlainChars.drop {chars : List Char} (plain : PlainChars chars) (count : Nat) :
    PlainChars (chars.drop count) :=
  fun c member => plain c (List.mem_of_mem_drop member)

theorem Plain.append {first second : String} (firstPlain : Plain first)
    (secondPlain : Plain second) : Plain (first ++ second) := by
  rw [Plain, String.toList_append]
  exact PlainChars.append firstPlain secondPlain

theorem Quoteless.append {first second : String} (firstQuoteless : Quoteless first)
    (secondQuoteless : Quoteless second) : Quoteless (first ++ second) := by
  rw [Quoteless, String.toList_append]
  exact List.forall_mem_append.mpr ⟨firstQuoteless, secondQuoteless⟩

theorem isPlain_iff {c : Char} :
    isPlain c = true ↔ isQuote c = false ∧ endsLine c = false ∧ c ≠ '#' ∧ c ≠ '\\' := by
  simp [isPlain, and_assoc]

theorem step_code_plain {c : Char} (plain : isPlain c = true) : step .code c = (.code, [c]) := by
  obtain ⟨noQuote, -, noComment, -⟩ := isPlain_iff.mp plain
  simp [step, codeStep, noQuote, noComment]

theorem ne_of_isPlain {c quote : Char} (plain : isPlain c = true)
    (quoted : isQuote quote = true) : c ≠ quote := by
  rintro rfl
  simp [isPlain, quoted] at plain

theorem step_short_plain {c quote : Char} (plain : isPlain c = true)
    (quoted : isQuote quote = true) : step (.short quote) c = (.short quote, []) := by
  obtain ⟨-, sameLine, -, noEscape⟩ := isPlain_iff.mp plain
  simp [step, shortStep, sameLine, noEscape, ne_of_isPlain plain quoted]

theorem step_long_plain {c quote : Char} (closing : Nat) (plain : isPlain c = true)
    (quoted : isQuote quote = true) : step (.long quote closing) c = (.long quote 0, []) := by
  obtain ⟨-, -, -, noEscape⟩ := isPlain_iff.mp plain
  simp [step, noEscape, ne_of_isPlain plain quoted]

theorem run_code_plain {text : List Char} (plain : PlainChars text) :
    run .code text = (.code, text) := by
  rw [run_of_steps fun c member => step_code_plain (plain c member), List.flatMap_singleton']

theorem run_short_plain {text : List Char} {quote : Char}
    (plain : PlainChars text) (quoted : isQuote quote = true) :
    run (.short quote) text = (.short quote, []) := by
  rw [run_of_steps fun c member => step_short_plain (plain c member) quoted,
    List.flatMap_eq_nil_iff.mpr fun _ _ => rfl]

theorem run_long_plain {text : List Char} {quote : Char}
    (plain : PlainChars text) (quoted : isQuote quote = true) :
    run (.long quote 0) text = (.long quote 0, []) := by
  rw [run_of_steps fun c member => step_long_plain 0 (plain c member) quoted,
    List.flatMap_eq_nil_iff.mpr fun _ _ => rfl]

def Scans (text kept : List Char) : Prop :=
  ∃ last : Mode, last.AtRest ∧ run .code text = (last, kept)

theorem scans_of_code {text kept : List Char} (ran : run .code text = (.code, kept)) :
    Scans text kept :=
  ⟨.code, trivial, ran⟩

theorem run_of_atRest {mode : Mode} (rest : mode.AtRest) {c : Char} (text : List Char)
    (bare : isQuote c = false) : run mode (c :: text) = run .code (c :: text) := by
  cases mode with
  | code => rfl
  | openedTwice quote =>
      have apart : c ≠ quote := by
        rintro rfl
        exact Bool.false_ne_true (bare.symm.trans rest)
      simp only [run_cons, step, if_neg apart]
  | _ => exact rest.elim

/-- The text does not begin with a quote, so it can stand after a literal. -/
def Bare (text : List Char) : Prop :=
  ∀ c ∈ text.head?, isQuote c = false

theorem Scans.append {first second kept more : List Char} (head : Scans first kept)
    (tail : Scans second more) (bare : Bare second) :
    Scans (first ++ second) (kept ++ more) := by
  obtain ⟨middle, rest, ran⟩ := head
  obtain ⟨last, lastRest, tailRan⟩ := tail
  cases second with
  | nil =>
      obtain ⟨-, rfl⟩ := Prod.mk.inj tailRan
      simpa using ⟨middle, rest, ran⟩
  | cons c text =>
      refine ⟨last, lastRest, run_trans ran ?_⟩
      rw [run_of_atRest rest text (bare c rfl), tailRan]

/-- Plain text leaves the scan in code, so anything can follow it. -/
theorem Scans.plain_append {lead text kept : List Char} (plain : PlainChars lead)
    (scans : Scans text kept) : Scans (lead ++ text) (lead ++ kept) := by
  obtain ⟨last, rest, ran⟩ := scans
  exact ⟨last, rest, run_trans (run_code_plain plain) ran⟩

theorem scans_short {body : List Char} {quote : Char} (quoted : isQuote quote = true)
    (inside : run (.short quote) body = (.short quote, []))
    (first : body.head? ≠ some quote) :
    Scans (quote :: body ++ [quote]) [quote, quote] := by
  have opening : step .code quote = (.opened quote, [quote]) := by simp [step, codeStep, quoted]
  -- An empty literal is closed only by what follows it; any other one by its last quote.
  cases body with
  | nil =>
      refine ⟨.openedTwice quote, quoted, run_step opening ?_⟩
      simp [run_cons, step]
  | cons c rest =>
      refine scans_of_code (run_step opening ?_)
      have apart : c ≠ quote := fun same => first (same ▸ rfl)
      have sameStep : run (.opened quote) (c :: rest) = run (.short quote) (c :: rest) := by
        simp only [run_cons, step, if_neg apart]
      have closing : run (.short quote) [quote] = (.code, [quote]) := by
        simp [run_cons, step, shortStep]
      exact run_trans (sameStep.trans inside) closing

end Skeleton

end Modelwright.Target
