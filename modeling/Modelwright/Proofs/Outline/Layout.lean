import Modelwright.Proofs.Outline.Continuations
import Modelwright.Proofs.Outline.Names

namespace Modelwright.Outline

open Modelwright.Text Modelwright.Target

/-! Modules as they are laid out in a text: classes with the statements of their bodies, one class
in another, and the lines between them that say nothing. -/

structure Margin where
  chars : List Char
  blank : ∀ c ∈ chars, c = ' ' ∨ c = '\t'

/-- How much further in a body stands. -/
structure Step extends Margin where
  deeper : chars ≠ []

namespace Margin

def none : Margin :=
  ⟨[], nofun⟩

def step (margin : Margin) (step : Step) : Margin :=
  ⟨margin.chars ++ step.chars, List.forall_mem_append.mpr ⟨margin.blank, step.blank⟩⟩

def width (margin : Margin) : Nat :=
  indentation margin.chars

end Margin

/-- A statement of one line, or of several with brackets open in between. -/
structure Code where
  chars : List Char
  isCode : IsCode chars
  stands : ∃ c ∈ chars.head?, isBlank c = false

structure VacantLine where
  chars : List Char
  oneLine : '\n' ∉ chars
  vacant : isVacant chars = true

inductive Part (Indent : Type) where
  | vacant (line : VacantLine)
  | statement (indent : Indent) (code : Code)

abbrev Suite := List (Part Step)

/-- A name that is no keyword and no word that starts statements. -/
structure Name where
  text : String
  identifier : isIdentifier text = true
  apart : text ∉ statementWords

/-- An assignment, an annotation or the first lines of a function. -/
structure Binding where
  name : Name
  form : Form
  code : Code
  binds : Binds name.text form code.chars

structure Decorator where
  code : Code
  atSign : code.chars.head? = some '@'

def Heads (name : String) (text : List Char) : Prop :=
  ∃ rest, Ends rest ∧ text = "class ".toList ++ (name.toList ++ rest)

structure Header where
  name : Name
  code : Code
  heads : Heads name.text code.chars

/-- What a body is made of, line by line. -/
inductive Entry (Inner : Type) where
  | vacant (line : VacantLine)
  | decorator (decorator : Decorator)
  | binding (binding : Binding) (suite : Suite)
  | inner (c : Inner)

/-- A class in a nested class, whose body is left as it is. -/
structure InnerClass where
  header : Header
  suite : Suite

structure ClassText (Inner : Type) where
  header : Header
  step : Step
  entries : List (Entry Inner)

abbrev BlockText := ClassText InnerClass

/-- At the top level of a module there may be decorators, functions and values beside classes. -/
abbrev ModuleText := List (Entry (ClassText BlockText))

namespace Part

def under (margin : Margin) : Part Step → Part Margin
  | vacant line => .vacant line
  | statement step code => .statement (margin.step step) code

def text : Part Margin → List Char
  | vacant line => line.chars
  | statement margin code => margin.chars ++ code.chars

end Part

section Parts

variable {Inner : Type} (inner : Margin → Inner → List (Part Margin)) (margin : Margin)

def Entry.parts : Entry Inner → List (Part Margin)
  | vacant line => [.vacant line]
  | decorator d => [.statement margin d.code]
  | binding b suite => .statement margin b.code :: suite.map (Part.under margin)
  | .inner c => inner margin c

def ClassText.parts (c : ClassText Inner) : List (Part Margin) :=
  .statement margin c.header.code :: c.entries.flatMap (Entry.parts inner (margin.step c.step))

end Parts

def InnerClass.parts (margin : Margin) (c : InnerClass) : List (Part Margin) :=
  .statement margin c.header.code :: c.suite.map (Part.under margin)

def BlockText.parts : Margin → BlockText → List (Part Margin) :=
  ClassText.parts InnerClass.parts

namespace ModuleText

def parts (m : ModuleText) : List (Part Margin) :=
  m.flatMap (Entry.parts (ClassText.parts BlockText.parts) .none)

def text (m : ModuleText) : String :=
  .ofList (m.parts.flatMap fun part => part.text ++ ['\n'])

end ModuleText

section Declared

variable {Inner : Type}

def Entry.bound? : Entry Inner → Option String
  | vacant _ => none
  | decorator _ => none
  | binding b _ => some b.name.text
  | inner _ => none

def Entry.inner? : Entry Inner → Option Inner
  | vacant _ => none
  | decorator _ => none
  | binding _ _ => none
  | inner c => some c

/-- The names of the assignments, annotations and functions that stand right in the body. -/
def boundNames (entries : List (Entry Inner)) : List String :=
  entries.filterMap Entry.bound?

def innerClasses (entries : List (Entry Inner)) : List Inner :=
  entries.filterMap Entry.inner?

theorem boundNames_cons (entry : Entry Inner) (rest : List (Entry Inner)) :
    boundNames (entry :: rest) = entry.bound?.toList ++ boundNames rest := by
  cases entry with
  | _ => rfl

theorem innerClasses_cons (entry : Entry Inner) (rest : List (Entry Inner)) :
    innerClasses (entry :: rest) = entry.inner?.toList ++ innerClasses rest := by
  cases entry with
  | _ => rfl

end Declared

def BlockText.outline (block : BlockText) : OutlineBlock :=
  ⟨block.header.name.text, boundNames block.entries⟩

/-- Each name counts where it is first bound. -/
def ClassText.outline (c : ClassText BlockText) : OutlineClass :=
  ⟨c.header.name.text, (boundNames c.entries).eraseDups,
    (innerClasses c.entries).map BlockText.outline⟩

def Part.statement? : Part Margin → Option Statement
  | vacant _ => none
  | statement margin code => some ⟨margin.width, trim (firstLine code.chars)⟩

theorem indentation_append_of_blank {first second : List Char}
    (blank : ∀ c ∈ first, isBlank c = true) :
    indentation (first ++ second) = indentation first + indentation second := by
  induction first with
  | nil => exact (Nat.zero_add _).symm
  | cons c rest ih =>
      obtain ⟨here, later⟩ := List.forall_mem_cons.mp blank
      have one (more : List Char) : indentation (c :: more) =
          (if c = '\t' then tabWidth else 1) + indentation more := by
        simp [indentation, here]
      rw [List.cons_append, one, one, ih later, Nat.add_assoc]

theorem Margin.width_lt_step (margin : Margin) (step : Step) :
    margin.width < (margin.step step).width := by
  have further : 0 < indentation step.chars := by
    cases chars : step.chars with
    | nil => exact absurd chars step.deeper
    | cons c rest =>
        have blank := Scan.isBlank_of_margin step.blank c (chars ▸ List.mem_cons_self)
        simp only [indentation, List.takeWhile_cons_of_pos blank, List.foldr_cons]
        split
        · exact Nat.lt_of_lt_of_le (by decide) (Nat.le_add_right tabWidth _)
        · omega
  rw [width, width, Margin.step,
    indentation_append_of_blank (Scan.isBlank_of_margin margin.blank)]
  omega

theorem Scan.run_parts {scan : Scan} (fresh : scan.isFresh = true) (parts : List (Part Margin)) :
    scan.run (parts.flatMap fun part => part.text ++ ['\n']) =
      (parts.filterMap Part.statement?).foldl does scan := by
  induction parts generalizing scan with
  | nil =>
      have still := line_of_isVacant (isFresh_iff.mp fresh).1 (rfl : isVacant [] = true)
      exact (run_of_line List.not_mem_nil scan).trans still
  | cons part rest ih =>
      rw [List.flatMap_cons, List.append_assoc, List.singleton_append, run_append_break]
      cases part with
      | vacant line =>
          rw [Part.text, run_of_line line.oneLine,
            line_of_isVacant (isFresh_iff.mp fresh).1 line.vacant, ih fresh]
          rfl
      | statement margin code =>
          obtain ⟨c, leads, stands⟩ := code.stands
          rw [Part.text, run_statement margin.blank fresh code.isCode leads stands,
            ih (isFresh_does fresh _)]
          rfl

end Modelwright.Outline
