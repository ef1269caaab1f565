import Modelwright.Proofs.Outline.Growth

namespace Modelwright.Outline

open Modelwright.Text

/-! Modules put together from parts. -/

/-- The line is blank, or a comment and nothing else. -/
def isVacant (raw : List Char) : Bool :=
  match trimStart raw with
  | [] => true
  | c :: _ => c == '#'

/-- The first line that says something starts in the first column. -/
def StartsInFirstColumn (text : List Char) : Prop :=
  ∀ raw ∈ (lines text).find? (!isVacant ·), ∀ c ∈ raw.head?, isBlank c = false

theorem code_step_of_isBlank {c : Char} (blank : isBlank c = true) :
    QuoteState.code.step c = .code ∧ c ≠ '#' := by
  have noQuote : isQuote c = false := by
    by_contra quoted
    rw [not_isBlank_of_isQuote (Bool.not_eq_false _ ▸ quoted)] at blank
    cases blank
  refine ⟨by rw [QuoteState.step, noQuote, if_neg Bool.false_ne_true], ?_⟩
  rintro rfl
  cases blank

theorem lineText_cons_of_isBlank {c : Char} (blank : isBlank c = true) (rest : List Char) :
    lineText (c :: rest) = lineText rest := by
  obtain ⟨stays, noComment⟩ := code_step_of_isBlank blank
  rw [lineText, withoutComment, if_neg fun comment => noComment comment.2, stays, trim, trimStart,
    List.dropWhile_cons_of_pos blank]
  rfl

theorem lineText_ne_nil_of_stands {c : Char} (stands : isBlank c = false) (code : c ≠ '#')
    (rest : List Char) : lineText (c :: rest) ≠ [] := by
  rw [lineText, withoutComment, if_neg fun comment => code comment.2, trim, trimStart,
    List.dropWhile_cons_of_neg (by simp [stands]), ← List.nil_append (c :: _),
    trimEnd_append stands]
  exact List.cons_ne_nil _ _

theorem lineText_eq_nil_iff (raw : List Char) : lineText raw = [] ↔ isVacant raw = true := by
  induction raw with
  | nil => exact iff_of_true rfl rfl
  | cons c rest ih =>
      cases blank : isBlank c with
      | true =>
          rw [lineText_cons_of_isBlank blank, ih, isVacant, isVacant, trimStart, trimStart,
            List.dropWhile_cons_of_pos blank]
      | false =>
          have first : trimStart (c :: rest) = c :: rest :=
            List.dropWhile_cons_of_neg (by simp [blank])
          simp only [isVacant, first, beq_iff_eq]
          by_cases comment : c = '#'
          · exact iff_of_true (by rw [lineText, withoutComment, if_pos ⟨rfl, comment⟩]; rfl) comment
          · exact iff_of_false (lineText_ne_nil_of_stands blank comment rest) comment

namespace Scan

variable {scan : Scan}

theorem line_of_isVacant (closed : scan.openString = none) {raw : List Char}
    (vacant : isVacant raw = true) : scan.line raw = scan := by
  have nothing := (lineText_eq_nil_iff raw).mpr vacant
  rw [lineText] at nothing
  rw [line_of_closed closed, nothing]
  rfl

def behind (scan : Scan) (classes : List OutlineClass) : Scan :=
  { scan with classes := classes ++ scan.classes }

section Behind

variable (scan : Scan) (classes : List OutlineClass)

theorem closeClass_behind : (scan.behind classes).closeClass = scan.closeClass.behind classes := by
  obtain ⟨found, current, _, _, _, _, _⟩ := scan
  cases current with
  | none => rfl
  | some c => simp [closeClass, behind]

theorem finish_behind : (scan.behind classes).finish = classes ++ scan.finish := by
  rw [finish, closeClass_behind]
  rfl

theorem statement_behind (indent : Nat) (text : List Char) :
    (scan.behind classes).statement indent text =
      (scan.statement indent text).behind classes := by
  by_cases top : indent = 0
  · rw [statement, if_pos top, statement, if_pos top, topLevel, topLevel, closeClass_behind]
    cases declaredClass? text with
    | none => rfl
    | some name => rfl
  · rw [statement, if_neg top, statement, if_neg top]
    cases opened : scan.current with
    | none => simp only [behind, opened]
    | some c =>
        simp only [behind, opened]
        by_cases body : indent = scan.bodyIndent.getD indent
        · rw [if_pos body, if_pos body, bodyStatement, bodyStatement]
          cases declaredClass? text with
          | none => rfl
          | some name => rfl
        · by_cases deeper : scan.bodyIndent.getD indent < indent
          · rw [if_neg body, if_neg body, if_pos deeper, if_pos deeper, blockStatement,
              blockStatement]
            cases scan.block with
            | none => rfl
            | some last => rfl
          · rw [if_neg body, if_neg body, if_neg deeper, if_neg deeper]

theorem carry_behind (indent : Nat) (text : List Char) (depth : Nat)
    (openString : Option (List Char)) :
    (scan.behind classes).carry indent text depth openString =
      (scan.carry indent text depth openString).behind classes := by
  by_cases inside : 0 < scan.depth
  · have same : 0 < (scan.behind classes).depth := inside
    rw [carry, if_pos same, carry, if_pos inside]
    rfl
  · have same : ¬ 0 < (scan.behind classes).depth := inside
    rw [carry, if_neg same, carry, if_neg inside]
    exact statement_behind { scan with depth := depth, openString := openString } classes indent
      text

theorem line_behind (raw : List Char) :
    (scan.behind classes).line raw = (scan.line raw).behind classes := by
  cases opened : scan.openString with
  | some quote =>
      have same : (scan.behind classes).openString = some quote := opened
      rw [line_of_openString same, line_of_openString opened]
      split
      · rfl
      · rfl
  | none =>
      have same : (scan.behind classes).openString = none := opened
      rw [line_of_closed same, line_of_closed opened]
      by_cases blank : trim (withoutComment .code raw) = []
      · rw [blank]
        rfl
      · rw [code_of_ne_nil _ _ blank, code_of_ne_nil _ _ blank]
        exact carry_behind scan classes _ _ _ _

theorem foldl_line_behind (lines : List (List Char)) :
    lines.foldl line (scan.behind classes) = (lines.foldl line scan).behind classes := by
  induction lines generalizing scan with
  | nil => rfl
  | cons raw rest ih => rw [List.foldl_cons, line_behind, ih, List.foldl_cons]

end Behind

/-- A block is open only in an open class. -/
def Owned (scan : Scan) : Prop :=
  scan.current = none → scan.block = none

theorem owned_start : start.Owned :=
  fun _ => rfl

theorem owned_of_current {c : OutlineClass} (opened : scan.current = some c) : scan.Owned :=
  fun closed => nomatch closed.symm.trans opened

theorem owned_closeClass (owned : scan.Owned) : scan.closeClass.Owned := by
  unfold closeClass
  split
  next => exact owned
  next => exact fun _ => rfl

theorem owned_statement (owned : scan.Owned) (indent : Nat) (text : List Char) :
    (scan.statement indent text).Owned := by
  rcases Nat.eq_zero_or_pos indent with top | inner
  · rw [statement, if_pos top, topLevel]
    cases declaredClass? text with
    | none => exact owned_closeClass owned
    | some name => exact owned_of_current rfl
  · cases opened : scan.current with
    | none => rwa [inner_statement_of_none opened inner]
    | some c =>
        obtain ⟨d, current, -, -, -⟩ := inner_statement opened inner text
        exact owned_of_current current

theorem owned_line (owned : scan.Owned) (raw : List Char) : (scan.line raw).Owned := by
  -- A line makes no statement or one.
  cases fresh : scan.isFresh with
  | false =>
      have kept := settled_line_of_not_isFresh fresh raw
      intro closed
      have outside := (congrArg Scan.current kept).symm.trans closed
      exact (congrArg Scan.block kept).trans (owned outside)
  | true =>
      have taken := settled_line_of_isFresh fresh raw
      have settledOwned : (scan.line raw).settled.Owned := by
        rw [taken, statement?]
        split
        · exact owned
        · have settledBefore : scan.settled.Owned := owned
          exact owned_statement settledBefore _ _
      exact settledOwned

theorem owned_foldl_line (owned : scan.Owned) (lines : List (List Char)) :
    (lines.foldl line scan).Owned := by
  induction lines generalizing scan with
  | nil => exact owned
  | cons raw rest ih => exact ih (owned_line owned raw)

theorem closeClass_of_isFresh (owned : scan.Owned) (fresh : scan.isFresh = true) :
    scan.closeClass = start.behind scan.finish := by
  obtain ⟨closed, outside⟩ := isFresh_iff.mp fresh
  obtain ⟨found, current, bodyIndent, block, blockIndent, openString, depth⟩ := scan
  obtain rfl : openString = none := closed
  obtain rfl : depth = 0 := outside
  cases current with
  | some c => simp [closeClass, finish, behind, start]
  | none =>
      -- A block without its class would be left over here.
      obtain rfl : block = none := owned rfl
      simp [closeClass, finish, behind, start]

theorem topLevel_of_isFresh (owned : scan.Owned) (fresh : scan.isFresh = true)
    (text : List Char) : scan.topLevel text = (start.topLevel text).behind scan.finish := by
  have closes : scan.closeClass = start.closeClass.behind scan.finish :=
    closeClass_of_isFresh owned fresh
  rw [topLevel, topLevel, closes]
  cases declaredClass? text with
  | none => rfl
  | some name => rfl

theorem carry_firstColumn (outside : scan.depth = 0) (text : List Char) (depth : Nat)
    (openString : Option (List Char)) :
    scan.carry 0 text depth openString =
      { scan.topLevel text with depth := depth, openString := openString } := by
  rw [carry, if_neg (by omega), statement, if_pos rfl, topLevel_with]

/-- A statement in the first column makes of any scan what it makes of a new one. -/
theorem line_of_firstColumn (owned : scan.Owned) (fresh : scan.isFresh = true) {raw : List Char}
    (column : indentation raw = 0) (something : isVacant raw = false) :
    scan.line raw = (start.line raw).behind scan.finish := by
  obtain ⟨closed, outside⟩ := isFresh_iff.mp fresh
  have untouched : start.openString = none := rfl
  have text : trim (withoutComment .code raw) ≠ [] := by
    rw [← lineText, Ne, lineText_eq_nil_iff, something]
    exact Bool.false_ne_true
  rw [line_of_closed closed, line_of_closed untouched, code_of_ne_nil _ _ text,
    code_of_ne_nil _ _ text, column, carry_firstColumn outside, carry_firstColumn rfl,
    topLevel_of_isFresh owned fresh, outside]
  rfl

theorem finish_foldl_line (owned : scan.Owned) (fresh : scan.isFresh = true)
    {lines : List (List Char)}
    (column : ∀ raw ∈ lines.find? (!isVacant ·), indentation raw = 0) :
    (lines.foldl line scan).finish = scan.finish ++ (lines.foldl line start).finish := by
  induction lines with
  | nil => exact (List.append_nil _).symm
  | cons raw rest ih =>
      rw [List.foldl_cons, List.foldl_cons]
      have untouched : start.openString = none := rfl
      cases vacant : isVacant raw with
      | true =>
          rw [List.find?_cons_of_neg (by simp [vacant])] at column
          rw [line_of_isVacant (isFresh_iff.mp fresh).1 vacant, line_of_isVacant untouched vacant]
          exact ih column
      | false =>
          rw [List.find?_cons_of_pos (by simp [vacant])] at column
          rw [line_of_firstColumn owned fresh (column raw rfl) vacant, foldl_line_behind,
            finish_behind]

end Scan

theorem indentation_of_firstColumn {raw : List Char}
    (column : ∀ c ∈ raw.head?, isBlank c = false) : indentation raw = 0 := by
  cases raw with
  | nil => rfl
  | cons c rest => simp [indentation, column c rfl]

end Modelwright.Outline

namespace Modelwright

open Modelwright.Text Modelwright.Outline

/-- The outline of a module is that of its parts, if the first part leaves nothing open and the next
one starts in the first column. -/
theorem outline_append {first second : String}
    (breaks : first = "" ∨ first.toList.getLast? = some '\n')
    (brackets : ((lines first.toList).foldl Scan.line .start).depth = 0)
    (strings : ((lines first.toList).foldl Scan.line .start).openString = none)
    (column : StartsInFirstColumn second.toList) :
    outline (first ++ second) = outline first ++ outline second := by
  have ends : first.toList = [] ∨ first.toList.getLast? = some '\n' :=
    breaks.imp_left fun empty => by rw [empty]; rfl
  have awaits := Scan.awaitsTriple_foldl Scan.awaitsTriple_start (lines first.toList)
  have split : (lines (first ++ second).toList).foldl Scan.line .start =
      (lines second.toList).foldl Scan.line ((lines first.toList).foldl Scan.line .start) := by
    rw [Scan.foldl_lines awaits, Scan.foldl_lines Scan.awaitsTriple_start,
      Scan.foldl_lines Scan.awaitsTriple_start, String.toList_append,
      Scan.run_append Scan.awaitsTriple_start ends]
  rw [outline, split]
  exact Scan.finish_foldl_line (Scan.owned_foldl_line Scan.owned_start _)
    (Scan.isFresh_iff.mpr ⟨strings, brackets⟩)
    fun raw found => indentation_of_firstColumn (column raw found)

/-- The class of the first part has a block open, and the other part starts with a comment that is
indented like it. -/
theorem outline_append_ledger :
    StartsInFirstColumn "\n        # next\nclass Entry:\n  amount = 0\n".toList ∧
      outline ("class Ledger:\n    rows = [\n0]\n    class Meta:\n        table = 1\n" ++
          "\n        # next\nclass Entry:\n  amount = 0\n") =
        [⟨"Ledger", ["rows"], [⟨"Meta", ["table"]⟩]⟩, ⟨"Entry", ["amount"], []⟩] := by
  have column : StartsInFirstColumn "\n        # next\nclass Entry:\n  amount = 0\n".toList := by
    have first : (lines "\n        # next\nclass Entry:\n  amount = 0\n".toList).find?
        (!isVacant ·) = some "class Entry:".toList := by decide +kernel
    intro raw found c leads
    obtain rfl := Option.some.inj (first.symm.trans found)
    obtain rfl := Option.some.inj leads
    decide
  refine ⟨column, ?_⟩
  rw [outline_append (.inr (by decide +kernel)) (by decide +kernel) (by decide +kernel) column]
  decide +kernel

end Modelwright
