import Modelwright.Proofs.Outline.Line

namespace Modelwright.Outline

open Modelwright.Text

/-! The outline of a text is what a run over its lines finishes with.  Runs compose at line breaks,
and a carriage return before a line break says nothing. -/

theorem mem_tripleQuotes_of_openQuote? {text quote : List Char}
    (opened : openQuote? text = some quote) : quote ∈ tripleQuotes := by
  have odd : ∀ {other}, other ∈ tripleQuotes.filter (fun q => occurrences q text % 2 == 1) →
      other ∈ tripleQuotes := fun listed => (List.mem_filter.mp listed).1
  unfold openQuote? at opened
  split at opened
  · cases opened
  · next only =>
      cases opened
      exact odd (only ▸ List.mem_singleton_self _)
  · next first second rest both =>
      split at opened
      · cases opened
        exact odd (both ▸ List.mem_cons_of_mem _ List.mem_cons_self)
      · cases opened
        exact odd (both ▸ List.mem_cons_self)

namespace Scan

def run (scan : Scan) (text : List Char) : Scan :=
  (pieces '\n' text).foldl line scan

def AwaitsTriple (scan : Scan) : Prop :=
  ∀ quote, scan.openString = some quote → quote ∈ tripleQuotes

/-- What a line of code does, given what it leaves open. -/
def carry (scan : Scan) (indent : Nat) (text : List Char) (depth : Nat)
    (openString : Option (List Char)) : Scan :=
  let carried := { scan with depth := depth, openString := openString }
  if 0 < scan.depth then carried else carried.statement indent text

theorem code_of_ne_nil {text : List Char} (scan : Scan) (indent : Nat) (some : text ≠ []) :
    scan.code indent text =
      scan.carry indent text (bracketDepth scan.depth text) (openQuote? text) := by
  rw [code, if_neg (by simpa using some)]
  rfl

theorem closeClass_with (scan : Scan) (depth : Nat) (openString : Option (List Char)) :
    ({ scan with depth := depth, openString := openString } : Scan).closeClass =
      { scan.closeClass with depth := depth, openString := openString } := by
  unfold closeClass
  cases scan.current with
  | none => rfl
  | some c => rfl

theorem finish_with (scan : Scan) (depth : Nat) (openString : Option (List Char)) :
    ({ scan with depth := depth, openString := openString } : Scan).finish = scan.finish := by
  rw [finish, closeClass_with, finish]

theorem topLevel_with (scan : Scan) (depth : Nat) (openString : Option (List Char))
    (text : List Char) :
    ({ scan with depth := depth, openString := openString } : Scan).topLevel text =
      { scan.topLevel text with depth := depth, openString := openString } := by
  simp only [topLevel, closeClass_with]
  cases declaredClass? text with
  | none => rfl
  | some name => rfl

/-- Statements do not look at what is open, and leave it open. -/
theorem statement_with (scan : Scan) (depth : Nat) (openString : Option (List Char))
    (indent : Nat) (text : List Char) :
    ({ scan with depth := depth, openString := openString } : Scan).statement indent text =
      { scan.statement indent text with depth := depth, openString := openString } := by
  by_cases top : indent = 0
  · simp only [statement, if_pos top, topLevel_with]
  · obtain ⟨classes, current, bodyIndent, block, blockIndent, _, _⟩ := scan
    cases current with
    | none => simp only [statement, if_neg top]
    | some c =>
        by_cases body : indent = bodyIndent.getD indent
        · simp only [statement, if_neg top, if_pos body, bodyStatement]
          cases declaredClass? text with
          | none => rfl
          | some name => rfl
        · by_cases deeper : bodyIndent.getD indent < indent
          · simp only [statement, if_neg top, if_neg body, if_pos deeper, blockStatement]
            cases block with
            | none => rfl
            | some last => rfl
          · simp only [statement, if_neg top, if_neg body, if_neg deeper]

theorem carry_with (scan : Scan) (indent : Nat) (text : List Char) (depth : Nat)
    (openString : Option (List Char)) :
    scan.carry indent text depth openString =
      { scan.carry indent text 0 none with depth := depth, openString := openString } := by
  unfold carry
  by_cases continued : 0 < scan.depth
  · simp only [if_pos continued]
  · simp only [if_neg continued, statement_with]

theorem carry_append {quote : Char} (quoted : isQuote quote = true) (scan : Scan)
    (indent : Nat) (before after : List Char) (depth : Nat) (openString : Option (List Char)) :
    scan.carry indent (before ++ quote :: after) depth openString =
      scan.carry indent before depth openString := by
  simp only [carry, statement_append quoted]

theorem line_of_openString {scan : Scan} {quote : List Char}
    (opened : scan.openString = some quote) (raw : List Char) :
    scan.line raw = if holds quote raw then { scan with openString := none } else scan := by
  rw [line, opened]

theorem line_of_closed {scan : Scan} (closed : scan.openString = none) (raw : List Char) :
    scan.line raw = scan.code (indentation raw) (trim (withoutComment .code raw)) := by
  rw [line, closed]

theorem line_nil (scan : Scan) (awaits : scan.AwaitsTriple) : scan.line [] = scan := by
  cases opened : scan.openString with
  | none =>
      rw [line_of_closed opened]
      rfl
  | some quote =>
      rw [line_of_openString opened]
      have absent : ∀ triple ∈ tripleQuotes, holds triple [] = false := by decide
      rw [absent quote (awaits quote opened)]
      rfl

/-- A line of code with a part that starts and ends with a quote: it declares what stands before
that part, and leaves open what the whole leaves open. -/
theorem line_enclosed {scan : Scan} {quote : Char} {start core rest kept : List Char}
    (closed : scan.openString = none) (quoted : isQuote quote = true)
    (first : core.head? = some quote) (last : core.getLast? = some quote)
    (read : withoutComment .code (start ++ core ++ rest) = start ++ core ++ kept) :
    scan.line (start ++ core ++ rest) = scan.carry (indentation start) (trimStart start)
      (bracketDepth scan.depth (start ++ core ++ kept))
      (openQuote? (trimStart start ++ core ++ trimEnd kept)) := by
  have stands := not_isBlank_of_isQuote quoted
  obtain ⟨more, shape⟩ := List.head?_eq_some_iff.mp first
  have something : trimStart start ++ core ++ trimEnd kept ≠ [] := by simp [shape]
  have depth : bracketDepth scan.depth (trimStart start ++ core ++ trimEnd kept) =
      bracketDepth scan.depth (start ++ core ++ kept) := by
    simp only [bracketDepth_append, bracketDepth_trimStart, bracketDepth_trimEnd]
  rw [line_of_closed closed, read, trim_enclosed stands first last, code_of_ne_nil _ _ something,
    depth, List.append_assoc, shape, List.cons_append, indentation_append stands,
    List.append_assoc, List.cons_append, carry_append quoted]

theorem openString_carry (scan : Scan) (indent : Nat) (text : List Char) (depth : Nat)
    (opened : Option (List Char)) :
    (scan.carry indent text depth opened).openString = opened := by
  rw [carry_with]

theorem awaitsTriple_line {scan : Scan} (awaits : scan.AwaitsTriple) (raw : List Char) :
    (scan.line raw).AwaitsTriple := by
  cases opened : scan.openString with
  | some quote =>
      rw [line_of_openString opened]
      split
      · intro other waited
        cases waited
      · exact awaits
  | none =>
      rw [line_of_closed opened]
      by_cases empty : trim (withoutComment .code raw) = []
      · rw [empty]
        exact awaits
      · rw [code_of_ne_nil _ _ empty]
        intro quote waited
        rw [openString_carry] at waited
        exact mem_tripleQuotes_of_openQuote? waited

theorem holds_concat_return {quote text : List Char} (triple : quote ∈ tripleQuotes) :
    holds quote (text ++ ['\r']) = holds quote text := by
  have ends : ∀ part ∈ tripleQuotes, part ≠ [] ∧ part.getLast? ≠ some '\r' := by decide
  obtain ⟨something, last⟩ := ends quote triple
  rw [Bool.eq_iff_iff, holds_iff, holds_iff]
  refine ⟨fun part => ?_, fun part => part.trans (List.prefix_append _ _).isInfix⟩
  rcases List.infix_concat_iff.mp part with suffix | inside
  · obtain ⟨before, split⟩ := suffix
    have same := congrArg List.getLast? split
    rw [List.getLast?_append, List.getLast?_eq_some_getLast something, List.getLast?_concat,
      Option.some_or, ← List.getLast?_eq_some_getLast something] at same
    exact absurd same last
  · exact inside

theorem line_concat_return {scan : Scan} (awaits : scan.AwaitsTriple) (raw : List Char) :
    scan.line (raw ++ ['\r']) = scan.line raw := by
  cases opened : scan.openString with
  | some quote =>
      rw [line_of_openString opened, line_of_openString opened,
        holds_concat_return (awaits quote opened)]
  | none =>
      rw [line_of_closed opened, line_of_closed opened]
      obtain ⟨more, added, split⟩ := exists_withoutComment_append .code raw ['\r']
      have text : trim (withoutComment .code (raw ++ ['\r'])) =
          trim (withoutComment .code raw) := by
        rw [split]
        rcases List.prefix_cons_iff.mp added with rfl | ⟨rest, rfl, nothing⟩
        · rw [List.append_nil]
        · rw [List.prefix_nil.mp nothing, trim_concat_blank (by decide)]
      rw [text]
      by_cases empty : trim (withoutComment .code raw) = []
      · rw [empty]
        rfl
      · obtain ⟨c, member, stands⟩ := exists_stands_of_trim_ne_nil empty
        obtain ⟨before, after, split⟩ :=
          List.append_of_mem ((withoutComment_starts .code raw).mem member)
        rw [split, List.append_assoc, List.cons_append, indentation_append stands,
          indentation_append stands]

theorem line_dropReturn {scan : Scan} (awaits : scan.AwaitsTriple) (raw : List Char) :
    scan.line (dropReturn raw) = scan.line raw := by
  unfold dropReturn
  split
  · next returned =>
      obtain ⟨before, rfl⟩ := List.getLast?_eq_some_iff.mp returned
      rw [List.dropLast_concat, line_concat_return awaits]
  · rfl

theorem foldl_dropReturn {scan : Scan} (awaits : scan.AwaitsTriple) (parts : List (List Char)) :
    (parts.map dropReturn).foldl line scan = parts.foldl line scan := by
  induction parts generalizing scan with
  | nil => rfl
  | cons part rest ih =>
      rw [List.map_cons, List.foldl_cons, line_dropReturn awaits, ih (awaitsTriple_line awaits _),
        List.foldl_cons]

theorem awaitsTriple_foldl {scan : Scan} (awaits : scan.AwaitsTriple) (parts : List (List Char)) :
    (parts.foldl line scan).AwaitsTriple := by
  induction parts generalizing scan with
  | nil => exact awaits
  | cons part rest ih => exact ih (awaitsTriple_line awaits part)

theorem foldl_lines {scan : Scan} (awaits : scan.AwaitsTriple) (text : List Char) :
    (lines text).foldl line scan = scan.run text := by
  have split : pieces '\n' text =
      (pieces '\n' text).dropLast ++ [(pieces '\n' text).getLast?.getD []] := by
    rw [List.getLast?_eq_some_getLast (pieces_ne_nil '\n' text), Option.getD_some,
      List.dropLast_concat_getLast]
  rw [run, split, lines, List.foldl_append, List.foldl_append, foldl_dropReturn awaits]
  cases (pieces '\n' text).getLast?.getD [] with
  | nil => exact (line_nil _ (awaitsTriple_foldl awaits _)).symm
  | cons c rest => rfl

theorem awaitsTriple_start : start.AwaitsTriple := by
  intro quote opened
  cases opened

theorem awaitsTriple_run {scan : Scan} (awaits : scan.AwaitsTriple) (text : List Char) :
    (scan.run text).AwaitsTriple :=
  awaitsTriple_foldl awaits (pieces '\n' text)

theorem run_of_line {text : List Char} (whole : '\n' ∉ text) (scan : Scan) :
    scan.run text = scan.line text := by
  rw [run, pieces_of_not_mem whole, List.foldl_cons, List.foldl_nil]

theorem run_append_break (scan : Scan) (first second : List Char) :
    scan.run (first ++ '\n' :: second) = (scan.run first).run second := by
  rw [run, pieces_append_separator, List.foldl_append, run, run]

theorem run_append {scan : Scan} (awaits : scan.AwaitsTriple) {first : List Char}
    (breaks : first = [] ∨ first.getLast? = some '\n') (second : List Char) :
    scan.run (first ++ second) = (scan.run first).run second := by
  rcases breaks with rfl | breaks
  · rw [run_of_line List.not_mem_nil, line_nil scan awaits, List.nil_append]
  · obtain ⟨before, rfl⟩ := List.getLast?_eq_some_iff.mp breaks
    rw [List.append_assoc, List.singleton_append, run_append_break, run_append_break,
      run_of_line List.not_mem_nil, line_nil _ (awaitsTriple_run awaits before)]

end Scan

end Modelwright.Outline

namespace Modelwright

theorem outline_eq_run (source : String) :
    outline source = (Outline.Scan.start.run source.toList).finish := by
  rw [outline, Outline.Scan.foldl_lines Outline.Scan.awaitsTriple_start]

end Modelwright
