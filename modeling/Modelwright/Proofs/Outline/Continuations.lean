import Modelwright.Proofs.Outline.Composition
import Modelwright.Proofs.Outline.Contents
import Modelwright.Proofs.Text.Pieces

namespace Modelwright.Outline

open Modelwright.Text

/-! Statements of several lines. -/

/-- The number of open brackets behind a text; none if a bracket is closed that is not open, or if a
line ends outside all brackets. -/
def openBehind? (depth : Nat) : List Char → Option Nat
  | [] => some depth
  | c :: rest =>
    if isOpening c then openBehind? (depth + 1) rest
    else if depth = 0 ∧ (isClosing c = true ∨ c = '\n') then none
    else openBehind? (if isClosing c then depth - 1 else depth) rest

structure IsBare (text : List Char) : Prop where
  quoteless : ∀ c ∈ text, isQuote c = false
  uncommented : '#' ∉ text

/-- A text without quotes and comments, in which all brackets are closed and the lines end in
brackets only. -/
structure IsCode (text : List Char) : Prop extends IsBare text where
  closed : openBehind? 0 text = some 0

instance (text : List Char) : Decidable (IsCode text) :=
  decidable_of_iff
    ((text.all (!isQuote ·) = true ∧ '#' ∉ text) ∧ openBehind? 0 text = some 0)
    ⟨fun ⟨⟨quoteless, uncommented⟩, closed⟩ => ⟨⟨by simpa using quoteless, uncommented⟩, closed⟩,
      fun code => ⟨⟨by simpa using code.quoteless, code.uncommented⟩, code.closed⟩⟩

theorem openBehind?_append (depth : Nat) (first second : List Char) :
    openBehind? depth (first ++ second) =
      (openBehind? depth first).bind (openBehind? · second) := by
  induction first generalizing depth with
  | nil => rfl
  | cons c rest ih =>
      rw [List.cons_append, openBehind?, openBehind?]
      split
      · exact ih _
      · split
        · rfl
        · exact ih _

theorem bracketDepth_of_openBehind? {depth last : Nat} {text : List Char}
    (behind : openBehind? depth text = some last) : bracketDepth depth text = last := by
  induction text generalizing depth with
  | nil => exact Option.some.inj behind
  | cons c rest ih =>
      rw [openBehind?] at behind
      rw [← List.singleton_append, bracketDepth_append]
      split at behind
      · next opening => simpa [bracketDepth, opening] using ih behind
      · next noOpening =>
          split at behind
          · cases behind
          · simpa [bracketDepth, noOpening] using ih behind

theorem openBehind?_break {depth last : Nat} {first rest : List Char}
    (behind : openBehind? depth (first ++ '\n' :: rest) = some last) :
    ∃ inside, openBehind? depth first = some inside ∧ 0 < inside ∧
      openBehind? inside rest = some last := by
  rw [openBehind?_append, Option.bind_eq_some_iff] at behind
  obtain ⟨inside, reached, later⟩ := behind
  rw [openBehind?, if_neg (by decide)] at later
  split at later
  · cases later
  · next within =>
      exact ⟨inside, reached, by simpa [Nat.pos_iff_ne_zero] using within, later⟩

namespace IsBare

variable {text : List Char}

theorem of_subset {part : List Char} (bare : IsBare text) (within : part ⊆ text) : IsBare part where
  quoteless := fun c member => bare.quoteless c (within member)
  uncommented := fun member => bare.uncommented (within member)

theorem append {first second : List Char} (firstBare : IsBare first) (secondBare : IsBare second) :
    IsBare (first ++ second) where
  quoteless := List.forall_mem_append.mpr ⟨firstBare.quoteless, secondBare.quoteless⟩
  uncommented := by simp [firstBare.uncommented, secondBare.uncommented]

theorem withoutComment_eq (bare : IsBare text) : withoutComment .code text = text := by
  induction text with
  | nil => rfl
  | cons c rest ih =>
      have noQuote := bare.quoteless c List.mem_cons_self
      have noComment : c ≠ '#' := fun same => bare.uncommented (same ▸ List.mem_cons_self)
      rw [withoutComment, if_neg fun comment => noComment comment.2, QuoteState.step, noQuote,
        if_neg Bool.false_ne_true, ih (bare.of_subset (List.subset_cons_self c rest))]

theorem openQuote?_eq (bare : IsBare text) : openQuote? text = none := by
  refine openQuote?_eq_none_iff.mpr fun part listed => ?_
  obtain ⟨quote, quoted, rfl⟩ := mem_tripleQuotes_iff.mp listed
  have absent : holds (triple quote) text = false := by
    rw [← Bool.not_eq_true, holds_iff]
    intro inside
    have noQuote := bare.quoteless quote (inside.subset List.mem_cons_self)
    exact Bool.false_ne_true (noQuote.symm.trans quoted)
  rw [occurrences_of_not_holds absent]

theorem trim (bare : IsBare text) : IsBare (trim text) :=
  bare.of_subset fun _ => mem_of_mem_trim

end IsBare

namespace Scan

variable {scan : Scan}

theorem does_eq_with (scan : Scan) (s : Statement) :
    scan.does s = { scan.does s with depth := scan.depth, openString := scan.openString } :=
  statement_with scan scan.depth scan.openString s.indent s.text

theorem isFresh_does (fresh : scan.isFresh = true) (s : Statement) :
    (scan.does s).isFresh = true := by
  rw [does_eq_with]
  exact fresh

theorem bracketDepth_trim (depth : Nat) (text : List Char) :
    bracketDepth depth (trim text) = bracketDepth depth text := by
  rw [trim, bracketDepth_trimEnd, bracketDepth_trimStart]

theorem line_continued (inside : 0 < scan.depth) (closed : scan.openString = none)
    {raw : List Char} (bare : IsBare raw) :
    scan.line raw = { scan with depth := bracketDepth scan.depth raw } := by
  rw [line_of_closed closed, bare.withoutComment_eq]
  by_cases blank : trim raw = []
  · -- A blank line is passed over before its brackets are counted, but it has none.
    have still := bracketDepth_trim scan.depth raw
    rw [blank] at still
    rw [blank, ← still]
    rfl
  · rw [code_of_ne_nil _ _ blank, carry, if_pos inside, bracketDepth_trim,
      bare.trim.openQuote?_eq, closed]

theorem run_continued {scan : Scan} {text : List Char} {last : Nat} (inside : 0 < scan.depth)
    (closed : scan.openString = none) (bare : IsBare text)
    (behind : openBehind? scan.depth text = some last) :
    scan.run text = { scan with depth := last } := by
  -- One line after the other; the text behind the first line break is shorter.
  by_cases breaks : '\n' ∈ text
  · obtain ⟨first, rest, rfl, whole⟩ := List.eq_append_cons_of_mem breaks
    obtain ⟨middle, reached, within, later⟩ := openBehind?_break behind
    have firstBare := bare.of_subset (List.subset_append_left first ('\n' :: rest))
    have restBare : IsBare rest :=
      bare.of_subset fun c member => List.mem_append_right _ (List.mem_cons_of_mem _ member)
    rw [run_append_break, run_of_line whole, line_continued inside closed firstBare,
      bracketDepth_of_openBehind? reached]
    have settled : ({ scan with depth := middle } : Scan).openString = none := closed
    exact run_continued within settled restBare later
  · rw [run_of_line breaks, line_continued inside closed bare, bracketDepth_of_openBehind? behind]
termination_by text.length

section Margins

variable {margin : List Char} (blank : ∀ c ∈ margin, c = ' ' ∨ c = '\t')
include blank

theorem isBare_margin : IsBare margin where
  quoteless := by
    intro c member
    rcases blank c member with rfl | rfl
    · decide
    · decide
  uncommented := by
    intro member
    rcases blank '#' member with other | other
    · cases other
    · cases other

theorem isBlank_of_margin : ∀ c ∈ margin, isBlank c = true := by
  intro c member
  rcases blank c member with rfl | rfl
  · decide
  · decide

theorem break_not_mem_margin : '\n' ∉ margin := by
  intro member
  rcases blank '\n' member with other | other
  · cases other
  · cases other

theorem line_started (fresh : scan.isFresh = true) {raw : List Char} {c : Char} (bare : IsBare raw)
    (leads : raw.head? = some c) (stands : isBlank c = false) :
    scan.line (margin ++ raw) =
      { scan.does ⟨indentation margin, trim raw⟩ with depth := bracketDepth 0 raw } := by
  obtain ⟨closed, outside⟩ := isFresh_iff.mp fresh
  have whole := (isBare_margin blank).append bare
  have text : trim (margin ++ raw) = trim raw := by
    rw [trim, trimStart_append_of_blank (isBlank_of_margin blank), trim]
  obtain ⟨rest, rfl⟩ := List.head?_eq_some_iff.mp leads
  have something : trim (c :: rest) ≠ [] := by
    rw [trim, trimStart, List.dropWhile_cons_of_neg (by simp [stands]), ← List.nil_append (c :: _),
      trimEnd_append stands]
    exact List.cons_ne_nil _ _
  rw [line_of_closed closed, whole.withoutComment_eq, text, code_of_ne_nil _ _ something,
    indentation_append stands, carry, if_neg (by omega), bare.trim.openQuote?_eq, bracketDepth_trim,
    statement_with, outside, does_eq_with scan, closed]
  rfl

/-- A statement of one line or of several has the effect of its first line. -/
theorem run_statement (fresh : scan.isFresh = true) {text : List Char} {c : Char}
    (code : IsCode text) (leads : text.head? = some c) (stands : isBlank c = false) :
    scan.run (margin ++ text) = scan.does ⟨indentation margin, trim (firstLine text)⟩ := by
  obtain ⟨closed, outside⟩ := isFresh_iff.mp fresh
  have marginWhole := break_not_mem_margin blank
  have same (s : Statement) : scan.does s = { scan.does s with depth := 0 } := by
    rw [does_eq_with, outside]
  by_cases breaks : '\n' ∈ text
  · obtain ⟨first, rest, rfl, whole⟩ := List.eq_append_cons_of_mem breaks
    obtain ⟨inside, reached, within, later⟩ := openBehind?_break code.closed
    have firstBare := code.toIsBare.of_subset (List.subset_append_left first ('\n' :: rest))
    have restBare : IsBare rest := code.toIsBare.of_subset fun c member =>
      List.mem_append_right _ (List.mem_cons_of_mem _ member)
    have firstLeads : first.head? = some c := by
      cases first with
      | nil =>
          obtain rfl := Option.some.inj leads
          cases stands
      | cons d more => exact leads
    have lineWhole : '\n' ∉ margin ++ first := by simp [marginWhole, whole]
    rw [firstLine_append_break whole, ← List.append_assoc, run_append_break,
      run_of_line lineWhole, line_started blank fresh firstBare
      firstLeads stands, bracketDepth_of_openBehind? reached]
    refine (run_continued within ?_ restBare later).trans (same _).symm
    rw [does_eq_with]
    exact closed
  · have lineWhole : '\n' ∉ margin ++ text := by simp [marginWhole, breaks]
    rw [firstLine_of_not_mem breaks, run_of_line lineWhole, line_started blank fresh
      code.toIsBare leads stands, bracketDepth_of_openBehind? code.closed]
    exact (same _).symm

end Margins

end Scan

end Modelwright.Outline
