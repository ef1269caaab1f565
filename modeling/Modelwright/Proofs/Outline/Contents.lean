import Modelwright.Proofs.Outline.Literals
import Modelwright.Proofs.Outline.Run

namespace Modelwright.Outline

open Modelwright.Text Modelwright.Target

/-! Contents of string literals.  As long as they hold nothing that looks like the end of a literal,
the outline looks into them for one thing only: it counts the brackets of their first line. -/

def firstLine (text : List Char) : List Char :=
  text.takeWhile (· ≠ '\n')

/-- The start of a line that a literal may stand behind, with no string and no comment open. -/
structure Clear (start : List Char) : Prop where
  oneLine : '\n' ∉ start
  code : Passes .code start .code
  even : openQuote? start = none
  unquoted : ∀ c ∈ start.getLast?, isQuote c = false

/-- A place in a module where a scan has no string open. -/
structure InStep (above start : List Char) : Prop extends Clear start where
  breaks : above = [] ∨ above.getLast? = some '\n'
  closed : (Scan.start.run above).openString = none

def depthAt (above start : List Char) : Nat :=
  bracketDepth (Scan.start.run above).depth start

/-- The contents of a literal, in which nothing looks like the end of one to a scan. -/
structure Unseen (kind : LiteralKind) (body : List Char) : Prop extends kind.IsBody body where
  inside : kind.long = true → Stays (.string kind.quote) (firstLine body)
  triples : ∀ part ∈ tripleQuotes, holds part (firstLine body) = false
  later : holds (triple kind.quote) body = false

theorem firstLine_of_not_mem {text : List Char} (whole : '\n' ∉ text) : firstLine text = text := by
  refine List.takeWhile_eq_self_iff.mpr fun c member => ?_
  have apart : c ≠ '\n' := by
    rintro rfl
    exact whole member
  simpa using apart

theorem firstLine_append_break {first rest : List Char} (whole : '\n' ∉ first) :
    firstLine (first ++ '\n' :: rest) = first := by
  rw [firstLine, takeWhile_append_stop (by simp)]
  exact firstLine_of_not_mem whole

theorem stays_firstLine {kind : LiteralKind} {body : List Char} (unseen : Unseen kind body) :
    Stays (.string kind.quote) (firstLine body) := by
  cases long : kind.long with
  | true => exact unseen.inside long
  | false =>
      rw [firstLine_of_not_mem (unseen.oneLine long)]
      have within := unseen.within
      rw [LiteralKind.mode, long] at within
      exact (stays_of_run_short (ne_backslash_of_isQuote kind.quoted) body).1 within

namespace Clear

variable {start : List Char}

theorem apart (clear : Clear start) {quote : Char} (quoted : isQuote quote = true)
    (after : List Char) : Apart quote (trimStart start) after := by
  refine .inl fun last => ?_
  obtain ⟨before, split⟩ := List.dropWhile_suffix (l := start) isBlank
  obtain ⟨more, ends⟩ := List.getLast?_eq_some_iff.mp last
  rw [trimStart] at ends
  rw [ends, ← List.append_assoc] at split
  have quoteLast : start.getLast? = some quote := by rw [← split, List.getLast?_concat]
  simp [clear.unquoted quote quoteLast] at quoted

theorem even_trimStart (clear : Clear start) {part : List Char} (listed : part ∈ tripleQuotes) :
    occurrences part (trimStart start) % 2 = 0 := by
  have even := openQuote?_eq_none_iff.mp clear.even part listed
  obtain ⟨quote, quoted, rfl⟩ := mem_tripleQuotes_iff.mp listed
  have blankless : quote ∉ start.takeWhile isBlank := by
    intro member
    simpa [not_isBlank_of_isQuote quoted] using List.mem_takeWhile_imp member
  have absent : holds (triple quote) (start.takeWhile isBlank) = false := by
    rw [← Bool.not_eq_true, holds_iff]
    exact fun inside => blankless (inside.mem List.mem_cons_self)
  have border : Apart quote (start.takeWhile isBlank) (trimStart start) :=
    .inl fun last => blankless (List.mem_of_getLast? last)
  rw [← List.takeWhile_append_dropWhile (p := isBlank) (l := start), ← trimStart,
    occurrences_append border, occurrences_of_not_holds absent, Nat.zero_add] at even
  exact even

end Clear

section Open

variable {kind : LiteralKind} {start body after : List Char}

theorem openQuote?_opening (clear : Clear start) (long : kind.long = true)
    (stays : Stays (.string kind.quote) body)
    (absent : ∀ part ∈ tripleQuotes, holds part body = false) :
    openQuote? (trimStart start ++ kind.delimiter ++ body) = some (triple kind.quote) := by
  have count : ∀ part ∈ tripleQuotes,
      occurrences part (trimStart start ++ kind.delimiter ++ body) % 2 =
        if part = triple kind.quote then 1 else 0 := by
    intro part listed
    have own := kind.triples_of_opening stays (absent part listed) listed
    have even := clear.even_trimStart listed
    obtain ⟨quote, quoted, rfl⟩ := mem_tripleQuotes_iff.mp listed
    rw [List.append_assoc, occurrences_append (clear.apart quoted _), own, Nat.add_mod, even,
      kind.occurrences_delimiter long listed]
    split
    · rfl
    · rfl
  have listed : triple kind.quote ∈ tripleQuotes :=
    mem_tripleQuotes_iff.mpr ⟨kind.quote, kind.quoted, rfl⟩
  refine openQuote?_of_only listed ?_ fun other member differs => ?_
  · rw [count _ listed, if_pos rfl]
  · rw [count other member, if_neg differs]

theorem triples_of_unseen (unseen : Unseen kind body)
    (oneLine : '\n' ∉ body) :
    ∀ part ∈ tripleQuotes,
      occurrences part (kind.literal body) = 2 * occurrences part kind.delimiter ∧
        indexOf? part (kind.literal body) = indexOf? part kind.delimiter := by
  intro part listed
  have stays := stays_firstLine unseen
  have absent := unseen.triples part listed
  rw [firstLine_of_not_mem oneLine] at stays absent
  exact kind.triples_of_literal stays absent listed

theorem openQuote?_literal (clear : Clear start) (unseen : Unseen kind body)
    (oneLine : '\n' ∉ body) :
    openQuote? (trimStart start ++ kind.literal body) = none := by
  refine openQuote?_eq_none_iff.mpr fun part listed => ?_
  have even := clear.even_trimStart listed
  have own := (triples_of_unseen unseen oneLine part listed).1
  obtain ⟨quote, quoted, rfl⟩ := mem_tripleQuotes_iff.mp listed
  rw [occurrences_append (clear.apart quoted _), own]
  omega

theorem bare_of_starts {text first : List Char} (bare : Skeleton.Bare text)
    (starts : first <+: text) : Skeleton.Bare first := by
  obtain ⟨rest, rfl⟩ := starts
  intro c head
  exact bare c (by rw [List.head?_append, Option.mem_def.mp head, Option.some_or]; rfl)

theorem bordered_literal (clear : Clear start) (kind : LiteralKind) (body : List Char)
    (bare : Skeleton.Bare after) : Bordered (trimStart start) (kind.literal body) after where
  something := by
    obtain ⟨rest, shape⟩ := List.head?_eq_some_iff.mp (kind.head?_literal body)
    simp [shape]
  enters := fun quote quoted => clear.apart quoted _
  leaves := fun quote quoted => .inr fun first =>
    Bool.false_ne_true ((bare quote first).symm.trans quoted)

theorem openQuote?_literal_congr {first second : List Char} (clear : Clear start)
    (firstUnseen : Unseen kind first) (secondUnseen : Unseen kind second)
    (firstLine : '\n' ∉ first) (secondLine : '\n' ∉ second) (bare : Skeleton.Bare after) :
    openQuote? (trimStart start ++ kind.literal first ++ after) =
      openQuote? (trimStart start ++ kind.literal second ++ after) := by
  have one := triples_of_unseen firstUnseen firstLine
  have other := triples_of_unseen secondUnseen secondLine
  refine openQuote?_middle (bordered_literal clear kind first bare)
    (bordered_literal clear kind second bare) (fun part listed => ?_) fun part listed => ?_
  · rw [(one part listed).1, (other part listed).1]
  · rw [(one part listed).2, (other part listed).2]

end Open

namespace Scan

variable {scan : Scan} {kind : LiteralKind} {start body tail : List Char}

theorem line_literal (clear : Clear start) (closed : scan.openString = none)
    (isBody : kind.IsBody body) (stays : Stays (.string kind.quote) body) (tail : List Char) :
    scan.line (start ++ kind.literal body ++ tail) =
      scan.carry (indentation start) (trimStart start)
        (bracketDepth (bracketDepth (bracketDepth scan.depth start) body)
          (withoutComment .code tail))
        (openQuote?
          (trimStart start ++ kind.literal body ++ trimEnd (withoutComment .code tail))) := by
  have passes := clear.code.append (LiteralKind.passes_literal isBody stays)
  have read := withoutComment_append passes.kept tail
  rw [passes.reaches] at read
  rw [line_enclosed closed kind.quoted (kind.head?_literal body) (kind.getLast?_literal body) read]
  simp only [bracketDepth_append, LiteralKind.literal, kind.bracketDepth_delimiter]

theorem line_opening (clear : Clear start) (closed : scan.openString = none)
    (long : kind.long = true) (stays : Stays (.string kind.quote) body)
    (absent : ∀ part ∈ tripleQuotes, holds part body = false) :
    scan.line (start ++ kind.delimiter ++ body) =
      scan.carry (indentation start) (trimStart start)
        (bracketDepth (bracketDepth scan.depth start) body) (some (triple kind.quote)) := by
  have passes := (clear.code.append kind.passes_delimiter.1).append
    ⟨stays.withoutComment_eq, rfl⟩
  have starts := trimEnd_starts body
  have opened := openQuote?_opening clear long (stays.of_starts starts) fun part listed =>
    not_holds_of_starts (absent part listed) starts
  rw [line_enclosed closed kind.quoted kind.head?_delimiter kind.getLast?_delimiter passes.kept,
    opened]
  simp only [bracketDepth_append, kind.bracketDepth_delimiter]

theorem run_closing {quote rest : List Char} (opened : scan.openString = some quote)
    (oneLine : '\n' ∉ quote) (absent : holds quote rest = false) (whole : '\n' ∉ tail) :
    scan.run (rest ++ quote ++ tail) = { scan with openString := none } := by
  -- A line that lacks the quote changes nothing, and the last one has it.
  by_cases breaks : '\n' ∈ rest
  · obtain ⟨first, more, rfl, firstWhole⟩ := List.eq_append_cons_of_mem breaks
    have firstAbsent : holds quote first = false :=
      not_holds_of_starts absent (List.prefix_append _ _)
    have moreAbsent : holds quote more = false := not_holds_of_later absent
    rw [List.append_assoc, List.append_assoc, List.cons_append, run_append_break,
      run_of_line firstWhole, line_of_openString opened, firstAbsent, if_neg (by simp),
      ← List.append_assoc]
    exact run_closing opened oneLine moreAbsent whole
  · have oneLine : '\n' ∉ rest ++ quote ++ tail := by simp [breaks, oneLine, whole]
    have found : holds quote (rest ++ quote ++ tail) = true :=
      holds_iff.mpr ⟨rest, tail, rfl⟩
    rw [run_of_line oneLine, line_of_openString opened, if_pos found]
termination_by rest.length

theorem run_literal_of_break (clear : Clear start) (closed : scan.openString = none)
    (unseen : Unseen kind body) (breaks : '\n' ∈ body)
    (whole : '\n' ∉ tail) :
    scan.run (start ++ kind.literal body ++ tail) =
      scan.carry (indentation start) (trimStart start)
        (bracketDepth (bracketDepth scan.depth start) (firstLine body)) none := by
  have long : kind.long = true := by
    by_contra short
    exact unseen.oneLine (Bool.not_eq_true _ ▸ short) breaks
  have stays := stays_firstLine unseen
  have absent := unseen.triples
  obtain ⟨first, rest, rfl, firstWhole⟩ := List.eq_append_cons_of_mem breaks
  rw [firstLine_append_break firstWhole] at stays absent ⊢
  have restAbsent : holds kind.delimiter rest = false := by
    rw [LiteralKind.delimiter, if_pos long]
    exact not_holds_of_later unseen.later
  have split : start ++ kind.literal (first ++ '\n' :: rest) ++ tail =
      (start ++ kind.delimiter ++ first) ++ '\n' :: (rest ++ kind.delimiter ++ tail) := by
    simp [LiteralKind.literal]
  have openingWhole : '\n' ∉ start ++ kind.delimiter ++ first := by
    simp [clear.oneLine, kind.break_not_mem_delimiter, firstWhole]
  rw [split, run_append_break, run_of_line openingWhole,
    line_opening clear closed long stays absent, carry_with]
  have delimiter : kind.delimiter = triple kind.quote := if_pos long
  rw [run_closing (congrArg some delimiter.symm) kind.break_not_mem_delimiter restAbsent whole]
  exact (carry_with scan _ _ _ none).symm

theorem run_literal_of_line (clear : Clear start) (closed : scan.openString = none)
    (unseen : Unseen kind body) (oneLine : '\n' ∉ body)
    (whole : '\n' ∉ tail) :
    scan.run (start ++ kind.literal body ++ tail) =
      scan.carry (indentation start) (trimStart start)
        (bracketDepth (bracketDepth (bracketDepth scan.depth start) (firstLine body))
          (withoutComment .code tail))
        (openQuote?
          (trimStart start ++ kind.literal body ++ trimEnd (withoutComment .code tail))) := by
  have stays := stays_firstLine unseen
  rw [firstLine_of_not_mem oneLine] at stays ⊢
  have lineWhole : '\n' ∉ start ++ kind.literal body ++ tail := by
    simp [LiteralKind.literal, clear.oneLine, kind.break_not_mem_delimiter, oneLine, whole]
  rw [run_of_line lineWhole, line_literal clear closed unseen.toIsBody stays]

/-- Behind a literal no string is open, and the depth is that of its first line. -/
theorem run_literal (clear : Clear start) (closed : scan.openString = none)
    (unseen : Unseen kind body) :
    scan.run (start ++ kind.literal body) =
      scan.carry (indentation start) (trimStart start)
        (bracketDepth (bracketDepth scan.depth start) (firstLine body)) none := by
  by_cases breaks : '\n' ∈ body
  · simpa using run_literal_of_break clear closed unseen breaks List.not_mem_nil
  · have line : scan.run (start ++ kind.literal body ++ []) = _ :=
      run_literal_of_line clear closed unseen breaks List.not_mem_nil
    simpa [withoutComment, trimEnd, openQuote?_literal clear unseen breaks, bracketDepth]
      using line

theorem run_literal_congr {first second : List Char} (clear : Clear start)
    (closed : scan.openString = none) (firstUnseen : Unseen kind first)
    (secondUnseen : Unseen kind second) (breaks : '\n' ∈ first ↔ '\n' ∈ second)
    (depth : bracketDepth (bracketDepth scan.depth start) (firstLine first) =
      bracketDepth (bracketDepth scan.depth start) (firstLine second))
    (whole : '\n' ∉ tail) (bare : Skeleton.Bare tail) :
    scan.run (start ++ kind.literal first ++ tail) =
      scan.run (start ++ kind.literal second ++ tail) := by
  by_cases firstBreaks : '\n' ∈ first
  · rw [run_literal_of_break clear closed firstUnseen firstBreaks whole,
      run_literal_of_break clear closed secondUnseen (breaks.mp firstBreaks) whole, depth]
  · have secondLine := mt breaks.mpr firstBreaks
    have rest := bare_of_starts bare
      ((trimEnd_starts _).trans (withoutComment_starts .code tail))
    rw [run_literal_of_line clear closed firstUnseen firstBreaks whole,
      run_literal_of_line clear closed secondUnseen secondLine whole, depth,
      openQuote?_literal_congr clear firstUnseen secondUnseen firstBreaks secondLine rest]

theorem run_literal_append_congr {first second after : List Char} (clear : Clear start)
    (closed : scan.openString = none) (firstUnseen : Unseen kind first)
    (secondUnseen : Unseen kind second) (breaks : '\n' ∈ first ↔ '\n' ∈ second)
    (depth : bracketDepth (bracketDepth scan.depth start) (firstLine first) =
      bracketDepth (bracketDepth scan.depth start) (firstLine second))
    (bare : Skeleton.Bare after) :
    scan.run (start ++ kind.literal first ++ after) =
      scan.run (start ++ kind.literal second ++ after) := by
  by_cases whole : '\n' ∈ after
  · obtain ⟨tail, later, rfl, tailWhole⟩ := List.eq_append_cons_of_mem whole
    have tailBare := bare_of_starts bare (List.prefix_append _ _)
    rw [← List.append_assoc, run_append_break, ← List.append_assoc, run_append_break,
      run_literal_congr clear closed firstUnseen secondUnseen breaks depth tailWhole tailBare]
  · exact run_literal_congr clear closed firstUnseen secondUnseen breaks depth whole bare

def closers (count : Nat) : List Char :=
  (List.replicate count ")\n".toList).flatten

def newClass : List Char := "class Z:".toList

theorem line_closer (closed : scan.openString = none) (inside : 0 < scan.depth) :
    scan.line ")".toList = { scan with depth := scan.depth - 1 } := by
  have text : trim (withoutComment .code ")".toList) = ")".toList := by decide
  have opened : openQuote? ")".toList = none := by decide
  rw [line_of_closed closed, text, code_of_ne_nil _ _ (by decide), opened, carry, if_pos inside,
    ← closed]
  rfl

theorem run_closers (scan : Scan) {count : Nat} (closed : scan.openString = none)
    (enough : count ≤ scan.depth) (text : List Char) :
    scan.run (closers count ++ text) =
      ({ scan with depth := scan.depth - count } : Scan).run text := by
  induction count generalizing scan with
  | zero => rfl
  | succ count ih =>
      have split : closers (count + 1) ++ text = ")".toList ++ '\n' :: (closers count ++ text) := by
        simp [closers, List.replicate_succ]
      have whole : '\n' ∉ ")".toList := by decide
      have next : count ≤ ({ scan with depth := scan.depth - 1 } : Scan).depth :=
        Nat.le_sub_one_of_lt enough
      rw [split, run_append_break, run_of_line whole, line_closer closed (by omega),
        ih { scan with depth := scan.depth - 1 } closed next]
      simp only [Nat.sub_sub, Nat.add_comm 1]

theorem length_finish_newClass (closed : scan.openString = none) :
    (scan.run newClass).finish.length = scan.finish.length + if scan.depth = 0 then 1 else 0 := by
  have text : trim (withoutComment .code newClass) = newClass := by decide
  have name : declaredClass? newClass = some "Z" := by decide
  have top : indentation newClass = 0 := by decide
  rw [run_of_line (by decide), line_of_closed closed, text, code_of_ne_nil _ _ (by decide), carry]
  by_cases inside : 0 < scan.depth
  · rw [if_pos inside, if_neg (by omega), finish_with, Nat.add_zero]
  · rw [if_neg inside, if_pos (by omega), statement_with, finish_with, statement, if_pos top,
      topLevel, name]
    simp [finish, closeClass]

theorem length_finish_closers (scan : Scan) (closed : scan.openString = none) {count : Nat}
    (enough : count ≤ scan.depth) :
    (scan.run (closers count ++ newClass)).finish.length =
      scan.finish.length + if scan.depth = count then 1 else 0 := by
  have after : ({ scan with depth := scan.depth - count } : Scan).openString = none := closed
  have kept : ({ scan with depth := scan.depth - count } : Scan).finish = scan.finish :=
    finish_with scan (scan.depth - count) scan.openString
  rw [run_closers scan closed enough, length_finish_newClass after, kept]
  congr 2
  simp only [eq_iff_iff]
  omega

theorem finish_ne_of_depth_lt (scan : Scan) {depth deeper : Nat} (less : depth < deeper) :
    (({ scan with depth := depth, openString := none } : Scan).run
        (closers depth ++ newClass)).finish ≠
      (({ scan with depth := deeper, openString := none } : Scan).run
        (closers depth ++ newClass)).finish := by
  intro same
  have listed := length_finish_closers { scan with depth := depth, openString := none } rfl
    (le_refl depth)
  have swallowed := length_finish_closers { scan with depth := deeper, openString := none } rfl
    less.le
  rw [finish_with scan depth none, if_pos rfl, same] at listed
  rw [finish_with scan deeper none, if_neg less.ne', listed] at swallowed
  omega

end Scan

theorem outline_ofList (text : List Char) :
    outline (.ofList text) = (Scan.start.run text).finish := by
  rw [outline_eq_run, String.toList_ofList]

theorem run_literal_break {above start body : List Char} {kind : LiteralKind}
    (place : InStep above start) (unseen : Unseen kind body) (text : List Char) :
    (Scan.start.run above).run (start ++ kind.literal body ++ '\n' :: text) =
      ({ (Scan.start.run above).carry (indentation start) (trimStart start) 0 none with
        depth := bracketDepth (depthAt above start) (firstLine body)
        openString := none } : Scan).run text := by
  rw [Scan.run_append_break, Scan.run_literal place.toClear place.closed unseen, Scan.carry_with,
    depthAt]

/-- Of two literals in one place, the outline is the same before every continuation exactly if their
first lines have as many brackets open. -/
theorem outline_literal_eq_iff {above start first second : List Char} {kind : LiteralKind}
    (place : InStep above start) (firstUnseen : Unseen kind first)
    (secondUnseen : Unseen kind second) (breaks : '\n' ∈ first ↔ '\n' ∈ second) :
    (∀ after, Skeleton.Bare after →
        outline (.ofList (above ++ start ++ kind.literal first ++ after)) =
          outline (.ofList (above ++ start ++ kind.literal second ++ after))) ↔
      bracketDepth (depthAt above start) (firstLine first) =
        bracketDepth (depthAt above start) (firstLine second) := by
  have run : ∀ body after, outline (.ofList (above ++ start ++ kind.literal body ++ after)) =
      ((Scan.start.run above).run (start ++ kind.literal body ++ after)).finish := by
    intro body after
    have split : above ++ start ++ kind.literal body ++ after =
        above ++ (start ++ kind.literal body ++ after) := by
      simp only [List.append_assoc]
    rw [outline_ofList, split, Scan.run_append Scan.awaitsTriple_start place.breaks]
  simp only [run]
  constructor
  · intro same
    -- Once the brackets of the smaller depth are closed, only one of the two lists a new class.
    have probed : ∀ depth, _ := fun depth =>
      same ('\n' :: (Scan.closers depth ++ Scan.newClass)) fun c first => by cases first; rfl
    simp only [run_literal_break place firstUnseen, run_literal_break place secondUnseen] at probed
    by_contra differs
    rcases Nat.lt_or_gt_of_ne differs with less | less
    · exact Scan.finish_ne_of_depth_lt _ less (probed _)
    · exact Scan.finish_ne_of_depth_lt _ less (probed _).symm
  · intro depth after bare
    rw [Scan.run_literal_append_congr place.toClear place.closed firstUnseen secondUnseen breaks
      depth bare]

def docstring : LiteralKind := ⟨'"', rfl, true⟩

/-- Two docstrings of several lines, with brackets and an apostrophe in them. -/
theorem outline_docstring_eq :
    InStep "class A:\n".toList "    ".toList ∧
      Unseen docstring "Adds (two) numbers.\n\n    Don't :(\n    ".toList ∧
      Unseen docstring "It's a sum.\n    ".toList ∧
      ∀ after, Skeleton.Bare after →
        outline (.ofList ("class A:\n".toList ++ "    ".toList ++
            docstring.literal "Adds (two) numbers.\n\n    Don't :(\n    ".toList ++ after)) =
          outline (.ofList ("class A:\n".toList ++ "    ".toList ++
            docstring.literal "It's a sum.\n    ".toList ++ after)) := by
  have place : InStep "class A:\n".toList "    ".toList :=
    { oneLine := by decide
      code := ⟨by decide, by decide⟩
      even := by decide
      unquoted := fun c last => by
        cases last
        rfl
      breaks := by decide
      closed := by decide +kernel }
  have firstUnseen : Unseen docstring "Adds (two) numbers.\n\n    Don't :(\n    ".toList :=
    { within := by decide +kernel
      oneLine := by decide
      inside := by decide +kernel
      triples := by decide +kernel
      later := by decide +kernel }
  have secondUnseen : Unseen docstring "It's a sum.\n    ".toList :=
    { within := by decide +kernel
      oneLine := by decide
      inside := by decide +kernel
      triples := by decide +kernel
      later := by decide +kernel }
  have breaks : '\n' ∈ "Adds (two) numbers.\n\n    Don't :(\n    ".toList ↔
      '\n' ∈ "It's a sum.\n    ".toList := by
    decide +kernel
  exact ⟨place, firstUnseen, secondUnseen,
    (outline_literal_eq_iff place firstUnseen secondUnseen breaks).mpr (by decide +kernel)⟩

/-- A bracket in a docstring hides all that follows it. -/
theorem docstring_hides_classes :
    let module : List Char → String := fun body => .ofList ("class A:\n    ".toList ++
      docstring.literal body ++ "\n    y = 1\nclass B:\n    z = 1\n".toList)
    Skeleton.run .code "class A:\n    ".toList = (.code, "class A:\n    ".toList) ∧
      docstring.IsBody "Sad :(".toList ∧ docstring.IsBody "Sad".toList ∧
      outline (module "Sad :(".toList) = [⟨"A", [], []⟩] ∧
      outline (module "Sad".toList) = [⟨"A", ["y"], []⟩, ⟨"B", ["z"], []⟩] := by
  refine ⟨by decide +kernel, ⟨by decide +kernel, by decide⟩, ⟨by decide +kernel, by decide⟩, ?_, ?_⟩
  · decide +kernel
  · decide +kernel

end Modelwright.Outline
