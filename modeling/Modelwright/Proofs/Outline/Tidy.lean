import Modelwright.Proofs.Outline.Contents
import Modelwright.Proofs.Outline.Declared
import Modelwright.Proofs.Outline.FirstLines

namespace Modelwright.Outline

open Modelwright.Text Modelwright.Target

/-! Sources with which a scan keeps in step.  It takes brackets in literals for brackets and
quotes in them for quotes, and it does not know that a backslash joins lines.  Where the lines have
none of these, scan and language agree on where statements start, as is asked for the lines above a
statement of a class. -/

theorem step_code_of_isQuote {c : Char} (quoted : isQuote c = true) :
    Skeleton.step .code c = (.opened c, [c]) := by
  rcases isQuote_iff.mp quoted with rfl | rfl
  · rfl
  · rfl

theorem break_ne_of_isQuote {quote : Char} (quoted : isQuote quote = true) : '\n' ≠ quote := by
  rintro rfl
  cases quoted

theorem not_bracket_of_codeStep {c : Char} (left : (Skeleton.codeStep c).1 ≠ .code) :
    c ∉ brackets := by
  cases quoted : isQuote c with
  | true => exact not_bracket_of_isQuote quoted
  | false =>
      have other : Target.isQuote c = false := by
        simpa [Target.isQuote, isQuote] using quoted
      by_cases comment : c = '#'
      · rw [comment]
        decide
      · simp [Skeleton.codeStep, other, comment] at left

namespace Reader

theorem step_eq {mode : Skeleton.Mode} {c : Char}
    (inside : (Skeleton.step mode c).1 ≠ .code → c ∉ brackets)
    (single : (Skeleton.step mode c).1 = .code → c ≠ '\\') (depth : Nat) :
    step ⟨mode, depth, false⟩ c =
      ⟨(Skeleton.step mode c).1, bracketDepth depth [c], false⟩ := by
  by_cases coded : (Skeleton.step mode c).1 = .code
  · simp [step, coded, single coded]
  · have still := bracketDepth_of_bracketless
      (List.forall_mem_singleton.mpr (inside coded)) depth
    simp [step, coded, still]

end Reader

/-- The character is none that a scan takes for another thing than the language does. -/
def isTidyAt (mode : Skeleton.Mode) (c : Char) : Bool :=
  !endsLine c &&
    match mode with
    | .code => c ≠ '\\'
    | .comment => true
    | .openedTwice quote => c ≠ '\\' && c ≠ quote
    | .opened _ => c ∉ brackets
    | .short _ => c ∉ brackets
    | .shortEscape _ => c ∉ brackets
    | _ => false

/-- No literal on the line is left open, and none holds a bracket. -/
def isTidy (mode : Skeleton.Mode) : List Char → Bool
  | [] => mode.isOutside
  | c :: rest => isTidyAt mode c && isTidy (Skeleton.step mode c).1 rest

/-- Where the language and a scan may both stand. -/
inductive Alongside : Skeleton.Mode → QuoteState → Prop
  | code : Alongside .code .code
  | openedTwice {quote : Char} (quoted : isQuote quote = true) :
      Alongside (.openedTwice quote) .code
  | opened {quote : Char} (quoted : isQuote quote = true) :
      Alongside (.opened quote) (.string quote)
  | short {quote : Char} (quoted : isQuote quote = true) : Alongside (.short quote) (.string quote)
  | shortEscape {quote : Char} (quoted : isQuote quote = true) :
      Alongside (.shortEscape quote) (.escaped quote)

namespace Alongside

variable {mode : Skeleton.Mode} {state : QuoteState} {c quote : Char}

theorem of_codeStep (noComment : c ≠ '#') :
    Alongside (Skeleton.codeStep c).1 (QuoteState.step .code c) := by
  cases quoted : isQuote c with
  | true =>
      rw [show Skeleton.codeStep c = (.opened c, [c]) from step_code_of_isQuote quoted]
      simpa [QuoteState.step, quoted] using .opened quoted
  | false =>
      have other : Target.isQuote c = false := by
        simpa [Target.isQuote, isQuote] using quoted
      simpa [QuoteState.step, Skeleton.codeStep, quoted, other, noComment] using .code

theorem of_shortStep (quoted : isQuote quote = true) (sameLine : endsLine c = false) :
    Alongside (Skeleton.shortStep quote c).1 (QuoteState.step (.string quote) c) := by
  have apart := ne_backslash_of_isQuote quoted
  by_cases closes : c = quote
  · simpa [Skeleton.shortStep, QuoteState.step, closes, apart] using .code
  · by_cases escapes : c = '\\'
    · simpa [Skeleton.shortStep, QuoteState.step, escapes, apart.symm] using .shortEscape quoted
    · simpa [Skeleton.shortStep, QuoteState.step, closes, escapes, sameLine] using .short quoted

theorem step (alongside : Alongside mode state) (tidy : isTidyAt mode c = true)
    (coded : ¬ (state = .code ∧ c = '#')) :
    Alongside (Skeleton.step mode c).1 (state.step c) := by
  have sameLine : endsLine c = false := by
    simpa using (Bool.and_eq_true_iff.mp tidy).1
  cases alongside with
  | code => exact of_codeStep fun comment => coded ⟨rfl, comment⟩
  | @openedTwice quote quoted =>
      have apart : c ≠ quote := by
        simp only [isTidyAt, Bool.and_eq_true, decide_eq_true_eq] at tidy
        exact tidy.2.2
      rw [Skeleton.step, if_neg apart]
      exact of_codeStep fun comment => coded ⟨rfl, comment⟩
  | @opened quote quoted =>
      by_cases closes : c = quote
      · simpa [Skeleton.step, QuoteState.step, closes, ne_backslash_of_isQuote quoted]
          using .openedTwice quoted
      · rw [Skeleton.step, if_neg closes]
        exact of_shortStep quoted sameLine
  | short quoted => exact of_shortStep quoted sameLine
  | shortEscape quoted => exact .short quoted

theorem reads (alongside : Alongside mode state) (tidy : isTidyAt mode c = true) (depth : Nat) :
    Reader.step ⟨mode, depth, false⟩ c =
      ⟨(Skeleton.step mode c).1, bracketDepth depth [c], false⟩ := by
  obtain ⟨-, here⟩ := Bool.and_eq_true_iff.mp tidy
  cases alongside with
  | code =>
      have left : (Skeleton.step .code c).1 ≠ .code → c ∉ brackets := not_bracket_of_codeStep
      exact Reader.step_eq left (fun _ => of_decide_eq_true here) depth
  | openedTwice quoted =>
      obtain ⟨single, apart⟩ := Bool.and_eq_true_iff.mp here
      refine Reader.step_eq ?_ (fun _ => of_decide_eq_true single) depth
      rw [Skeleton.step, if_neg (of_decide_eq_true apart)]
      exact not_bracket_of_codeStep
  | opened quoted =>
      refine Reader.step_eq (fun _ => of_decide_eq_true here) (fun coded escapes => ?_) depth
      simp [Skeleton.step, Skeleton.shortStep, escapes, (ne_backslash_of_isQuote quoted).symm]
        at coded
  | short quoted =>
      refine Reader.step_eq (fun _ => of_decide_eq_true here) (fun coded escapes => ?_) depth
      simp [Skeleton.step, Skeleton.shortStep, escapes, (ne_backslash_of_isQuote quoted).symm]
        at coded
  | shortEscape quoted =>
      refine Reader.step_eq (fun _ => of_decide_eq_true here) (fun coded => ?_) depth
      cases coded

theorem step_break (alongside : Alongside mode state) (outside : mode.isOutside = true) :
    (Skeleton.step mode '\n').1 = .code := by
  cases alongside with
  | code => rfl
  | @openedTwice quote quoted =>
      rw [Skeleton.step, if_neg (break_ne_of_isQuote quoted)]
      rfl
  | opened | short | shortEscape => cases outside

end Alongside

theorem foldl_step_comment {text : List Char} (tidy : isTidy .comment text = true) (depth : Nat) :
    text.foldl Reader.step ⟨.comment, depth, false⟩ = ⟨.comment, depth, false⟩ := by
  induction text with
  | nil => rfl
  | cons c rest ih =>
      simp only [isTidy, isTidyAt, Bool.and_eq_true, Bool.not_eq_true'] at tidy
      obtain ⟨⟨sameLine, -⟩, others⟩ := tidy
      have stays : Skeleton.step .comment c = (.comment, [c]) := by
        simp [Skeleton.step, sameLine]
      rw [stays] at others
      have stepped : Reader.step ⟨.comment, depth, false⟩ c = ⟨.comment, depth, false⟩ := by
        simp [Reader.step, stays]
      rw [List.foldl_cons, stepped, ih others]

theorem foldl_step_tidy {mode : Skeleton.Mode} {state : QuoteState} {text : List Char}
    (alongside : Alongside mode state) (tidy : isTidy mode text = true) (depth : Nat) :
    ∃ last : Skeleton.Mode, (Skeleton.step last '\n').1 = .code ∧
      text.foldl Reader.step ⟨mode, depth, false⟩ =
        ⟨last, bracketDepth depth (withoutComment state text), false⟩ := by
  induction text generalizing mode state depth with
  | nil => exact ⟨mode, alongside.step_break tidy, rfl⟩
  | cons c rest ih =>
      obtain ⟨here, others⟩ := Bool.and_eq_true_iff.mp tidy
      rw [List.foldl_cons, alongside.reads here]
      by_cases comment : state = .code ∧ c = '#'
      · have commented : (Skeleton.step mode c).1 = .comment := by
          obtain ⟨rfl, rfl⟩ := comment
          cases alongside with
          | code => rfl
          | @openedTwice quote quoted =>
              have apart : '#' ≠ quote := by
                rintro rfl
                cases quoted
              rw [Skeleton.step, if_neg apart]
              rfl
        rw [commented] at others ⊢
        refine ⟨.comment, rfl, ?_⟩
        rw [foldl_step_comment others, withoutComment, if_pos comment, comment.2]
        rfl
      · obtain ⟨last, ends, reached⟩ := ih (alongside.step here comment) others
          (bracketDepth depth [c])
        refine ⟨last, ends, ?_⟩
        rw [reached, withoutComment, if_neg comment]
        rfl

/-- Contents that neither end a docstring nor escape anything, on one line. -/
def IsStill (quote : Char) (body : List Char) : Prop :=
  ∀ c ∈ body, c ≠ quote ∧ c ≠ '\\' ∧ c ≠ '\n'

instance (quote : Char) (body : List Char) : Decidable (IsStill quote body) :=
  decidable_of_iff (body.all fun c => c ≠ quote ∧ c ≠ '\\' ∧ c ≠ '\n')
    (by simp [IsStill, List.all_eq_true])

namespace IsStill

variable {quote : Char} {body : List Char}

theorem stays (still : IsStill quote body) : Stays (.string quote) body := by
  induction body with
  | nil => exact Stays.nil (by simp)
  | cons c rest ih =>
      obtain ⟨⟨apart, single, -⟩, others⟩ := List.forall_mem_cons.mp still
      refine Stays.cons_iff.mpr ⟨by simp, ?_⟩
      rw [QuoteState.step, if_neg single, if_neg apart]
      exact ih others

theorem not_holds (still : IsStill quote body) : holds (triple quote) body = false := by
  rw [← Bool.not_eq_true, holds_iff]
  intro inside
  exact (still quote (inside.mem List.mem_cons_self)).1 rfl

theorem foldl_step (still : IsStill quote body) (depth : Nat) :
    body.foldl Reader.step ⟨.long quote 0, depth, false⟩ = ⟨.long quote 0, depth, false⟩ := by
  induction body with
  | nil => rfl
  | cons c rest ih =>
      obtain ⟨⟨apart, single, -⟩, others⟩ := List.forall_mem_cons.mp still
      have stepped : Reader.step ⟨.long quote 0, depth, false⟩ c =
          ⟨.long quote 0, depth, false⟩ := by
        simp [Reader.step, Skeleton.step, apart, single]
      rw [List.foldl_cons, stepped, ih others]

theorem oneLine (still : IsStill quote body) : '\n' ∉ body :=
  fun member => (still '\n' member).2.2 rfl

theorem unseen (still : IsStill quote body) (quoted : isQuote quote = true)
    (single : ∀ part ∈ tripleQuotes, holds part body = false) :
    Unseen ⟨quote, quoted, true⟩ body where
  within := by
    have steady : ∀ c ∈ body, Skeleton.step (.long quote 0) c = (.long quote 0, []) := by
      intro c member
      obtain ⟨apart, escapes, -⟩ := still c member
      simp [Skeleton.step, apart, escapes]
    rw [LiteralKind.mode, if_pos rfl, Skeleton.run_of_steps steady,
      List.flatMap_eq_nil_iff.mpr fun _ _ => rfl]
  oneLine := nofun
  inside := fun _ => by
    rw [firstLine_of_not_mem still.oneLine]
    exact still.stays
  triples := by
    rw [firstLine_of_not_mem still.oneLine]
    exact single
  later := still.not_holds

end IsStill

theorem foldl_step_triple {quote : Char} (quoted : isQuote quote = true) (depth : Nat) :
    (triple quote).foldl Reader.step ⟨.code, depth, false⟩ = ⟨.long quote 0, depth, false⟩ ∧
      (triple quote).foldl Reader.step ⟨.long quote 0, depth, false⟩ =
        ⟨.code, depth, false⟩ := by
  rcases isQuote_iff.mp quoted with rfl | rfl
  · exact ⟨rfl, rfl⟩
  · exact ⟨rfl, rfl⟩

section Plain

variable {start : List Char}

theorem isBare_of_plain (plain : Skeleton.PlainChars start) : IsBare start where
  quoteless := fun c member => by
    simpa [isQuote, Target.isQuote] using (Skeleton.isPlain_iff.mp (plain c member)).1
  uncommented := fun member => (Skeleton.isPlain_iff.mp (plain '#' member)).2.2.1 rfl

theorem clear_of_plain (plain : Skeleton.PlainChars start) : Clear start where
  oneLine := fun member => Bool.noConfusion (Skeleton.isPlain_iff.mp (plain '\n' member)).2.1
  code :=
    { kept := (isBare_of_plain plain).withoutComment_eq
      reaches := by
        induction start with
        | nil => rfl
        | cons c rest ih =>
            obtain ⟨first, others⟩ := List.forall_mem_cons.mp plain
            have unquoted := (isBare_of_plain plain).quoteless c List.mem_cons_self
            rw [List.foldl_cons, QuoteState.step, unquoted, if_neg Bool.false_ne_true]
            exact ih others }
  even := (isBare_of_plain plain).openQuote?_eq
  unquoted := fun c last => (isBare_of_plain plain).quoteless c (List.mem_of_getLast? last)

theorem foldl_step_plain (plain : Skeleton.PlainChars start) (depth : Nat) :
    start.foldl Reader.step ⟨.code, depth, false⟩ =
      ⟨.code, bracketDepth depth start, false⟩ := by
  induction start generalizing depth with
  | nil => rfl
  | cons c rest ih =>
      obtain ⟨first, others⟩ := List.forall_mem_cons.mp plain
      have coded := Skeleton.step_code_plain first
      have single : c ≠ '\\' := (Skeleton.isPlain_iff.mp first).2.2.2
      have stepped : Reader.step ⟨.code, depth, false⟩ c =
          ⟨.code, bracketDepth depth [c], false⟩ := by
        simp [Reader.step, coded, single]
      rw [List.foldl_cons, stepped, ih others]
      rfl

end Plain

/-- What a line may be, by the quote of the docstring that is open before and behind it. -/
inductive TidyLine : Option Char → List Char → Option Char → Prop
  | code {raw : List Char} (tidy : isTidy .code raw = true)
      (single : ∀ part ∈ tripleQuotes, holds part raw = false) : TidyLine none raw none
  | docstring {quote : Char} {start body : List Char} (quoted : isQuote quote = true)
      (plain : Skeleton.PlainChars start) (still : IsStill quote body)
      (bracketless : Bracketless body)
      (single : ∀ part ∈ tripleQuotes, holds part body = false) :
      TidyLine none (start ++ (triple quote ++ body ++ triple quote)) none
  | opening {quote : Char} {start body : List Char} (quoted : isQuote quote = true)
      (plain : Skeleton.PlainChars start) (still : IsStill quote body)
      (bracketless : Bracketless body)
      (single : ∀ part ∈ tripleQuotes, holds part body = false) :
      TidyLine none (start ++ triple quote ++ body) (some quote)
  | inside {quote : Char} {raw : List Char} (still : IsStill quote raw) :
      TidyLine (some quote) raw (some quote)
  | closing {quote : Char} {body : List Char} (still : IsStill quote body) :
      TidyLine (some quote) (body ++ triple quote) none

inductive Tidy : Option Char → List (List Char) → Prop
  | nil {opened : Option Char} : Tidy opened []
  | cons {opened next : Option Char} {raw : List Char} {rest : List (List Char)}
      (first : TidyLine opened raw next) (others : Tidy next rest) : Tidy opened (raw :: rest)

/-- A scan and the language agree on what is open. -/
structure Agrees (scan : Scan) (reader : Reader) (opened : Option Char) : Prop where
  quoted : ∀ quote ∈ opened, isQuote quote = true
  openString_eq : scan.openString = opened.map triple
  reader_eq : reader = ⟨opened.elim .code (.long · 0), scan.depth, false⟩

namespace Agrees

variable {scan : Scan} {reader : Reader} {raw : List Char}

theorem isFresh_eq {opened : Option Char} (agrees : Agrees scan reader opened) :
    scan.isFresh = reader.isFresh := by
  obtain ⟨-, closed, rfl⟩ := agrees
  cases opened with
  | none => simp [Scan.isFresh, Reader.isFresh, closed]
  | some quote => simp [Scan.isFresh, Reader.isFresh, closed]

theorem line_code (agrees : Agrees scan reader none) (tidy : isTidy .code raw = true)
    (single : ∀ part ∈ tripleQuotes, holds part raw = false) :
    Agrees (scan.line raw) (reader.line raw) none := by
  obtain ⟨-, closed, rfl⟩ := agrees
  obtain ⟨last, ends, reached⟩ := foldl_step_tidy .code tidy scan.depth
  have read : Reader.line ⟨.code, scan.depth, false⟩ raw =
      ⟨.code, bracketDepth scan.depth (trim (withoutComment .code raw)), false⟩ := by
    simp only [Reader.line, reached, ends, Scan.bracketDepth_trim]
  have starts : trim (withoutComment .code raw) <:+: raw :=
    ((trimEnd_starts _).isInfix.trans (List.dropWhile_suffix isBlank).isInfix).trans
      (withoutComment_starts .code raw).isInfix
  have still : openQuote? (trim (withoutComment .code raw)) = none :=
    openQuote?_eq_none_iff.mpr fun part listed => by
      rw [occurrences_of_not_holds (not_holds_of_inside (single part listed) starts)]
  rw [Scan.line_of_closed closed]
  by_cases blank : trim (withoutComment .code raw) = []
  · rw [blank] at read ⊢
    exact ⟨nofun, closed, read⟩
  · rw [Scan.code_of_ne_nil _ _ blank, still, Scan.carry_with]
    exact ⟨nofun, rfl, read⟩

theorem line_docstring {quote : Char} {start body : List Char} (agrees : Agrees scan reader none)
    (quoted : isQuote quote = true) (plain : Skeleton.PlainChars start)
    (still : IsStill quote body) (bracketless : Bracketless body)
    (single : ∀ part ∈ tripleQuotes, holds part body = false) :
    Agrees (scan.line (start ++ (triple quote ++ body ++ triple quote)))
      (reader.line (start ++ (triple quote ++ body ++ triple quote))) none := by
  obtain ⟨-, closed, rfl⟩ := agrees
  obtain ⟨opens, closes⟩ := foldl_step_triple quoted (bracketDepth scan.depth start)
  have read : Reader.line ⟨.code, scan.depth, false⟩
      (start ++ (triple quote ++ body ++ triple quote)) =
        ⟨.code, bracketDepth scan.depth start, false⟩ := by
    simp only [Reader.line, List.foldl_append, foldl_step_plain plain, opens, still.foldl_step,
      closes]
    rfl
  have unseen := still.unseen quoted single
  have clear := clear_of_plain plain
  have line := Scan.line_literal clear closed unseen.toIsBody still.stays []
  have shut := openQuote?_literal clear unseen still.oneLine
  have nothing : withoutComment .code [] = [] ∧ trimEnd [] = [] := ⟨rfl, rfl⟩
  rw [nothing.1, nothing.2, List.append_nil, List.append_nil, shut,
    bracketDepth_of_bracketless bracketless, Scan.carry_with] at line
  change Agrees (scan.line (start ++ LiteralKind.literal ⟨quote, quoted, true⟩ body)) _ _
  rw [line]
  exact ⟨nofun, rfl, read⟩

theorem line_opening {quote : Char} {start body : List Char} (agrees : Agrees scan reader none)
    (quoted : isQuote quote = true) (plain : Skeleton.PlainChars start)
    (still : IsStill quote body) (bracketless : Bracketless body)
    (single : ∀ part ∈ tripleQuotes, holds part body = false) :
    Agrees (scan.line (start ++ triple quote ++ body)) (reader.line (start ++ triple quote ++ body))
      (some quote) := by
  obtain ⟨-, closed, rfl⟩ := agrees
  obtain ⟨opens, -⟩ := foldl_step_triple quoted (bracketDepth scan.depth start)
  have read : Reader.line ⟨.code, scan.depth, false⟩ (start ++ triple quote ++ body) =
      ⟨.long quote 0, bracketDepth scan.depth start, false⟩ := by
    simp [Reader.line, List.foldl_append, foldl_step_plain plain, opens, still.foldl_step,
      Skeleton.step, break_ne_of_isQuote quoted]
  have long : LiteralKind.long ⟨quote, quoted, true⟩ = true := rfl
  have line := Scan.line_opening (clear_of_plain plain) closed long still.stays single
  change Agrees (scan.line (start ++ LiteralKind.delimiter ⟨quote, quoted, true⟩ ++ body)) _ _
  rw [line, bracketDepth_of_bracketless bracketless, Scan.carry_with]
  exact ⟨fun _ same => Option.some.inj same ▸ quoted, rfl, read⟩

theorem line_inside {quote : Char} (agrees : Agrees scan reader (some quote))
    (still : IsStill quote raw) : Agrees (scan.line raw) (reader.line raw) (some quote) := by
  obtain ⟨quoted, opened, rfl⟩ := agrees
  have read : Reader.line ⟨.long quote 0, scan.depth, false⟩ raw =
      ⟨.long quote 0, scan.depth, false⟩ := by
    simp [Reader.line, still.foldl_step, Skeleton.step, break_ne_of_isQuote (quoted quote rfl)]
  rw [Scan.line_of_openString opened, if_neg (by simp [still.not_holds])]
  exact ⟨quoted, opened, read⟩

theorem line_closing {quote : Char} {body : List Char} (agrees : Agrees scan reader (some quote))
    (still : IsStill quote body) :
    Agrees (scan.line (body ++ triple quote)) (reader.line (body ++ triple quote)) none := by
  obtain ⟨quoted, opened, rfl⟩ := agrees
  obtain ⟨-, closes⟩ := foldl_step_triple (quoted quote rfl) scan.depth
  have found : holds (triple quote) (body ++ triple quote) = true :=
    holds_iff.mpr (List.suffix_append body _).isInfix
  rw [Scan.line_of_openString opened, if_pos found]
  refine ⟨nofun, rfl, ?_⟩
  change Reader.line ⟨.long quote 0, scan.depth, false⟩ _ = _
  simp only [Reader.line, List.foldl_append, still.foldl_step, closes]
  rfl

theorem line {opened next : Option Char} (agrees : Agrees scan reader opened)
    (tidy : TidyLine opened raw next) : Agrees (scan.line raw) (reader.line raw) next := by
  cases tidy with
  | code tidy single => exact agrees.line_code tidy single
  | docstring quoted plain still bracketless single =>
      exact agrees.line_docstring quoted plain still bracketless single
  | opening quoted plain still bracketless single =>
      exact agrees.line_opening quoted plain still bracketless single
  | inside still => exact agrees.line_inside still
  | closing still => exact agrees.line_closing still

theorem follows {opened : Option Char} {lines : List (List Char)}
    (agrees : Agrees scan reader opened) (tidy : Tidy opened lines) :
    scan.Follows reader lines := by
  induction tidy generalizing scan reader with
  | nil => exact agrees.isFresh_eq
  | cons first _ ih => exact ⟨agrees.isFresh_eq, ih (agrees.line first)⟩

end Agrees

theorem follows_of_tidy {lines : List (List Char)} (tidy : Tidy none lines) :
    Scan.start.Follows .start lines := by
  have agrees : Agrees Scan.start .start none := ⟨nofun, rfl, rfl⟩
  exact agrees.follows tidy

example : Tidy none accountLines :=
  have quoted : isQuote '\'' = true := rfl
  have opening : TidyLine none "    '''".toList (some '\'') :=
    @TidyLine.opening '\'' "    ".toList [] quoted (by decide) (by decide) (by decide) (by decide)
  have closing : TidyLine (some '\'') "    '''".toList none :=
    @TidyLine.closing '\'' "    ".toList (by decide)
  .cons (.code (by decide +kernel) (by decide +kernel)) <|
  .cons (.code (by decide +kernel) (by decide +kernel)) <|
  .cons (.code (by decide +kernel) (by decide +kernel)) <|
  .cons (.code (by decide +kernel) (by decide +kernel)) <|
  .cons opening <|
  .cons (.inside (by decide +kernel)) <|
  .cons closing <|
  .cons (.code (by decide +kernel) (by decide +kernel)) <|
  .cons (.code (by decide +kernel) (by decide +kernel)) <|
  .cons (.code (by decide +kernel) (by decide +kernel)) .nil

end Modelwright.Outline
