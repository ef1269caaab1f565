import Mathlib.Data.List.Induction
import Mathlib.Data.List.Infix
import Modelwright.Proofs.Outline.Quotes
import Modelwright.Proofs.Target.Skeleton

namespace Modelwright.Outline

open Modelwright.Text Modelwright.Target

/-! String literals as a scan of lines reads them: by quotes, and by triple quotes.  Both readings
agree with the rules of the language as long as no quote in the contents seems to end the
literal. -/

structure LiteralKind where
  quote : Char
  quoted : isQuote quote = true
  /-- Between three quotes and three quotes. -/
  long : Bool

namespace LiteralKind

def delimiter (kind : LiteralKind) : List Char :=
  if kind.long then triple kind.quote else [kind.quote]

def literal (kind : LiteralKind) (body : List Char) : List Char :=
  kind.delimiter ++ body ++ kind.delimiter

def mode (kind : LiteralKind) : Skeleton.Mode :=
  if kind.long then .long kind.quote 0 else .short kind.quote

/-- The text may be the contents of a literal of the kind: nothing in it ends the literal. -/
structure IsBody (kind : LiteralKind) (body : List Char) : Prop where
  within : Skeleton.run kind.mode body = (kind.mode, [])
  oneLine : kind.long = false → '\n' ∉ body

end LiteralKind

/-- No part of the text from its start on leads out of the string. -/
def Stays (state : QuoteState) (text : List Char) : Prop :=
  ∀ before, before <+: text → before.foldl QuoteState.step state ≠ .code

instance (state : QuoteState) (text : List Char) : Decidable (Stays state text) :=
  decidable_of_iff (∀ before ∈ text.inits, before.foldl QuoteState.step state ≠ .code)
    (by simp only [Stays, List.mem_inits])

namespace Stays

variable {state : QuoteState} {c quote : Char} {text rest : List Char}

theorem cons_iff :
    Stays state (c :: rest) ↔ state ≠ .code ∧ Stays (state.step c) rest := by
  constructor
  · intro stays
    refine ⟨stays [] List.nil_prefix, fun before starts => ?_⟩
    exact stays (c :: before) (List.cons_prefix_cons.mpr ⟨rfl, starts⟩)
  · rintro ⟨inside, stays⟩ before starts
    rcases List.prefix_cons_iff.mp starts with rfl | ⟨more, rfl, later⟩
    · exact inside
    · exact stays more later

theorem nil (inside : state ≠ .code) : Stays state [] := by
  intro before starts
  rw [List.prefix_nil.mp starts]
  exact inside

theorem of_starts {before : List Char} (stays : Stays state text) (starts : before <+: text) :
    Stays state before :=
  fun first further => stays first (further.trans starts)

theorem withoutComment_eq (stays : Stays state text) : withoutComment state text = text := by
  induction text generalizing state with
  | nil => rfl
  | cons c rest ih =>
      obtain ⟨inside, later⟩ := cons_iff.mp stays
      rw [withoutComment, if_neg fun comment => inside comment.1, ih later]

theorem head?_ne (stays : Stays (.string quote) text) (apart : quote ≠ '\\') :
    text.head? ≠ some quote := by
  cases text with
  | nil => simp
  | cons c rest =>
      intro same
      cases same
      exact stays [quote] (List.cons_prefix_cons.mpr ⟨rfl, List.nil_prefix⟩)
        (by simp [QuoteState.step, apart])

theorem foldl_cases (stays : Stays (.string quote) text) :
    text.foldl QuoteState.step (.string quote) = .string quote ∨
      text.foldl QuoteState.step (.string quote) = .escaped quote := by
  induction text using List.reverseRecOn with
  | nil => exact .inl rfl
  | append_singleton before c ih =>
      have last := stays _ List.prefix_rfl
      rw [List.foldl_append, List.foldl_cons, List.foldl_nil] at last ⊢
      rcases ih (stays.of_starts (List.prefix_append _ _)) with inside | escaped
      · rw [inside, QuoteState.step] at last ⊢
        split at last <;> simp_all
      · rw [escaped]
        exact .inl rfl

theorem not_two_quotes (stays : Stays (.string quote) text) (apart : quote ≠ '\\')
    (before after : List Char) : text ≠ before ++ quote :: quote :: after := by
  rintro rfl
  have first : Stays (.string quote) before := stays.of_starts (List.prefix_append _ _)
  have second := stays (before ++ [quote]) (by simp)
  have third := stays (before ++ [quote, quote]) (by simp)
  rw [List.foldl_append] at second third
  rcases first.foldl_cases with inside | escaped
  · simp [inside, QuoteState.step, apart] at second
  · simp [escaped, QuoteState.step, apart] at third

end Stays

/-- The text has no comment, and the reading of it goes from one state to the other. -/
structure Passes (state : QuoteState) (text : List Char) (last : QuoteState) : Prop where
  kept : withoutComment state text = text
  reaches : text.foldl QuoteState.step state = last

theorem Passes.append {state middle last : QuoteState} {first second : List Char}
    (one : Passes state first middle) (other : Passes middle second last) :
    Passes state (first ++ second) last where
  kept := by rw [withoutComment_append one.kept, one.reaches, other.kept]
  reaches := by rw [List.foldl_append, one.reaches, other.reaches]

/-- Both scans stand at the same place of a literal. -/
inductive Reads (quote : Char) : Skeleton.Mode → QuoteState → Prop where
  | short : Reads quote (.short quote) (.string quote)
  | shortEscape : Reads quote (.shortEscape quote) (.escaped quote)
  | long (closing : Nat) : Reads quote (.long quote closing) (.string quote)
  | longEscape : Reads quote (.longEscape quote) (.escaped quote)

theorem run_broken (text : List Char) : Skeleton.run .broken text = (.broken, []) := by
  induction text with
  | nil => rfl
  | cons c rest ih =>
      rw [Skeleton.run_cons, Skeleton.step, ih]
      rfl

theorem ne_backslash_of_isQuote {quote : Char} (quoted : isQuote quote = true) : quote ≠ '\\' := by
  rintro rfl
  cases quoted

theorem step_string_eq {quote c : Char} (apart : quote ≠ '\\')
    (stays : QuoteState.step (.string quote) c ≠ .code) :
    c ≠ quote ∧ QuoteState.step (.string quote) c =
      if c = '\\' then .escaped quote else .string quote := by
  by_cases closes : c = quote
  · simp [QuoteState.step, closes, apart] at stays
  · simp [QuoteState.step, closes]

namespace Reads

variable {quote c : Char} {mode last : Skeleton.Mode} {state : QuoteState} {text kept : List Char}

theorem step (reads : Reads quote mode state) (apart : quote ≠ '\\')
    (stays : state.step c ≠ .code) :
    Reads quote (Skeleton.step mode c).1 (state.step c) ∨
      (Skeleton.step mode c).1 = .broken := by
  cases reads with
  | shortEscape => exact .inl .short
  | longEscape => exact .inl (.long 0)
  | short =>
      obtain ⟨other, next⟩ := step_string_eq apart stays
      rw [next, Skeleton.step, Skeleton.shortStep, if_neg other]
      by_cases escapes : c = '\\'
      · exact .inl (by simpa [escapes] using .shortEscape)
      · cases ends : endsLine c with
        | true => exact .inr (by simp [escapes])
        | false => exact .inl (by simpa [escapes] using .short)
  | long closing =>
      obtain ⟨other, next⟩ := step_string_eq apart stays
      rw [next, Skeleton.step, if_neg other]
      by_cases escapes : c = '\\'
      · exact .inl (by simpa [escapes] using .longEscape)
      · exact .inl (by simpa [escapes] using .long 0)

theorem run (reads : Reads quote mode state) (apart : quote ≠ '\\') (stays : Stays state text)
    (ran : Skeleton.run mode text = (last, kept)) (whole : last ≠ .broken) :
    Reads quote last (text.foldl QuoteState.step state) := by
  induction text generalizing mode state kept with
  | nil =>
      obtain ⟨rfl, -⟩ := Prod.mk.inj ran
      exact reads
  | cons c rest ih =>
      obtain ⟨-, later⟩ := Stays.cons_iff.mp stays
      rw [Skeleton.run_cons] at ran
      obtain ⟨reached, -⟩ := Prod.mk.inj ran
      rcases reads.step apart (later [] List.nil_prefix) with next | broken
      · exact ih next later (Prod.ext reached rfl)
      · rw [broken, run_broken] at reached
        exact absurd reached.symm whole

end Reads

theorem stays_of_run_short {quote : Char} (apart : quote ≠ '\\') (text : List Char) :
    (Skeleton.run (.short quote) text = (.short quote, []) → Stays (.string quote) text) ∧
      (Skeleton.run (.shortEscape quote) text = (.short quote, []) →
        Stays (.escaped quote) text) := by
  induction text with
  | nil => exact ⟨fun _ => Stays.nil (by simp), fun _ => Stays.nil (by simp)⟩
  | cons c rest ih =>
      obtain ⟨inside, escaped⟩ := ih
      constructor
      · intro ran
        refine Stays.cons_iff.mpr ⟨by simp, ?_⟩
        rw [Skeleton.run_cons, Skeleton.step, Skeleton.shortStep] at ran
        by_cases closes : c = quote
        · simp [closes] at ran
        · by_cases escapes : c = '\\'
          · simp only [escapes, if_neg apart.symm, if_true, List.nil_append] at ran
            simpa [QuoteState.step, escapes] using escaped ran
          · cases ends : endsLine c with
            | true => simp [closes, escapes, ends, run_broken] at ran
            | false =>
                simp only [if_neg closes, if_neg escapes, ends, Bool.false_eq_true, if_false,
                  List.nil_append] at ran
                simpa [QuoteState.step, escapes, closes] using inside ran
      · intro ran
        refine Stays.cons_iff.mpr ⟨by simp, ?_⟩
        exact inside ran

namespace LiteralKind

variable {kind : LiteralKind} {body : List Char}

theorem reads_mode (kind : LiteralKind) : Reads kind.quote kind.mode (.string kind.quote) := by
  unfold mode
  cases kind.long with
  | true => exact .long 0
  | false => exact .short

theorem foldl_of_isBody (isBody : kind.IsBody body) (stays : Stays (.string kind.quote) body) :
    body.foldl QuoteState.step (.string kind.quote) = .string kind.quote := by
  have reads := kind.reads_mode.run (ne_backslash_of_isQuote kind.quoted) stays isBody.within
    (by unfold mode; cases kind.long <;> simp)
  rcases stays.foldl_cases with inside | escaped
  · exact inside
  · rw [escaped, mode] at reads
    cases long : kind.long with
    | true =>
        simp only [long] at reads
        cases reads
    | false =>
        simp only [long] at reads
        cases reads

theorem passes_delimiter (kind : LiteralKind) :
    Passes .code kind.delimiter (.string kind.quote) ∧
      Passes (.string kind.quote) kind.delimiter .code := by
  unfold delimiter
  rcases isQuote_iff.mp kind.quoted with single | double
  · rw [single]
    cases kind.long with
    | true => exact ⟨⟨by decide, by decide⟩, by decide, by decide⟩
    | false => exact ⟨⟨by decide, by decide⟩, by decide, by decide⟩
  · rw [double]
    cases kind.long with
    | true => exact ⟨⟨by decide, by decide⟩, by decide, by decide⟩
    | false => exact ⟨⟨by decide, by decide⟩, by decide, by decide⟩

theorem passes_literal (isBody : kind.IsBody body) (stays : Stays (.string kind.quote) body) :
    Passes .code (kind.literal body) .code := by
  obtain ⟨opens, closes⟩ := kind.passes_delimiter
  exact (opens.append ⟨stays.withoutComment_eq, foldl_of_isBody isBody stays⟩).append closes

theorem head?_delimiter (kind : LiteralKind) : kind.delimiter.head? = some kind.quote := by
  unfold delimiter
  cases kind.long with
  | true => rfl
  | false => rfl

theorem getLast?_delimiter (kind : LiteralKind) : kind.delimiter.getLast? = some kind.quote := by
  unfold delimiter
  cases kind.long with
  | true => rfl
  | false => rfl

theorem isQuote_of_mem_delimiter {c : Char} (member : c ∈ kind.delimiter) : isQuote c = true := by
  have same : c = kind.quote := by
    unfold delimiter at member
    cases long : kind.long with
    | true => simpa [long, triple] using member
    | false => simpa [long] using member
  exact same ▸ kind.quoted

theorem break_not_mem_delimiter (kind : LiteralKind) : '\n' ∉ kind.delimiter := by
  intro member
  cases isQuote_of_mem_delimiter member

theorem bracketDepth_delimiter (kind : LiteralKind) (depth : Nat) :
    bracketDepth depth kind.delimiter = depth :=
  bracketDepth_of_bracketless
    (fun _ member => not_bracket_of_isQuote (isQuote_of_mem_delimiter member)) depth

theorem occurrences_delimiter {part : List Char} (kind : LiteralKind) (long : kind.long = true)
    (listed : part ∈ tripleQuotes) :
    occurrences part kind.delimiter = if part = triple kind.quote then 1 else 0 := by
  rw [delimiter, long, if_pos rfl]
  revert part
  rcases isQuote_iff.mp kind.quoted with single | double
  · rw [single]
    decide
  · rw [double]
    decide

theorem head?_literal (kind : LiteralKind) (body : List Char) :
    (kind.literal body).head? = some kind.quote := by
  rw [literal, List.append_assoc, List.head?_append, head?_delimiter, Option.some_or]

theorem getLast?_literal (kind : LiteralKind) (body : List Char) :
    (kind.literal body).getLast? = some kind.quote := by
  rw [literal, List.getLast?_append, getLast?_delimiter, Option.some_or]

/-- A quote right before a delimiter moves no triple quote, and two delimiters have one each. -/
theorem triples_of_delimiter {part : List Char} (kind : LiteralKind)
    (listed : part ∈ tripleQuotes) :
    occurrences part (kind.quote :: kind.delimiter) = occurrences part kind.delimiter ∧
      indexOf? part (kind.quote :: kind.delimiter) = indexOf? part kind.delimiter ∧
      occurrences part (kind.delimiter ++ kind.delimiter) =
        2 * occurrences part kind.delimiter ∧
      indexOf? part (kind.delimiter ++ kind.delimiter) = indexOf? part kind.delimiter := by
  unfold delimiter
  revert part
  rcases isQuote_iff.mp kind.quoted with single | double
  · rw [single]
    cases kind.long with
    | true => decide
    | false => decide
  · rw [double]
    cases kind.long with
    | true => decide
    | false => decide

theorem apart_delimiter_body (stays : Stays (.string kind.quote) body) (quote : Char) :
    Apart quote kind.delimiter body := by
  by_cases same : quote = kind.quote
  · subst same
    exact .inr (stays.head?_ne (ne_backslash_of_isQuote kind.quoted))
  · refine .inl ?_
    rw [getLast?_delimiter]
    exact fun found => same (Option.some.inj found).symm

/-- A quote at the end of the contents goes with the delimiter behind it. -/
theorem exists_border (stays : Stays (.string kind.quote) body) :
    ∃ rest closing, body ++ kind.delimiter = rest ++ closing ∧ rest <+: body ∧
      (closing = kind.delimiter ∨ closing = kind.quote :: kind.delimiter) ∧
      ∀ quote, Apart quote rest closing := by
  have apart : ∀ {rest closing : List Char}, rest.getLast? ≠ some kind.quote →
      closing.head? = some kind.quote → ∀ quote, Apart quote rest closing := by
    intro rest closing last first quote
    by_cases same : quote = kind.quote
    · exact .inl (same ▸ last)
    · refine .inr ?_
      rw [first]
      exact fun found => same (Option.some.inj found).symm
  by_cases quoteLast : body.getLast? = some kind.quote
  · obtain ⟨before, rfl⟩ := List.getLast?_eq_some_iff.mp quoteLast
    refine ⟨before, kind.quote :: kind.delimiter, List.append_assoc _ _ _,
      List.prefix_append _ _, .inr rfl, apart (fun again => ?_) rfl⟩
    obtain ⟨earlier, rfl⟩ := List.getLast?_eq_some_iff.mp again
    exact stays.not_two_quotes (ne_backslash_of_isQuote kind.quoted) earlier [] (by simp)
  · exact ⟨body, kind.delimiter, rfl, List.prefix_rfl, .inl rfl,
      apart quoteLast kind.head?_delimiter⟩

theorem triples_of_literal {part : List Char} (stays : Stays (.string kind.quote) body)
    (absent : holds part body = false) (listed : part ∈ tripleQuotes) :
    occurrences part (kind.literal body) = 2 * occurrences part kind.delimiter ∧
      indexOf? part (kind.literal body) = indexOf? part kind.delimiter := by
  obtain ⟨count, index, countTwo, indexTwo⟩ := kind.triples_of_delimiter listed
  by_cases empty : body = []
  · subst empty
    rw [literal, List.append_nil]
    exact ⟨countTwo, indexTwo⟩
  · obtain ⟨quote, quoted, rfl⟩ := mem_tripleQuotes_iff.mp listed
    obtain ⟨rest, closing, split, starts, closes, border⟩ := kind.exists_border stays
    have opening : Apart quote kind.delimiter (rest ++ closing) :=
      split ▸ (apart_delimiter_body stays quote).append_right kind.delimiter empty
    have restAbsent : holds (triple quote) rest = false := not_holds_of_starts absent starts
    have closingCount : occurrences (triple quote) closing =
        occurrences (triple quote) kind.delimiter := by
      rcases closes with rfl | rfl
      · rfl
      · exact count
    have closingIndex : indexOf? (triple quote) closing =
        indexOf? (triple quote) kind.delimiter := by
      rcases closes with rfl | rfl
      · rfl
      · exact index
    rw [literal, List.append_assoc, split]
    constructor
    · rw [occurrences_append opening, occurrences_append (border quote),
        occurrences_of_not_holds restAbsent, closingCount]
      omega
    · rw [indexOf?_append opening, indexOf?_append (border quote),
        indexOf?_of_not_holds restAbsent, closingIndex]
      cases indexOf? (triple quote) kind.delimiter with
      | none => rfl
      | some place => rfl

theorem triples_of_opening {part : List Char} (stays : Stays (.string kind.quote) body)
    (absent : holds part body = false) (listed : part ∈ tripleQuotes) :
    occurrences part (kind.delimiter ++ body) = occurrences part kind.delimiter := by
  obtain ⟨quote, quoted, rfl⟩ := mem_tripleQuotes_iff.mp listed
  rw [occurrences_append (apart_delimiter_body stays quote), occurrences_of_not_holds absent]
  rfl

end LiteralKind

end Modelwright.Outline
