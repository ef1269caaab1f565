import Mathlib.Data.List.TakeWhile
import Modelwright.Outline.Scan

namespace Modelwright.Outline

open Modelwright.Text

/-! What one line says does not depend on blanks at its ends, and what it declares stands before its
first quote. -/

theorem isQuote_iff {c : Char} : isQuote c = true ↔ c = '\'' ∨ c = '"' := by
  simp [isQuote]

theorem not_isBlank_of_isQuote {c : Char} (quoted : isQuote c = true) : isBlank c = false := by
  rcases isQuote_iff.mp quoted with rfl | rfl
  · decide
  · decide

theorem not_isIdentifierChar_of_isQuote {c : Char} (quoted : isQuote c = true) :
    isIdentifierChar c = false := by
  rcases isQuote_iff.mp quoted with rfl | rfl
  · decide +kernel
  · decide +kernel

theorem takeWhile_append_stop {p : Char → Bool} {stop : Char} (stops : p stop = false)
    (before after : List Char) :
    (before ++ stop :: after).takeWhile p = before.takeWhile p := by
  induction before with
  | nil => simp [stops]
  | cons c rest ih =>
      cases passed : p c with
      | true => simp [passed, ih]
      | false => simp [passed]

theorem trimStart_append {stop : Char} (stands : isBlank stop = false)
    (before after : List Char) :
    trimStart (before ++ stop :: after) = trimStart before ++ stop :: after := by
  induction before with
  | nil => simp [trimStart, stands]
  | cons c rest ih =>
      cases blank : isBlank c with
      | true => simpa [trimStart, blank] using ih
      | false => simp [trimStart, blank]

theorem trimEnd_eq (chars : List Char) : trimEnd chars = (trimStart chars.reverse).reverse := rfl

theorem trimEnd_append {stop : Char} (stands : isBlank stop = false)
    (before after : List Char) :
    trimEnd (before ++ stop :: after) = before ++ stop :: trimEnd after := by
  have reversed : (before ++ stop :: after).reverse =
      after.reverse ++ stop :: before.reverse := by
    simp
  rw [trimEnd_eq, reversed, trimStart_append stands, trimEnd_eq]
  simp

theorem trim_enclosed {stop : Char} {core : List Char} (stands : isBlank stop = false)
    (first : core.head? = some stop) (last : core.getLast? = some stop)
    (before after : List Char) :
    trim (before ++ core ++ after) = trimStart before ++ core ++ trimEnd after := by
  have start : trimStart (before ++ core ++ after) = trimStart before ++ core ++ after := by
    obtain ⟨rest, rfl⟩ := List.head?_eq_some_iff.mp first
    rw [List.append_assoc, List.cons_append, trimStart_append stands, List.append_assoc,
      List.cons_append]
  obtain ⟨rest, rfl⟩ := List.getLast?_eq_some_iff.mp last
  rw [trim, start, ← List.append_assoc, List.append_assoc, List.singleton_append,
    trimEnd_append stands]
  simp

theorem trimEnd_starts (chars : List Char) : trimEnd chars <+: chars := by
  rw [← List.reverse_suffix, trimEnd_eq, List.reverse_reverse]
  exact List.dropWhile_suffix isBlank

theorem trimEnd_concat_blank {c : Char} (blank : isBlank c = true) (chars : List Char) :
    trimEnd (chars ++ [c]) = trimEnd chars := by
  simp [trimEnd, blank]

theorem trim_concat_blank {c : Char} (blank : isBlank c = true) (chars : List Char) :
    trim (chars ++ [c]) = trim chars := by
  induction chars with
  | nil => simp [trim, trimStart, blank]
  | cons d rest ih =>
      cases leading : isBlank d with
      | true => simpa [trim, trimStart, leading] using ih
      | false =>
          have kept : trimStart (d :: rest ++ [c]) = trimStart (d :: rest) ++ [c] := by
            simp [trimStart, leading]
          rw [trim, kept, trimEnd_concat_blank blank, trim]

theorem exists_stands_of_trim_ne_nil {chars : List Char} (something : trim chars ≠ []) :
    ∃ c ∈ chars, isBlank c = false := by
  by_contra blank
  have allBlank : ∀ c ∈ chars, isBlank c = true := by simpa using blank
  apply something
  rw [trim, trimStart, List.dropWhile_eq_nil_iff.mpr allBlank]
  rfl

theorem indentation_append {stop : Char} (stands : isBlank stop = false)
    (before after : List Char) : indentation (before ++ stop :: after) = indentation before := by
  rw [indentation, takeWhile_append_stop stands, indentation]

def brackets : List Char := ['(', '[', '\x7b', ')', ']', '\x7d']

theorem bracketDepth_append (depth : Nat) (first second : List Char) :
    bracketDepth depth (first ++ second) = bracketDepth (bracketDepth depth first) second :=
  List.foldl_append

theorem bracketDepth_of_bracketless {text : List Char} (bracketless : ∀ c ∈ text, c ∉ brackets)
    (depth : Nat) : bracketDepth depth text = depth := by
  induction text with
  | nil => rfl
  | cons c rest ih =>
      obtain ⟨first, others⟩ := List.forall_mem_cons.mp bracketless
      have neither : isOpening c = false ∧ isClosing c = false := by
        simpa [isOpening, isClosing, brackets, and_assoc] using first
      have stays : bracketDepth depth (c :: rest) = bracketDepth depth rest := by
        simp [bracketDepth, neither]
      rw [stays, ih others]

theorem not_bracket_of_isBlank {c : Char} (blank : isBlank c = true) : c ∉ brackets := by
  intro bracket
  have stands : brackets.all (!isBlank ·) = true := by decide
  simpa [blank] using List.all_eq_true.mp stands c bracket

theorem not_bracket_of_isQuote {c : Char} (quoted : isQuote c = true) : c ∉ brackets := by
  rcases isQuote_iff.mp quoted with rfl | rfl
  · decide
  · decide

theorem bracketDepth_trimStart (depth : Nat) (text : List Char) :
    bracketDepth depth (trimStart text) = bracketDepth depth text := by
  have blanks : bracketDepth depth (text.takeWhile isBlank) = depth :=
    bracketDepth_of_bracketless
      (fun c member => not_bracket_of_isBlank (List.mem_takeWhile_imp member)) depth
  calc bracketDepth depth (trimStart text)
      = bracketDepth (bracketDepth depth (text.takeWhile isBlank)) (trimStart text) := by
        rw [blanks]
    _ = bracketDepth depth text := by
        rw [← bracketDepth_append, trimStart, List.takeWhile_append_dropWhile]

theorem bracketDepth_trimEnd (depth : Nat) (text : List Char) :
    bracketDepth depth (trimEnd text) = bracketDepth depth text := by
  have split : text = trimEnd text ++ (text.reverse.takeWhile isBlank).reverse := by
    rw [trimEnd, ← List.reverse_append, List.takeWhile_append_dropWhile, List.reverse_reverse]
  have blanks : ∀ c ∈ (text.reverse.takeWhile isBlank).reverse, c ∉ brackets := by
    intro c member
    exact not_bracket_of_isBlank (List.mem_takeWhile_imp (List.mem_reverse.mp member))
  calc bracketDepth depth (trimEnd text)
      = bracketDepth depth (trimEnd text ++ (text.reverse.takeWhile isBlank).reverse) := by
        rw [bracketDepth_append, bracketDepth_of_bracketless blanks]
    _ = bracketDepth depth text := by rw [← split]

theorem withoutComment_starts (state : QuoteState) (line : List Char) :
    withoutComment state line <+: line := by
  induction line generalizing state with
  | nil => exact List.prefix_rfl
  | cons c rest ih =>
      rw [withoutComment]
      split
      · exact List.nil_prefix
      · exact List.cons_prefix_cons.mpr ⟨rfl, ih _⟩

theorem withoutComment_append {state : QuoteState} {first : List Char}
    (kept : withoutComment state first = first) (second : List Char) :
    withoutComment state (first ++ second) =
      first ++ withoutComment (first.foldl QuoteState.step state) second := by
  induction first generalizing state with
  | nil => rfl
  | cons c rest ih =>
      rw [withoutComment] at kept
      split at kept
      · cases kept
      · next coded =>
          rw [List.cons_append, withoutComment, if_neg coded, ih (List.cons.inj kept).2]
          rfl

theorem exists_withoutComment_append (state : QuoteState) (first second : List Char) :
    ∃ more, more <+: second ∧
      withoutComment state (first ++ second) = withoutComment state first ++ more := by
  induction first generalizing state with
  | nil => exact ⟨_, withoutComment_starts state second, rfl⟩
  | cons c rest ih =>
      by_cases comment : state = .code ∧ c = '#'
      · exact ⟨[], List.nil_prefix, by simp [withoutComment, comment]⟩
      · obtain ⟨more, added, split⟩ := ih (state.step c)
        refine ⟨more, added, ?_⟩
        rw [List.cons_append, withoutComment, if_neg comment, split, withoutComment,
          if_neg comment]
        rfl

theorem identifier_append {quote : Char} (quoted : isQuote quote = true)
    (before after : List Char) : identifier (before ++ quote :: after) = identifier before := by
  have stops := not_isIdentifierChar_of_isQuote quoted
  cases before with
  | nil => simp [identifier, stops]
  | cons c rest =>
      have whole := takeWhile_append_stop stops (c :: rest) after
      rw [List.cons_append] at whole
      rw [List.cons_append, identifier, identifier, whole]

theorem identifier_starts (text : List Char) : identifier text <+: text := by
  cases text with
  | nil => exact List.prefix_rfl
  | cons c rest =>
      rw [identifier]
      split
      · exact List.nil_prefix
      · exact List.takeWhile_prefix isIdentifierChar

theorem dropLiteral?_append {stop : Char} {literal : List Char} (apart : stop ∉ literal)
    (before after : List Char) :
    dropLiteral? literal (before ++ stop :: after) =
      (dropLiteral? literal before).map (· ++ stop :: after) := by
  induction literal generalizing before with
  | nil => rfl
  | cons p more ih =>
      obtain ⟨differs, others⟩ := not_or.mp (mt List.mem_cons.mpr apart)
      cases before with
      | nil => simp [dropLiteral?, Ne.symm differs]
      | cons c rest =>
          by_cases same : p = c
          · simpa [dropLiteral?, same] using ih others rest
          · simp [dropLiteral?, same]

theorem not_mem_of_isQuote {quote : Char} {chars : List Char} (quoted : isQuote quote = true)
    (quoteless : chars.all (!isQuote ·) = true) : quote ∉ chars := by
  intro member
  simpa [quoted] using List.all_eq_true.mp quoteless quote member

theorem declaredClass?_append {quote : Char} (quoted : isQuote quote = true)
    (before after : List Char) :
    declaredClass? (before ++ quote :: after) = declaredClass? before := by
  rw [declaredClass?, dropLiteral?_append (not_mem_of_isQuote quoted (by decide)), declaredClass?]
  cases dropLiteral? "class ".toList before with
  | none => rfl
  | some rest =>
      simp only [Option.map_some, Option.bind_some,
        trimStart_append (not_isBlank_of_isQuote quoted), identifier_append quoted]

theorem definedFunction?_append {quote : Char} (quoted : isQuote quote = true)
    (before after : List Char) :
    definedFunction? (before ++ quote :: after) =
      (definedFunction? before).map (· ++ quote :: after) := by
  rw [definedFunction?, dropLiteral?_append (not_mem_of_isQuote quoted (by decide)),
    dropLiteral?_append (not_mem_of_isQuote quoted (by decide)), definedFunction?]
  cases dropLiteral? "async def ".toList before with
  | none => simp
  | some rest => simp

theorem isBinding_cons (c : Char) (rest : List Char) :
    isBinding (c :: rest) = (c == '=' && rest.head? != some '=' || c == ':') := by
  unfold isBinding
  split
  · simp_all
  · next apart same =>
      obtain ⟨rfl, rfl⟩ := List.cons.inj same
      cases rest with
      | nil => rfl
      | cons d more => simpa using fun same => apart more (by rw [same])
  · simp_all
  · simp_all

theorem isBinding_append {quote : Char} (quoted : isQuote quote = true)
    (before after : List Char) : isBinding (before ++ quote :: after) = isBinding before := by
  have apart : quote ≠ '=' ∧ quote ≠ ':' := by
    rcases isQuote_iff.mp quoted with rfl | rfl
    · decide
    · decide
  match before with
  | [] =>
      rw [List.nil_append, isBinding_cons]
      simp [isBinding, apart]
  | [c] =>
      have differs : (some quote != some '=') = true := by
        rw [bne_iff_ne, Ne, Option.some.injEq]
        exact apart.1
      rw [List.cons_append, isBinding_cons, isBinding_cons, List.nil_append, List.head?_cons,
        differs]
      rfl
  | c :: d :: rest => rw [List.cons_append, isBinding_cons, isBinding_cons, List.cons_append,
      List.head?_cons, List.head?_cons]

theorem declaredName?_append {quote : Char} (quoted : isQuote quote = true)
    (before after : List Char) :
    declaredName? (before ++ quote :: after) = declaredName? before := by
  have stands := not_isBlank_of_isQuote quoted
  rw [declaredName?, definedFunction?_append quoted, declaredName?]
  cases definedFunction? before with
  | some rest => simp only [Option.map_some, trimStart_append stands, identifier_append quoted]
  | none =>
      have behind : (before ++ quote :: after).drop (identifier before).length =
          before.drop (identifier before).length ++ quote :: after :=
        List.drop_append_of_le_length (identifier_starts before).length_le
      simp only [Option.map_none, identifier_append quoted, behind, trimStart_append stands,
        isBinding_append quoted]

namespace Scan

/-- A statement declares nothing behind its first quote. -/
theorem statement_append {quote : Char} (quoted : isQuote quote = true) (scan : Scan)
    (indent : Nat) (before after : List Char) :
    scan.statement indent (before ++ quote :: after) = scan.statement indent before := by
  simp only [statement, topLevel, bodyStatement, blockStatement, declaredClass?_append quoted,
    declaredName?_append quoted]

end Scan

end Modelwright.Outline
