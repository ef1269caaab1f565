import Modelwright.Proofs.Target.Alike
import Modelwright.Target.Identifier
import Modelwright.Target.Syntax

namespace Modelwright.Target

open Modelwright.Text
open Skeleton

theorem isQuote_single : isQuote '\'' = true := by decide

theorem isPlain_of_isAlphanumeric {c : Char} (alphanumeric : isAlphanumeric c = true) :
    isPlain c = true := by
  have apart {d : Char} (other : isAlphanumeric d = false) : c ≠ d := by
    rintro rfl
    exact Bool.false_ne_true (other.symm.trans alphanumeric)
  simp only [isPlain, isQuote, endsLine, Bool.and_eq_true, Bool.not_eq_true',
    Bool.or_eq_false_iff, decide_eq_true_eq, decide_eq_false_iff_not]
  exact ⟨⟨⟨⟨apart (by decide), apart (by decide)⟩, apart (by decide), apart (by decide)⟩,
    apart (by decide)⟩, apart (by decide)⟩

theorem isPlain_of_isIdentifierPart {c : Char} (part : (isAlphanumeric c || c == '_') = true) :
    isPlain c = true := by
  rcases Bool.or_eq_true_iff.mp part with alphanumeric | underscore
  · exact isPlain_of_isAlphanumeric alphanumeric
  · rw [eq_of_beq underscore]
    decide

theorem plain_of_isIdentifier {name : String} (identifier : isIdentifier name = true) :
    Plain name := by
  obtain ⟨shape, -⟩ := Bool.and_eq_true_iff.mp identifier
  unfold Plain
  cases chars : name.toList with
  | nil => decide
  | cons first rest =>
      rw [chars, hasIdentifierShape, Bool.and_eq_true, List.all_eq_true] at shape
      obtain ⟨head, tail⟩ := shape
      refine List.forall_mem_cons.mpr ⟨isPlain_of_isIdentifierPart ?_, fun c member => ?_⟩
      · rcases Bool.or_eq_true_iff.mp head with alphabetic | underscore
        · simp [isAlphanumeric, alphabetic]
        · simp [underscore]
      · exact isPlain_of_isIdentifierPart (tail c member)

theorem isAlphanumeric_of_isDigit {c : Char} (digit : c.isDigit = true) :
    isAlphanumeric c = true := by
  have ascii : c.toNat < 0x80 := by
    simp only [Char.isDigit, Bool.and_eq_true, decide_eq_true_eq] at digit
    have below := UInt32.le_iff_toNat_le.mp digit.2
    exact Nat.lt_of_le_of_lt below (by decide)
  simp [isAlphanumeric, isNumeric_of_isDigit ascii digit]

theorem isPlain_of_isDigit {c : Char} (digit : c.isDigit = true) : isPlain c = true :=
  isPlain_of_isAlphanumeric (isAlphanumeric_of_isDigit digit)

theorem plain_toString_nat (n : Nat) : Plain (toString n) := by
  intro c member
  have digit : c ∈ Nat.toDigits 10 n := by
    rwa [← String.toList_ofList (l := Nat.toDigits 10 n)]
  exact isPlain_of_isDigit (Nat.isDigit_of_mem_toDigits (by decide) (by decide) digit)

theorem plain_toString_int (n : Int) : Plain (toString n) := by
  cases n with
  | ofNat n => exact plain_toString_nat n
  | negSucc n =>
      have sign : Plain "-" := by decide
      exact sign.append (plain_toString_nat (n + 1))

section Fractions

variable {digits : List Char}

theorem plain_zeros (count : Nat) : PlainChars (Binary64.zeros count) := by
  intro c member
  rw [List.eq_of_mem_replicate member]
  decide

theorem plain_positional (plain : PlainChars digits) (top : Int) :
    PlainChars (Binary64.positional digits top) := by
  unfold Binary64.positional
  split
  · exact .append (.cons (by decide) (.cons (by decide) (plain_zeros _))) plain
  · refine .append (.append (plain.take _) (plain_zeros _)) (.cons (by decide) ?_)
    split
    · decide
    · exact plain.drop _

theorem plain_scientific (plain : PlainChars digits) (top : Int) :
    PlainChars (Binary64.scientific digits top) := by
  unfold Binary64.scientific
  refine .append (.append (plain.take 1) ?_) (.cons (by decide) (.cons ?_ (plain_toString_nat _)))
  · split
    · decide
    · exact .cons (by decide) (plain.drop 1)
  · split
    · decide
    · decide

end Fractions

theorem plain_fraction (x : Binary64) : Plain x.text := by
  have sign : PlainChars (if x.negative then ['-'] else []) := by
    cases x.negative with
    | false => decide
    | true => decide
  unfold Plain Binary64.text
  dsimp only
  split
  · rw [String.toList_ofList]
    exact sign.append (by decide)
  · rw [String.toList_ofList]
    refine sign.append ?_
    split
    · exact plain_positional (plain_toString_nat _) _
    · exact plain_scientific (plain_toString_nat _) _

theorem plain_number (n : Number) : Plain n.text := by
  cases n with
  | int value => exact plain_toString_int value
  | float x => exact plain_fraction x

theorem plain_hexByte (n : Nat) : PlainChars (Json.hexByte n) := by
  have digits : PlainChars Json.hexDigits := by decide
  have digit (k : Nat) (bound : k < 16) : isPlain (Json.hexDigits.getD k '0') = true := by
    rw [List.getD_eq_getElem?_getD, List.getElem?_eq_getElem bound, Option.getD_some]
    exact digits _ (List.getElem_mem bound)
  exact .cons (digit _ (Nat.mod_lt _ (by decide)))
    (.cons (digit _ (Nat.mod_lt _ (by decide))) (by decide))

theorem run_escapeChar (c : Char) :
    run (.short '\'') (escapeChar c) = (.short '\'', []) := by
  unfold escapeChar
  split
  · rfl
  split
  · rfl
  split
  · rfl
  split
  · rfl
  split
  · rfl
  next noEscape noQuote noNewline noReturn _ =>
    split
    · have mark : run (.short '\'') ['\\', 'x'] = (.short '\'', []) := rfl
      exact run_trans mark (run_short_plain (plain_hexByte _) isQuote_single)
    · have sameLine : endsLine c = false := by simp [endsLine, noNewline, noReturn]
      simp [run_cons, step, shortStep, noEscape, noQuote, sameLine]

theorem run_escaped (chars : List Char) :
    run (.short '\'') (chars.flatMap escapeChar) = (.short '\'', []) :=
  run_flatMap_dropped fun c _ => run_escapeChar c

theorem head?_escapeChar_append (c : Char) (rest : List Char) :
    (escapeChar c ++ rest).head? ≠ some '\'' := by
  unfold escapeChar
  repeat' split
  all_goals simp_all

theorem scans_textLiteral (value : String) :
    Scans (textLiteral value).toList ['\'', '\''] := by
  rw [textLiteral, String.toList_ofList]
  refine scans_short isQuote_single (run_escaped _) ?_
  cases value.toList with
  | nil => simp
  | cons c rest => exact head?_escapeChar_append c _

theorem alike_textLiteral (first second : String) :
    Alike (textLiteral first) (textLiteral second) :=
  ⟨_, scans_textLiteral first, scans_textLiteral second⟩

theorem scans_quoted {body : String} (plain : Plain body) :
    Scans ("'" ++ body ++ "'").toList ['\'', '\''] := by
  rw [String.toList_append, String.toList_append]
  refine scans_short isQuote_single (run_short_plain plain isQuote_single) ?_
  intro found
  exact absurd (plain _ (List.mem_of_mem_head? found)) (by decide)

def quotesAhead (chars : List Char) : Nat :=
  (chars.takeWhile (· = '\'')).length

theorem docText_quotes (rest : List Char) :
    docText ('\'' :: '\'' :: '\'' :: rest) = '\'' :: '\'' :: '\\' :: '\'' :: docText rest := rfl

theorem docText_backslash (rest : List Char) :
    docText ('\\' :: rest) = '\\' :: '\\' :: docText rest := by
  simp [docText, doubleBackslashes, breakQuotes]

theorem docText_cons {c : Char} {rest : List Char} (noEscape : c ≠ '\\')
    (apart : ∀ more, c = '\'' → rest = '\'' :: '\'' :: more → False) :
    docText (c :: rest) = c :: docText rest := by
  have doubled : doubleBackslashes (c :: rest) = c :: doubleBackslashes rest := by
    simp [doubleBackslashes, noEscape]
  rw [docText, docText, doubled]
  apply breakQuotes.eq_2
  rintro more rfl tail
  match rest with
  | [] => simp [doubleBackslashes] at tail
  | [first] =>
      by_cases escaped : first = '\\'
      · simp [doubleBackslashes, escaped] at tail
      · simp [doubleBackslashes, escaped] at tail
  | first :: second :: others =>
      by_cases firstEscaped : first = '\\'
      · simp [doubleBackslashes, firstEscaped] at tail
      · by_cases secondEscaped : second = '\\'
        · simp [doubleBackslashes, firstEscaped, secondEscaped] at tail
        · simp only [doubleBackslashes, List.flatMap_cons, firstEscaped, secondEscaped, if_false,
            List.singleton_append, List.cons.injEq] at tail
          obtain ⟨rfl, rfl, -⟩ := tail
          exact apart others rfl rfl

theorem quotesAhead_le_one {rest : List Char}
    (apart : ∀ more, rest = '\'' :: '\'' :: more → False) : quotesAhead rest ≤ 1 := by
  match rest with
  | [] => simp [quotesAhead]
  | [first] =>
      by_cases quote : first = '\''
      · simp [quotesAhead, quote]
      · simp [quotesAhead, quote]
  | first :: second :: others =>
      by_cases firstQuote : first = '\''
      · have noQuote : second ≠ '\'' := by
          rintro rfl
          exact apart others (by rw [firstQuote])
        simp [quotesAhead, firstQuote, noQuote]
      · simp [quotesAhead, firstQuote]

/-- Documentation never gets to a third closing quote: the quotes just seen and those ahead are two
at most, unless none was just seen. -/
theorem run_docText (chars : List Char) (closing : Nat)
    (few : closing = 0 ∨ closing + quotesAhead chars ≤ 2) :
    ∃ last ≤ 2, run (.long '\'' closing) (docText chars) = (.long '\'' last, []) := by
  induction chars using breakQuotes.induct generalizing closing with
  | case1 rest ih =>
      -- Three quotes ahead rule out a quote just seen; the escaped third one starts the count anew.
      obtain rfl : closing = 0 := by
        refine few.resolve_right ?_
        simp only [quotesAhead, List.takeWhile_cons, decide_true, if_true, List.length_cons]
        omega
      obtain ⟨last, bound, ran⟩ := ih 0 (.inl rfl)
      refine ⟨last, bound, ?_⟩
      rw [docText_quotes]
      have group : run (.long '\'' 0) ['\'', '\'', '\\', '\''] = (.long '\'' 0, []) := rfl
      exact run_trans group ran
  | case2 c rest apart ih =>
      by_cases escape : c = '\\'
      · obtain ⟨last, bound, ran⟩ := ih 0 (.inl rfl)
        refine ⟨last, bound, ?_⟩
        rw [escape, docText_backslash]
        have pair : run (.long '\'' closing) ['\\', '\\'] = (.long '\'' 0, []) := rfl
        exact run_trans pair ran
      · rw [docText_cons escape apart]
        by_cases quote : c = '\''
        · -- One quote moves from those ahead to those just seen.
          have ahead : quotesAhead (c :: rest) = quotesAhead rest + 1 := by
            simp [quotesAhead, quote]
          have fewAhead : quotesAhead rest ≤ 1 := quotesAhead_le_one (apart · quote)
          obtain ⟨last, bound, ran⟩ := ih (closing + 1) (.inr (by omega))
          have stillOpen : closing ≠ 2 := by omega
          have stepped : step (.long '\'' closing) c = (.long '\'' (closing + 1), []) := by
            simp [step, quote, stillOpen]
          exact ⟨last, bound, run_step stepped ran⟩
        · obtain ⟨last, bound, ran⟩ := ih 0 (.inl rfl)
          have stepped : step (.long '\'' closing) c = (.long '\'' 0, []) := by
            simp [step, quote, escape]
          exact ⟨last, bound, run_step stepped ran⟩
  | case3 => exact ⟨closing, by omega, rfl⟩

theorem run_docLine (part : List Char) :
    run (.long '\'' 0) ((docLine indent part).toList ++ ['\n']) = (.long '\'' 0, []) := by
  have ends (closing : Nat) : run (.long '\'' closing) ['\n'] = (.long '\'' 0, []) := by
    simp [run_cons, step]
  unfold docLine
  dsimp only
  split
  · exact ends 0
  · rw [String.toList_append, String.toList_ofList]
    obtain ⟨last, -, ran⟩ := run_docText (trimEnd part) 0 (.inl rfl)
    exact run_trans (run_trans (run_long_plain (by decide) isQuote_single) ran) (ends last)

theorem run_long_lines {lines : List String}
    (each : ∀ line ∈ lines, run (.long '\'' 0) (line.toList ++ ['\n']) = (.long '\'' 0, [])) :
    run (.long '\'' 0) (linesText lines) = (.long '\'' 0, []) :=
  run_flatMap_dropped each

theorem run_docBody (body : List String) :
    run (.long '\'' 0) (linesText (docBody indent body)) = (.long '\'' 0, []) := by
  refine run_long_lines fun line member => ?_
  obtain ⟨text, -, inText⟩ := List.mem_flatMap.mp member
  obtain ⟨part, -, rfl⟩ := List.mem_map.mp inText
  exact run_docLine part

theorem run_docLines (body : List String) :
    run .code (linesText (docLines indent body)) = (.code, "    ''''''\n".toList) := by
  have opening : run .code (indent ++ "'''\n").toList = (.long '\'' 0, "    '''".toList) := by
    decide
  have closing : run (.long '\'' 0) (indent ++ "'''\n").toList = (.code, "'''\n".toList) := by
    decide
  have parts : linesText (docLines indent body) =
      (indent ++ "'''\n").toList ++ (linesText (docBody indent body) ++
        (indent ++ "'''\n").toList) := by
    simp [docLines, linesText]
  rw [parts]
  exact run_trans opening (run_trans (run_docBody body) closing)

theorem alikeLines_docLines (first second : List String) :
    AlikeLines (docLines indent first) (docLines indent second) :=
  ⟨_, run_docLines first, run_docLines second⟩

end Modelwright.Target
