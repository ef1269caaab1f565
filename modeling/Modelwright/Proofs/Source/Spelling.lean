import Modelwright.Proofs.Text.Pieces
import Modelwright.Source.Lexer

namespace Modelwright.Source

open Modelwright.Text

/-! How tokens are spelled.  A token that comes from a text has one of these spellings, and in front
of a gap the spelling is read back. -/

def IsIdentifier (chars : List Char) : Prop :=
  ∃ c more, chars = c :: more ∧ isIdentifierStart c = true ∧
    ∀ other ∈ more, isIdentifierChar other = true

/-- Digits, with a sign and a fraction if there are any. -/
inductive IsNumeral : List Char → Prop
  | whole {sign digits : List Char} (signed : sign = [] ∨ sign = ['-']) (some : digits ≠ [])
      (all : ∀ c ∈ digits, c.isDigit = true) : IsNumeral (sign ++ digits)
  | fraction {sign digits decimals : List Char} (signed : sign = [] ∨ sign = ['-'])
      (some : digits ≠ []) (all : ∀ c ∈ digits, c.isDigit = true) (more : decimals ≠ [])
      (others : ∀ c ∈ decimals, c.isDigit = true) :
      IsNumeral (sign ++ digits ++ '.' :: decimals)

structure IsTrimmedLine (chars : List Char) : Prop where
  line : '\n' ∉ chars
  trimmed : IsTrimmed chars

/-- What can be read of a token off a text. -/
@[simp] def Token.Proper : Token → Prop
  | .doc line => IsTrimmedLine line.toList
  | .identifier name => IsIdentifier name.toList
  | .number digits => IsNumeral digits.toList
  | _ => True

def escapeChar : Char → List Char
  | '\n' => ['\\', 'n']
  | '\r' => ['\\', 'r']
  | '\t' => ['\\', 't']
  | '\\' => ['\\', '\\']
  | '"' => ['\\', '"']
  | c => [c]

def escape (chars : List Char) : List Char :=
  chars.flatMap escapeChar

def Token.spelling : Token → List Char
  | .doc line => ['/', '/', '/', ' '] ++ line.toList
  | .identifier name => name.toList
  | .text value => '"' :: escape value.toList ++ ['"']
  | .number digits => digits.toList
  | .doubleAtSign => ['@', '@']
  | .atSign => ['@']
  | .dot => ['.']
  | .comma => [',']
  | .colon => [':']
  | .equals => ['=']
  | .question => ['?']
  | .leftParen => ['(']
  | .rightParen => [')']
  | .leftBrace => ['\x7b']
  | .rightBrace => ['\x7d']
  | .leftBracket => ['[']
  | .rightBracket => [']']

theorem escape_cons (c : Char) (chars : List Char) :
    escape (c :: chars) = escapeChar c ++ escape chars := rfl

theorem escapeChar_cases (c : Char) :
    (∃ letter, escapeChar c = ['\\', letter] ∧ letter ≠ '\n' ∧
        ∀ rest, unescape ('\\' :: letter :: rest) = c :: unescape rest) ∨
      escapeChar c = [c] ∧ c ≠ '"' ∧ c ≠ '\n' ∧ c ≠ '\\' := by
  unfold escapeChar
  split
  · exact .inl ⟨'n', rfl, by decide, fun rest => rfl⟩
  · exact .inl ⟨'r', rfl, by decide, fun rest => rfl⟩
  · exact .inl ⟨'t', rfl, by decide, fun rest => rfl⟩
  · exact .inl ⟨'\\', rfl, by decide, fun rest => rfl⟩
  · exact .inl ⟨'"', rfl, by decide, fun rest => rfl⟩
  · next newline _ _ backslash quote => exact .inr ⟨rfl, quote, newline, backslash⟩

theorem unescape_escape (chars : List Char) : unescape (escape chars) = chars := by
  induction chars with
  | nil => rfl
  | cons c rest ih =>
      rw [escape_cons]
      rcases escapeChar_cases c with ⟨letter, escaped, -, read⟩ | ⟨plain, -, -, other⟩
      · rw [escaped, List.cons_append, List.cons_append, List.nil_append, read, ih]
      · rw [plain, List.singleton_append, unescape, ih]
        all_goals grind

theorem stringItems_escape (chars after : List Char) :
    stringItems (escape chars ++ '"' :: after) = (escape chars, '"' :: after) := by
  induction chars with
  | nil => simp [escape, stringItems]
  | cons c rest ih =>
      rw [escape_cons, List.append_assoc]
      rcases escapeChar_cases c with ⟨letter, escaped, single, -⟩ | ⟨plain, quote, newline, other⟩
      · rw [escaped]
        simp [stringItems, single, ih]
      · rw [plain]
        simp only [List.singleton_append]
        rw [stringItems, if_neg (by simp [quote, newline, other]), ih]
        grind

end Modelwright.Source
