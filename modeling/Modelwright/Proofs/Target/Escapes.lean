import Mathlib.Data.Nat.Digits.Defs
import Modelwright.Format.Json.Reader
import Modelwright.Proofs.Outline.Literals
import Modelwright.Target.Literal

namespace Modelwright.Target

open Modelwright.Text
open Modelwright.Outline (LiteralKind)

def simpleEscape? : Char → Option Char
  | '\\' => some '\\'
  | '\'' => some '\''
  | '"' => some '"'
  | 'a' => some '\x07'
  | 'b' => some '\x08'
  | 'f' => some '\x0c'
  | 'n' => some '\n'
  | 'r' => some '\r'
  | 't' => some '\t'
  | 'v' => some '\x0b'
  | _ => none

def isOctalDigit (c : Char) : Bool :=
  '0' ≤ c && c ≤ '7'

def hexEscape? (count : Nat) (chars : List Char) : Option (List Char × List Char) :=
  ((chars.take count).mapM Json.hexDigit?).bind fun digits =>
    let point := Nat.ofDigits 16 digits.reverse
    if digits.length = count ∧ point.isValidChar then some ([Char.ofNat point], chars.drop count)
    else none

/-- The characters that an escape stands for, and the text behind it.  The backslash has been read;
one that escapes nothing stays. -/
def escape? : List Char → Option (List Char × List Char)
  | [] => none
  | '\n' :: rest => some ([], rest)
  | 'x' :: rest => hexEscape? 2 rest
  | 'u' :: rest => hexEscape? 4 rest
  | 'U' :: rest => hexEscape? 8 rest
  -- A name of a character; names are not read.
  | 'N' :: _ => none
  | c :: rest =>
    if isOctalDigit c then
      let digits := ((c :: rest).take 3).takeWhile isOctalDigit
      some ([Char.ofNat (Nat.ofDigitChars 8 digits 0)], (c :: rest).drop digits.length)
    else
      match simpleEscape? c with
      | some decoded => some ([decoded], rest)
      | none => some (['\\', c], rest)

theorem length_of_hexEscape? {count : Nat} {chars decoded rest : List Char}
    (read : hexEscape? count chars = some (decoded, rest)) : rest.length ≤ chars.length := by
  obtain ⟨digits, -, found⟩ := Option.bind_eq_some_iff.mp read
  dsimp only at found
  split at found
  · cases found
    exact (List.drop_sublist _ _).length_le
  · cases found

theorem length_of_escape? {chars decoded rest : List Char}
    (read : escape? chars = some (decoded, rest)) : rest.length ≤ chars.length := by
  unfold escape? at read
  split at read
  next => cases read
  next =>
    cases read
    exact Nat.le_succ _
  next => exact (length_of_hexEscape? read).trans (Nat.le_succ _)
  next => exact (length_of_hexEscape? read).trans (Nat.le_succ _)
  next => exact (length_of_hexEscape? read).trans (Nat.le_succ _)
  next => cases read
  next =>
    split at read
    · cases read
      exact (List.drop_sublist _ _).length_le
    · split at read
      · cases read
        exact Nat.le_succ _
      · cases read
        exact Nat.le_succ _

/-- A line may end only between triple quotes. -/
def allows (kind : LiteralKind) (c : Char) : Bool :=
  kind.long || !endsLine c

def prepend (decoded : List Char) (read : Option (List Char × List Char)) :
    Option (List Char × List Char) :=
  read.map (Prod.map (decoded ++ ·) id)

@[simp] theorem prepend_some (decoded more rest : List Char) :
    prepend decoded (some (more, rest)) = some (decoded ++ more, rest) := rfl

@[simp] theorem prepend_nil (read : Option (List Char × List Char)) : prepend [] read = read := by
  cases read with
  | none => rfl
  | some r => rfl

@[simp] theorem prepend_prepend (first second : List Char)
    (read : Option (List Char × List Char)) :
    prepend first (prepend second read) = prepend (first ++ second) read := by
  cases read with
  | none => rfl
  | some r => simp only [prepend, Option.map_some, Prod.map, List.append_assoc, id_eq]

/-- What a literal says, and the text behind its closing quotes.  The opening ones have been
read. -/
def contents? (kind : LiteralKind) : List Char → Option (List Char × List Char)
  | [] => none
  | c :: rest =>
    match dropLiteral? kind.delimiter (c :: rest) with
    | some behind => some ([], behind)
    | none =>
      if c = '\\' then
        match read : escape? rest with
        | none => none
        | some (decoded, behind) =>
          have := length_of_escape? read
          prepend decoded (contents? kind behind)
      else if allows kind c then prepend [c] (contents? kind rest)
      else none
termination_by chars => chars.length

theorem length_of_contents? {kind : LiteralKind} {chars decoded rest : List Char}
    (read : contents? kind chars = some (decoded, rest)) : rest.length < chars.length := by
  fun_induction contents? kind chars generalizing decoded with
  | case1 => cases read
  | case2 c more behind closes =>
      cases read
      have split := congrArg List.length (dropLiteral?_eq_some_iff.mp closes)
      have opening := List.length_pos_of_mem (List.mem_of_mem_head? kind.head?_delimiter)
      rw [List.length_append] at split
      omega
  | case3 => cases read
  | case4 more front behind escaped within _ ih =>
      obtain ⟨⟨later, left⟩, found, same⟩ := Option.map_eq_some_iff.mp read
      cases same
      have shorter := ih found
      rw [List.length_cons]
      exact shorter.trans (Nat.lt_succ_of_le within)
  | case5 c more _ _ _ ih =>
      obtain ⟨⟨later, left⟩, found, same⟩ := Option.map_eq_some_iff.mp read
      cases same
      exact (ih found).trans (Nat.lt_succ_self _)
  | case6 => cases read

section Productions

variable {kind : LiteralKind} {rest : List Char}

theorem contents?_close (kind : LiteralKind) (rest : List Char) :
    contents? kind (kind.delimiter ++ rest) = some ([], rest) := by
  have found : dropLiteral? kind.delimiter (kind.delimiter ++ rest) = some rest :=
    dropLiteral?_eq_some_iff.mpr rfl
  cases text : kind.delimiter ++ rest with
  | nil =>
      have leads := kind.head?_delimiter
      rw [(List.append_eq_nil_iff.mp text).1] at leads
      cases leads
  | cons c more =>
      rw [text] at found
      rw [contents?, found]

theorem contents?_escape {decoded behind : List Char}
    (read : escape? rest = some (decoded, behind)) :
    contents? kind ('\\' :: rest) = prepend decoded (contents? kind behind) := by
  have inside : dropLiteral? kind.delimiter ('\\' :: rest) = none := by
    refine Option.eq_none_iff_forall_ne_some.mpr fun after found => ?_
    have leads := congrArg List.head? (dropLiteral?_eq_some_iff.mp found)
    rw [List.head?_append, kind.head?_delimiter] at leads
    have quoted := kind.quoted
    rw [← Option.some.inj leads] at quoted
    cases quoted
  rw [contents?, inside]
  dsimp only
  rw [if_pos rfl]
  split
  next unread => cases unread.symm.trans read
  next found =>
    cases found.symm.trans read
    rfl

theorem contents?_cons {c : Char} (inside : dropLiteral? kind.delimiter (c :: rest) = none)
    (noEscape : c ≠ '\\') (allowed : allows kind c = true) :
    contents? kind (c :: rest) = prepend [c] (contents? kind rest) := by
  rw [contents?, inside]
  dsimp only
  rw [if_neg noEscape, if_pos allowed]

end Productions

def singleQuoted (long : Bool) : LiteralKind :=
  ⟨'\'', by decide, long⟩

theorem hexDigit?_getD {k : Nat} (small : k < 16) :
    Json.hexDigit? (Json.hexDigits.getD k '0') = some k := by
  have each : ∀ k < 16, Json.hexDigit? (Json.hexDigits.getD k '0') = some k := by decide
  exact each k small

theorem hexEscape?_hexByte {c : Char} (byte : c.toNat < 256) (rest : List Char) :
    hexEscape? 2 (Json.hexByte c.toNat ++ rest) = some ([c], rest) := by
  have digits : (Json.hexByte c.toNat).mapM Json.hexDigit? =
      some [c.toNat / 16 % 16, c.toNat % 16] := by
    have each (n : Nat) := hexDigit?_getD (Nat.mod_lt n (by decide : 0 < 16))
    simp only [Json.hexByte, List.mapM_cons, List.mapM_nil, each]
    rfl
  have point : Nat.ofDigits 16 [c.toNat % 16, c.toNat / 16 % 16] = c.toNat := by
    simp only [Nat.ofDigits_cons, Nat.ofDigits_nil]
    omega
  have front : (Json.hexByte c.toNat ++ rest).take 2 = Json.hexByte c.toNat := rfl
  have behind : (Json.hexByte c.toNat ++ rest).drop 2 = rest := rfl
  have valid : c.toNat.isValidChar := c.valid
  rw [hexEscape?, front, digits, Option.bind_some, behind]
  simp only [List.reverse_cons, List.reverse_nil, List.nil_append, List.singleton_append, point,
    List.length_cons, List.length_nil, true_and, valid, if_true, Char.ofNat_toNat]

theorem toNat_lt_of_isControl {c : Char} (control : isControl c = true) : c.toNat < 256 := by
  simp only [isControl, Bool.or_eq_true, Bool.and_eq_true, decide_eq_true_eq] at control
  omega

theorem contents?_escapeChar (c : Char) (rest : List Char) :
    contents? (singleQuoted false) (escapeChar c ++ rest) =
      prepend [c] (contents? (singleQuoted false) rest) := by
  unfold escapeChar
  split
  next same =>
    have read : escape? ('\\' :: rest) = some (['\\'], rest) := rfl
    rw [same]
    exact contents?_escape read
  split
  next same =>
    have read : escape? ('\'' :: rest) = some (['\''], rest) := rfl
    rw [same]
    exact contents?_escape read
  split
  next same =>
    have read : escape? ('n' :: rest) = some (['\n'], rest) := rfl
    rw [same]
    exact contents?_escape read
  split
  next same =>
    have read : escape? ('r' :: rest) = some (['\r'], rest) := rfl
    rw [same]
    exact contents?_escape read
  split
  next same =>
    have read : escape? ('t' :: rest) = some (['\t'], rest) := rfl
    rw [same]
    exact contents?_escape read
  next noEscape noQuote noBreak noReturn _ =>
    split
    next control =>
      have read : escape? ('x' :: (Json.hexByte c.toNat ++ rest)) = some ([c], rest) :=
        hexEscape?_hexByte (toNat_lt_of_isControl control) rest
      exact contents?_escape read
    next =>
      have sameLine : endsLine c = false := by simp [endsLine, noBreak, noReturn]
      refine contents?_cons ?_ noEscape (by simp [allows, sameLine])
      have other : '\'' ≠ c := Ne.symm noQuote
      simp [singleQuoted, LiteralKind.delimiter, dropLiteral?, other]

theorem contents?_escaped (chars rest : List Char) :
    contents? (singleQuoted false) (chars.flatMap escapeChar ++ '\'' :: rest) =
      some (chars, rest) := by
  induction chars with
  | nil => exact contents?_close (singleQuoted false) rest
  | cons c more ih =>
      rw [List.flatMap_cons, List.append_assoc, contents?_escapeChar, ih]
      rfl

theorem all_not_isControl_escapeChar (c : Char) :
    (escapeChar c).all (!isControl ·) = true := by
  unfold escapeChar
  split
  · rfl
  split
  · rfl
  split
  · rfl
  split
  · rfl
  split
  · rfl
  split
  next =>
    have digit : ∀ k < 16, isControl (Json.hexDigits.getD k '0') = false := by decide
    have each (n : Nat) := digit (n % 16) (Nat.mod_lt n (by decide))
    have mark : isControl '\\' = false ∧ isControl 'x' = false := by decide
    simp only [Json.hexByte, List.all_cons, List.all_nil, each, mark, Bool.not_false, Bool.and_true]
  next control => simpa using control

theorem not_isControl_textLiteral (s : String) :
    ∀ c ∈ (textLiteral s).toList, isControl c = false := by
  intro c member
  rw [textLiteral, String.toList_ofList, List.cons_append, List.mem_cons, List.mem_append,
    List.mem_singleton, List.mem_flatMap] at member
  rcases member with rfl | ⟨d, -, escaped⟩ | rfl
  · decide
  · simpa using List.all_eq_true.mp (all_not_isControl_escapeChar d) c escaped
  · decide

end Modelwright.Target
