import Modelwright.Reading
import Modelwright.Source.Error

namespace Modelwright.Source

open Modelwright.Text

/-! Tokens of a source text.  At each place the longest match counts; blanks and plain comments
are passed over. -/

def isGap (c : Char) : Bool :=
  c == ' ' || c == '\t' || c == '\r' || c == '\n'

def isIdentifierStart (c : Char) : Bool :=
  c.isAlpha || c == '_'

def isIdentifierChar (c : Char) : Bool :=
  c.isAlphanum || c == '_'

def isInLine (c : Char) : Bool :=
  c != '\n'

/-- The longest run of characters and escapes that may stand in a string, and what follows. -/
def stringItems : List Char → List Char × List Char
  | [] => ([], [])
  | '\\' :: c :: rest =>
    if c = '\n' then ([], '\\' :: c :: rest)
    else
      let (items, after) := stringItems rest
      ('\\' :: c :: items, after)
  | c :: rest =>
    if c = '"' ∨ c = '\n' ∨ c = '\\' then ([], c :: rest)
    else
      let (items, after) := stringItems rest
      (c :: items, after)

theorem stringItems_append (chars : List Char) :
    (stringItems chars).1 ++ (stringItems chars).2 = chars := by
  fun_induction stringItems chars <;> simp_all

theorem length_stringItems_le (chars : List Char) :
    (stringItems chars).2.length ≤ chars.length := by
  have h := congrArg List.length (stringItems_append chars)
  rw [List.length_append] at h
  omega

/-- The value of a string; an unknown escape stands for itself. -/
def unescape : List Char → List Char
  | [] => []
  | '\\' :: 'n' :: rest => '\n' :: unescape rest
  | '\\' :: 'r' :: rest => '\r' :: unescape rest
  | '\\' :: 't' :: rest => '\t' :: unescape rest
  | '\\' :: '\\' :: rest => '\\' :: unescape rest
  | '\\' :: '"' :: rest => '"' :: unescape rest
  | '\\' :: c :: rest => '\\' :: c :: unescape rest
  | c :: rest => c :: unescape rest

def fractionPart : List Char → List Char × List Char
  | '.' :: d :: rest =>
    if d.isDigit then ('.' :: d :: rest.takeWhile Char.isDigit, rest.dropWhile Char.isDigit)
    else ([], '.' :: d :: rest)
  | chars => ([], chars)

theorem length_fractionPart_le (chars : List Char) :
    (fractionPart chars).2.length ≤ chars.length := by
  unfold fractionPart
  split
  · split
    · have := length_dropWhile_le Char.isDigit (by assumption)
      simp only [List.length_cons]
      omega
    · exact Nat.le_refl _
  · exact Nat.le_refl _

/-- A match: its text, and its token unless it is passed over. -/
structure Match where
  text : List Char
  token : Option Token
  deriving Repr

def matchRun (start : List Char) (p : Char → Bool) (token : List Char → Option Token)
    (rest : List Char) : Reading Char (rest.length + 1) Match :=
  ⟨⟨start ++ rest.takeWhile p, token (rest.takeWhile p)⟩, rest.dropWhile p,
    Nat.lt_succ_of_le (length_dropWhile_le p rest)⟩

def matchNumber (start : List Char) (chars : List Char) : Reading Char (chars.length + 1) Match :=
  let behind := fractionPart (chars.dropWhile Char.isDigit)
  let text := start ++ chars.takeWhile Char.isDigit ++ behind.1
  ⟨⟨text, some (.number (String.ofList text))⟩, behind.2,
    Nat.lt_succ_of_le (Nat.le_trans (length_fractionPart_le _) (length_dropWhile_le _ _))⟩

def match? (c : Char) (rest : List Char) : Option (Reading Char (rest.length + 1) Match) :=
  if isGap c then some (matchRun [c] isGap (fun _ => none) rest)
  else if isIdentifierStart c then
    some (matchRun [c] isIdentifierChar
      (fun more => some (.identifier (String.ofList (c :: more)))) rest)
  else if c.isDigit then some (matchNumber [c] rest)
  else if c = '-' then
    match rest with
    | d :: digits =>
      if d.isDigit then some ((matchNumber [c, d] digits).weaken (by simp)) else none
    | [] => none
  else if c = '/' then
    match rest with
    | '/' :: '/' :: line =>
      some ((matchRun ['/', '/', '/'] isInLine
        (fun text => some (.doc (String.ofList (trim text)))) line).weaken (by simp))
    | '/' :: line => some ((matchRun ['/', '/'] isInLine (fun _ => none) line).weaken (by simp))
    | _ => none
  else if c = '"' then
    match h : stringItems rest with
    | (items, '"' :: after) =>
      some ⟨⟨'"' :: items ++ ['"'], some (.text (String.ofList (unescape items)))⟩, after, by
        have := length_stringItems_le rest
        simp only [h, List.length_cons] at this
        omega⟩
    | _ => none
  else if c = '@' then
    match rest with
    | '@' :: after =>
      some ⟨⟨['@', '@'], some .doubleAtSign⟩, after, by simp only [List.length_cons]; omega⟩
    | after => some ⟨⟨[c], some .atSign⟩, after, Nat.lt_succ_self _⟩
  else (Token.punctuation? c).map fun token => ⟨⟨[c], some token⟩, rest, Nat.lt_succ_self _⟩

/-- The text that no token starts with: a string that does not close, or one character. -/
def unrecognized (c : Char) (rest : List Char) : List Char :=
  if c = '"' then c :: (stringItems rest).1 else [c]

def lexFrom (offset : Nat) (chars : List Char) : Except ParseError (List Lexeme) :=
  match chars with
  | [] => .ok []
  | c :: rest =>
    match match? c rest with
    | none =>
      let slice := unrecognized c rest
      .error ⟨.unrecognized (String.ofList slice), ⟨offset, offset + byteLength slice⟩⟩
    | some found => do
      let stop := offset + byteLength found.value.text
      have : found.rest.length < (c :: rest).length := found.shorter
      let more ← lexFrom stop found.rest
      match found.value.token with
      | none => return more
      | some token => return ⟨token, ⟨offset, stop⟩⟩ :: more
termination_by chars.length
decreasing_by exact found.shorter

def tokenize (source : String) : Except ParseError (List Lexeme) :=
  lexFrom 0 source.toList

end Modelwright.Source
