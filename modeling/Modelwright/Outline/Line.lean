import Modelwright.Text.Lines
import Modelwright.Text.Numeric

namespace Modelwright.Outline

open Modelwright.Text

inductive QuoteState where
  | code
  | string (quote : Char)
  | escaped (quote : Char)
  deriving DecidableEq, Repr

def isQuote (c : Char) : Bool :=
  c == '\'' || c == '"'

def QuoteState.step : QuoteState → Char → QuoteState
  | .code, c => if isQuote c then .string c else .code
  | .string quote, c =>
    if c = '\\' then .escaped quote else if c = quote then .code else .string quote
  | .escaped quote, _ => .string quote

/-- The line up to a number sign that no string holds. -/
def withoutComment (state : QuoteState) : List Char → List Char
  | [] => []
  | c :: rest =>
    if state = .code ∧ c = '#' then [] else c :: withoutComment (state.step c) rest

def isOpening (c : Char) : Bool :=
  c == '(' || c == '[' || c == '\x7b'

def isClosing (c : Char) : Bool :=
  c == ')' || c == ']' || c == '\x7d'

/-- The number of open brackets behind a text; strings are not looked into. -/
def bracketDepth (depth : Nat) (text : List Char) : Nat :=
  text.foldl
    (fun depth c => if isOpening c then depth + 1 else if isClosing c then depth - 1 else depth)
    depth

def tripleQuotes : List (List Char) := [List.replicate 3 '\'', List.replicate 3 '"']

/-- The triple quote that a text leaves open: one that occurs an odd number of times, the earlier
one if both do. -/
def openQuote? (text : List Char) : Option (List Char) :=
  match tripleQuotes.filter fun quote => occurrences quote text % 2 == 1 with
  | [] => none
  | [quote] => some quote
  | first :: second :: _ =>
    if (indexOf? second text).getD 0 < (indexOf? first text).getD 0 then some second
    else some first

def tabWidth : Nat := 4

def indentation (line : List Char) : Nat :=
  (line.takeWhile isBlank).foldr (fun c width => (if c = '\t' then tabWidth else 1) + width) 0

def isIdentifierChar (c : Char) : Bool :=
  isAlphanumeric c || c == '_'

def identifier : List Char → List Char
  | [] => []
  | c :: rest => if c.isDigit then [] else (c :: rest).takeWhile isIdentifierChar

/-- Words that start statements and may be followed by a colon. -/
def statementWords : List String :=
  ["if", "else", "elif", "for", "while", "try", "except", "finally", "with", "return", "pass",
    "lambda", "match", "case"]

def nonEmptyName (chars : List Char) : Option String :=
  if chars.isEmpty then none else some (String.ofList chars)

def declaredClass? (text : List Char) : Option String :=
  (dropLiteral? "class ".toList text).bind fun rest => nonEmptyName (identifier (trimStart rest))

def definedFunction? (text : List Char) : Option (List Char) :=
  (dropLiteral? "async def ".toList text).or (dropLiteral? "def ".toList text)

def isBinding (rest : List Char) : Bool :=
  match rest with
  | '=' :: '=' :: _ => false
  | '=' :: _ => true
  | ':' :: _ => true
  | _ => false

/-- The name that a statement binds: a function, an assignment or an annotation. -/
def declaredName? (text : List Char) : Option String :=
  match definedFunction? text with
  | some rest => nonEmptyName (identifier (trimStart rest))
  | none =>
    let name := identifier text
    if String.ofList name ∈ statementWords then none
    else if isBinding (trimStart (text.drop name.length)) then nonEmptyName name
    else none

end Modelwright.Outline
