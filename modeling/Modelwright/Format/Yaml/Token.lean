namespace Modelwright.Yaml

/-! Tokens of a document: its punctuation, and the structure that indentation gives. -/

/-- How a scalar is written.  Folded texts count as quoted. -/
inductive Style where
  | plain
  | literal
  | quoted
  deriving DecidableEq, Repr, Inhabited

inductive Token where
  | versionDirective
  | tagDirective (handle start : String)
  | documentStart
  | documentEnd
  | blockSequenceStart
  | blockMappingStart
  | blockEnd
  | flowSequenceStart
  | flowSequenceEnd
  | flowMappingStart
  | flowMappingEnd
  | blockEntry
  | flowEntry
  | key
  | value
  | alias (name : String)
  | anchor (name : String)
  | tag (handle suffix : String)
  | scalar (style : Style) (text : String)
  deriving DecidableEq, Repr, Inhabited

structure Cursor where
  rest : List Char
  line : Nat
  column : Nat
  deriving Repr, Inhabited

def isLineSeparator (c : Char) : Bool :=
  c.toNat == 0x2028 || c.toNat == 0x2029

def isBreak (c : Char) : Bool :=
  c == '\n' || isLineSeparator c

def isSpace (c : Char) : Bool :=
  c == ' ' || c == '\t'

def endsWord : List Char → Bool
  | [] => true
  | c :: _ => isSpace c || isBreak c

def isWordChar (c : Char) : Bool :=
  c.isAlphanum || c == '_' || c == '-'

def isDocumentMark (chars : List Char) : Bool :=
  match chars with
  | a :: b :: c :: rest => (a == '-' || a == '.') && a == b && b == c && endsWord rest
  | _ => false

namespace Cursor

def next (cursor : Cursor) : Cursor :=
  match cursor.rest with
  | [] => cursor
  | c :: rest =>
    if isBreak c then ⟨rest, cursor.line + 1, 0⟩ else ⟨rest, cursor.line, cursor.column + 1⟩

/-- The place behind a number of characters of the same line. -/
def advance (cursor : Cursor) (count : Nat) : Cursor :=
  ⟨cursor.rest.drop count, cursor.line, cursor.column + count⟩

def peek? (cursor : Cursor) : Option Char :=
  cursor.rest.head?

def takeRun (cursor : Cursor) (p : Char → Bool) : List Char × Cursor :=
  let run := cursor.rest.takeWhile p
  (run, cursor.advance run.length)

def skipSpaces (cursor : Cursor) : Cursor :=
  (cursor.takeRun isSpace).2

def skipComment (cursor : Cursor) : Cursor :=
  if cursor.peek? = some '#' then (cursor.takeRun (!isBreak ·)).2 else cursor

/-- Blanks and a comment to the end of the line; nothing else may stand there. -/
def endLine? (cursor : Cursor) : Option Cursor :=
  let after := cursor.skipSpaces.skipComment
  match after.peek? with
  | none => some after
  | some c => if isBreak c then some after.next else none

end Cursor

end Modelwright.Yaml
