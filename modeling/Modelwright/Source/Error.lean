import Modelwright.Source.Token
import Modelwright.Text.Excerpt

namespace Modelwright.Source

/-- What the grammar allows at a place. -/
inductive Expectation where
  | token (token : Token)
  | identifier
  | attributeName
  | text
  | value
  | blockKeyword
  | modelMember
  | enumMember
  deriving DecidableEq, Repr

namespace Expectation

def describe : Expectation → String
  | token t => t.describe
  | identifier => "an identifier"
  | attributeName => "an identifier"
  | text => "a string"
  | value => "a value"
  | blockKeyword => "a block keyword"
  | modelMember => "a field, a block attribute or '\x7d'"
  | enumMember => "an enum value or '\x7d'"

def endMessage : Expectation → String
  | modelMember => "expected " ++ modelMember.describe ++ ", found end of input"
  | enumMember => "expected " ++ enumMember.describe ++ ", found end of input"
  | _ => "unexpected end of input"

def hint? : Expectation → Option Token → Option String
  | attributeName, _ => some "attributes look like @unique, @default(0) or @@map(\"table\")"
  | blockKeyword, some (.identifier _) =>
    some "blocks start with model, enum, datasource or generator"
  | _, _ => none

end Expectation

/-- A place of the grammar and the token found there, or none at the end. -/
structure Mismatch where
  wanted : Expectation
  found : Option Lexeme
  deriving DecidableEq, Repr

inductive Fault where
  | unrecognized (slice : String)
  | mismatch (wanted : Expectation) (found : Option Token)
  deriving DecidableEq, Repr

structure ParseError where
  fault : Fault
  span : Span
  deriving DecidableEq, Repr

namespace Fault

def message : Fault → String
  | unrecognized slice => "unexpected character sequence '" ++ slice ++ "'"
  | mismatch wanted (some token) =>
    "expected " ++ wanted.describe ++ ", found " ++ token.describe
  | mismatch wanted none => wanted.endMessage

def hint? : Fault → Option String
  | unrecognized slice =>
    if slice.toList.head? = some '"' then
      some "string literals must be closed on the same line"
    else none
  | mismatch wanted found => wanted.hint? found

end Fault

namespace ParseError

def message (error : ParseError) : String := error.fault.message

def hint? (error : ParseError) : Option String := error.fault.hint?

def format (error : ParseError) (source : String) : String :=
  excerpt source error.message error.span error.hint?

end ParseError

/-- A mismatch at the end points behind the last character. -/
def Mismatch.error (sourceLength : Nat) (mismatch : Mismatch) : ParseError where
  fault := .mismatch mismatch.wanted (mismatch.found.map (·.token))
  span := (mismatch.found.map (·.span)).getD ⟨sourceLength, sourceLength⟩

end Modelwright.Source
