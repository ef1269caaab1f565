import Modelwright.Text.Span

namespace Modelwright.Source

inductive Token where
  | doc (text : String)
  | identifier (name : String)
  | text (value : String)
  /-- A number as it is written. -/
  | number (digits : String)
  | doubleAtSign
  | atSign
  | dot
  | comma
  | colon
  | equals
  | question
  | leftParen
  | rightParen
  | leftBrace
  | rightBrace
  | leftBracket
  | rightBracket
  deriving DecidableEq, Repr, Inhabited

structure Lexeme where
  token : Token
  span : Span
  deriving DecidableEq, Repr, Inhabited

namespace Token

def describe : Token → String
  | doc _ => "doc comment"
  | identifier name => "'" ++ name ++ "'"
  | text value => "string \"" ++ value ++ "\""
  | number digits => "number " ++ digits
  | doubleAtSign => "'@@'"
  | atSign => "'@'"
  | dot => "'.'"
  | comma => "','"
  | colon => "':'"
  | equals => "'='"
  | question => "'?'"
  | leftParen => "'('"
  | rightParen => "')'"
  | leftBrace => "'\x7b'"
  | rightBrace => "'\x7d'"
  | leftBracket => "'['"
  | rightBracket => "']'"

def punctuation? : Char → Option Token
  | '@' => some atSign
  | '.' => some dot
  | ',' => some comma
  | ':' => some colon
  | '=' => some equals
  | '?' => some question
  | '(' => some leftParen
  | ')' => some rightParen
  | '\x7b' => some leftBrace
  | '\x7d' => some rightBrace
  | '[' => some leftBracket
  | ']' => some rightBracket
  | _ => none

end Token

end Modelwright.Source
