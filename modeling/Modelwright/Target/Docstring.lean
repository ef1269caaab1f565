import Modelwright.Text.Lines

namespace Modelwright.Target

open Modelwright.Text

def doubleBackslashes (chars : List Char) : List Char :=
  chars.flatMap fun c => if c = '\\' then ['\\', '\\'] else [c]

/-- The third of three quotes in a row is escaped. -/
def breakQuotes : List Char → List Char
  | '\'' :: '\'' :: '\'' :: rest => '\'' :: '\'' :: '\\' :: '\'' :: breakQuotes rest
  | c :: rest => c :: breakQuotes rest
  | [] => []

def docText (chars : List Char) : List Char :=
  breakQuotes (doubleBackslashes chars)

/-- A line of documentation; a blank one is not indented. -/
def docLine (indent : String) (part : List Char) : String :=
  let text := docText (trimEnd part)
  if text.isEmpty then "" else indent ++ String.ofList text

def docBody (indent : String) (body : List String) : List String :=
  body.flatMap fun text => (pieces '\n' text.toList).map (docLine indent)

def docLines (indent : String) (body : List String) : List String :=
  (indent ++ "'''") :: docBody indent body ++ [indent ++ "'''"]

end Modelwright.Target
