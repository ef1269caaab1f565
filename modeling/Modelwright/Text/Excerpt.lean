import Modelwright.Text.Span

namespace Modelwright

open Modelwright.Text

namespace Excerpt

/-- A line number in a column of at least three characters. -/
def lineNumber (line : Nat) : String :=
  let digits := toString line
  String.ofList (List.replicate (3 - digits.length) ' ') ++ digits

/-- The caret under the first character of the span and the tildes under the others.  They stop at
the end of the shown line. -/
def marker (column width lineLength : Nat) : String :=
  String.ofList <|
    List.replicate column ' ' ++ '^' ::
      List.replicate (min width (lineLength + 1 - column) - 1) '~'

/-- The source line and its marker; an offset behind the last line has none. -/
def quotation (source : List Char) (span : Span) : String :=
  let (line, column) := lineColumn source span.start
  match (lines source)[line - 1]? with
  | none => ""
  | some shown =>
    "   |\n" ++ lineNumber line ++ "| " ++ String.ofList shown ++ "\n   |" ++
      marker column span.width shown.length ++ "\n"

def hintLine : Option String → String
  | none => ""
  | some hint => "   = hint: " ++ hint ++ "\n"

end Excerpt

def excerpt (source message : String) (span : Span) (hint : Option String) : String :=
  let (line, column) := lineColumn source.toList span.start
  "error: " ++ message ++ "\n  --> line " ++ toString line ++ ":" ++ toString column ++ "\n" ++
    Excerpt.quotation source.toList span ++ Excerpt.hintLine hint

end Modelwright
