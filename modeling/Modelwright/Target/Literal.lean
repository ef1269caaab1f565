import Modelwright.Format.Json.Writer
import Modelwright.Text.Blank

namespace Modelwright.Target

open Modelwright.Text

def escapeChar (c : Char) : List Char :=
  if c = '\\' then ['\\', '\\']
  else if c = '\'' then ['\\', '\'']
  else if c = '\n' then ['\\', 'n']
  else if c = '\r' then ['\\', 'r']
  else if c = '\t' then ['\\', 't']
  else if isControl c then '\\' :: 'x' :: Json.hexByte c.toNat
  else [c]

def textLiteral (s : String) : String :=
  String.ofList ('\'' :: s.toList.flatMap escapeChar ++ ['\''])

def dataLiteral : Json → String
  | .null => "None"
  | .bool true => "True"
  | .bool false => "False"
  | .number n => n.text
  | .string s => textLiteral s
  | .array items => "[" ++ ", ".intercalate (itemLiterals items) ++ "]"
  | .object entries => "\x7b" ++ ", ".intercalate (entryLiterals entries) ++ "\x7d"
where
  itemLiterals : List Json → List String
    | [] => []
    | item :: items => dataLiteral item :: itemLiterals items
  entryLiterals : List (String × Json) → List String
    | [] => []
    | (key, value) :: entries =>
      (textLiteral key ++ ": " ++ dataLiteral value) :: entryLiterals entries

end Modelwright.Target
