import Modelwright.Text.Numeric

namespace Modelwright.Target

open Modelwright.Text

def keywords : List String :=
  ["False", "None", "True", "and", "as", "assert", "async", "await", "break", "class", "continue",
    "def", "del", "elif", "else", "except", "finally", "for", "from", "global", "if", "import",
    "in", "is", "lambda", "nonlocal", "not", "or", "pass", "raise", "return", "try", "while",
    "with", "yield"]

def isKeyword (name : String) : Bool :=
  keywords.contains name

def hasIdentifierShape : List Char → Bool
  | [] => false
  | c :: rest => (isAlphabetic c || c == '_') && rest.all fun d => isAlphanumeric d || d == '_'

def isIdentifier (name : String) : Bool :=
  hasIdentifierShape name.toList && !isKeyword name

end Modelwright.Target
