import Modelwright.Format.Json.Value

namespace Modelwright.Json

def hexDigits : List Char := "0123456789abcdef".toList

def hexByte (n : Nat) : List Char :=
  [hexDigits.getD (n / 16 % 16) '0', hexDigits.getD (n % 16) '0']

/-- Quotes, backslashes and control characters below the space are escaped. -/
def escapeChar (c : Char) : List Char :=
  if c = '"' then ['\\', '"']
  else if c = '\\' then ['\\', '\\']
  else if c = '\x08' then ['\\', 'b']
  else if c = '\x0c' then ['\\', 'f']
  else if c = '\n' then ['\\', 'n']
  else if c = '\r' then ['\\', 'r']
  else if c = '\t' then ['\\', 't']
  else if c.toNat < 0x20 then '\\' :: 'u' :: '0' :: '0' :: hexByte c.toNat
  else [c]

def quoted (s : String) : String :=
  String.ofList ('"' :: s.toList.flatMap escapeChar ++ ['"'])

def compact : Json → String
  | .null => "null"
  | .bool true => "true"
  | .bool false => "false"
  | .number n => n.text
  | .string s => quoted s
  | .array items => "[" ++ ",".intercalate (compactItems items) ++ "]"
  | .object entries => "\x7b" ++ ",".intercalate (compactEntries entries) ++ "\x7d"
where
  compactItems : List Json → List String
    | [] => []
    | item :: items => compact item :: compactItems items
  compactEntries : List (String × Json) → List String
    | [] => []
    | (key, value) :: entries => (quoted key ++ ":" ++ compact value) :: compactEntries entries

def indentation (level : Nat) : String :=
  String.ofList (List.replicate (2 * level) ' ')

def enclose (opening closing : String) (level : Nat) (parts : List String) : String :=
  if parts.isEmpty then opening ++ closing
  else
    opening ++ "\n" ++ ",\n".intercalate (parts.map (indentation (level + 1) ++ ·)) ++ "\n" ++
      indentation level ++ closing

/-- One item or entry a line, two spaces for each level. -/
def pretty (level : Nat) : Json → String
  | .array items => enclose "[" "]" level (prettyItems (level + 1) items)
  | .object entries => enclose "\x7b" "\x7d" level (prettyEntries (level + 1) entries)
  | scalar => scalar.compact
where
  prettyItems (level : Nat) : List Json → List String
    | [] => []
    | item :: items => pretty level item :: prettyItems level items
  prettyEntries (level : Nat) : List (String × Json) → List String
    | [] => []
    | (key, value) :: entries =>
      (quoted key ++ ": " ++ pretty level value) :: prettyEntries level entries

end Modelwright.Json
