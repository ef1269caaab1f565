import Modelwright.Format.Json.Reader
import Modelwright.Format.Yaml.Token

namespace Modelwright.Yaml

/-- Whether a character may stand in an address as it is; a verbatim one may also hold some
punctuation of collections. -/
def isAddressChar (verbatim : Bool) (c : Char) : Bool :=
  isWordChar c || ";/?:@&=+$.!~*'()".toList.contains c || (verbatim && ",[]".toList.contains c)

/-- The bytes of an address and what follows it.  A percent sign and two digits give a byte. -/
def addressBytes? (verbatim : Bool) : List Char → Option (List UInt8 × List Char)
  | '%' :: a :: b :: rest => do
    let byte := (← Json.hexDigit? a) * 16 + (← Json.hexDigit? b)
    let (bytes, behind) ← addressBytes? verbatim rest
    return (byte.toUInt8 :: bytes, behind)
  | c :: rest =>
    if c = '%' then none
    else if isAddressChar verbatim c then do
      let (bytes, behind) ← addressBytes? verbatim rest
      return (c.val.toUInt8 :: bytes, behind)
    else some ([], c :: rest)
  | [] => some ([], [])

def address? (verbatim : Bool) (cursor : Cursor) : Option (String × Cursor) := do
  let (bytes, behind) ← addressBytes? verbatim cursor.rest
  return (← String.fromUTF8? ⟨bytes.toArray⟩,
    cursor.advance (cursor.rest.length - behind.length))

def someAddress? (verbatim : Bool) (cursor : Cursor) : Option (String × Cursor) :=
  (address? verbatim cursor).filter (!·.1.isEmpty)

/-- A tag in its three forms: verbatim, behind a handle, or a local name. -/
def tagForm? (cursor : Cursor) : Option (Token × Cursor) :=
  match cursor.rest with
  | '!' :: '<' :: _ => do
    let (suffix, after) ← someAddress? true (cursor.advance 2)
    if after.peek? = some '>' then some (.tag "" suffix, after.next) else none
  | _ => do
    let (word, after) := cursor.next.takeRun isWordChar
    let word := String.ofList word
    if after.peek? = some '!' then
      let (suffix, after) ← someAddress? false after.next
      return (.tag ("!" ++ word ++ "!") suffix, after)
    else
      let (more, after) ← address? false after
      let name := word ++ more
      return (if name.isEmpty then .tag "" "!" else .tag "!" name, after)

def tag? (flow : Bool) (cursor : Cursor) : Option (Token × Cursor) :=
  (tagForm? cursor).filter fun (_, after) =>
    endsWord after.rest || (flow && after.peek? == some ',')

def anchorName? (cursor : Cursor) : Option (String × Cursor) :=
  let (name, after) := cursor.takeRun isWordChar
  let separated := endsWord after.rest || after.peek?.any "?:,]\x7d%@\x60".toList.contains
  if !name.isEmpty && separated then some (String.ofList name, after) else none

/-- A decimal number of at most nine digits. -/
def shortNumber? (cursor : Cursor) : Option (Nat × Cursor) :=
  let (digits, after) := cursor.takeRun Char.isDigit
  if digits.isEmpty || digits.length > 9 then none
  else some (digits.foldl (fun n d => n * 10 + (d.toNat - '0'.toNat)) 0, after)

/-- The version of the language must be 1.1 or 1.2. -/
def version? (cursor : Cursor) : Option (Token × Cursor) := do
  let (major, after) ← shortNumber? cursor.skipSpaces
  if after.peek? = some '.' then
    let (minor, after) ← shortNumber? after.next
    if major = 1 ∧ (minor = 1 ∨ minor = 2) then some (.versionDirective, after) else none
  else none

/-- A handle: a word between exclamation marks, or one of them alone. -/
def handle? (cursor : Cursor) : Option (String × Cursor) :=
  if cursor.peek? = some '!' then
    let (word, after) := cursor.next.takeRun isWordChar
    if after.peek? = some '!' then some ("!" ++ String.ofList word ++ "!", after.next)
    else if word.isEmpty then some ("!", after)
    else none
  else none

def abbreviation? (cursor : Cursor) : Option (Token × Cursor) := do
  let (handle, after) ← handle? cursor.skipSpaces
  if after.peek?.any isSpace then
    let (start, after) ← someAddress? true after.skipSpaces
    if endsWord after.rest then some (.tagDirective handle start, after) else none
  else none

def directive? (cursor : Cursor) : Option (Token × Cursor) := do
  let (name, after) := cursor.next.takeRun isWordChar
  if endsWord after.rest then
    let (token, after) ←
      if name = "YAML".toList then version? after
      else if name = "TAG".toList then abbreviation? after
      else none
    return (token, ← after.endLine?)
  else none

end Modelwright.Yaml
