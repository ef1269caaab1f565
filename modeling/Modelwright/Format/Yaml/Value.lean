import Modelwright.Format.Json.Reader
import Modelwright.Format.Yaml.Token
import Modelwright.Text.Lines

namespace Modelwright.Yaml

open Modelwright.Text

def isNullWord (text : String) : Bool :=
  ["null", "Null", "NULL", "~"].contains text

def boolWord? (text : String) : Option Bool :=
  [("true", true), ("True", true), ("TRUE", true), ("false", false), ("False", false),
    ("FALSE", false)].lookup text

def digitsIn? (base : Nat) (chars : List Char) : Option Nat :=
  if chars.isEmpty then none
  else chars.foldlM (fun value c => do
    let d ← Json.hexDigit? c
    if d < base then some (value * base + d) else none) 0

def basePrefixes : List (List Char × Nat) :=
  [(['0', 'x'], 16), (['0', 'o'], 8), (['0', 'b'], 2)]

def markedDigits? (chars : List Char) : Option Nat :=
  basePrefixes.findSome? fun base => (dropLiteral? base.1 chars).bind (digitsIn? base.2)

def withoutPlus : List Char → List Char
  | '+' :: rest => rest
  | chars => chars

def withoutSign : List Char → List Char
  | '+' :: rest => rest
  | '-' :: rest => rest
  | chars => chars

/-- More than one digit with a zero in front is not a number. -/
def isZeroPadded (chars : List Char) : Bool :=
  match withoutSign chars with
  | '0' :: d :: rest => (d :: rest).all Char.isDigit
  | _ => false

def natural? (chars : List Char) : Option Nat :=
  (markedDigits? (withoutPlus chars)).or <|
    if isZeroPadded chars then none else digitsIn? 10 (withoutPlus chars)

def negated? : List Char → Option Nat
  | '-' :: rest =>
    (markedDigits? rest).or <| if isZeroPadded ('-' :: rest) then none else digitsIn? 10 rest
  | _ => none

inductive FloatWord where
  | finite (value : Binary64)
  /-- An infinity, or no number. -/
  | special
  deriving Repr

def specialWords : List String :=
  [".inf", ".Inf", ".INF", "+.inf", "+.Inf", "+.INF", "-.inf", "-.Inf", "-.INF", ".nan", ".NaN",
    ".NAN"]

def exponentOf? : List Char → Option Int
  | [] => some 0
  | c :: rest =>
    if c = 'e' ∨ c = 'E' then
      match rest with
      | '+' :: digits => (digitsIn? 10 digits).map (↑·)
      | '-' :: digits => (digitsIn? 10 digits).map (-↑·)
      | digits => (digitsIn? 10 digits).map (↑·)
    else none

/-- A decimal without a sign: digits, a point among or around them, and an exponent. -/
def decimal? (negative : Bool) (chars : List Char) : Option Binary64 := do
  let whole := chars.takeWhile Char.isDigit
  let (fraction, rest) := match chars.dropWhile Char.isDigit with
    | '.' :: rest => (rest.takeWhile Char.isDigit, rest.dropWhile Char.isDigit)
    | rest => ([], rest)
  let significand ← digitsIn? 10 (whole ++ fraction)
  let exponent ← exponentOf? rest
  Binary64.ofDecimal? negative significand (exponent - fraction.length)

def float? (text : String) : Option FloatWord :=
  if specialWords.contains text then some .special
  else
    let chars := text.toList
    let value := match chars with
      | '-' :: rest => decimal? true rest
      | '+' :: rest => decimal? false rest
      | _ => decimal? false chars
    value.map .finite

/-- A word of digits stands for an integer of 64 bits; one that needs up to 128 bits has no
value. -/
def integer? (chars : List Char) : Option (Option Json) :=
  match natural? chars, negated? chars with
  | some n, _ =>
    if n < 1 <<< 64 then some (some (.number (.int n)))
    else if n < 1 <<< 128 then some none
    else none
  | none, some n =>
    if n ≤ 1 <<< 63 then some (some (.number (.int (-n))))
    else if n ≤ 1 <<< 127 then some none
    else none
  | none, none => none

def floatJson : FloatWord → Json
  | .finite x => .number (.float x)
  | .special => .null

def plainValue? (text : String) : Option Json :=
  if text.isEmpty || isNullWord text then some .null
  else match boolWord? text with
    | some b => some (.bool b)
    | none =>
      match integer? text.toList with
      | some value => value
      | none =>
        if isZeroPadded text.toList then some (.string text)
        else some (((float? text).map floatJson).getD (.string text))

/-- How a scalar reads; only a plain one can be other than a text. -/
def scalar (style : Style) (text : String) : Scalar :=
  if style = .plain then
    { text? := some text
      bool? := boolWord? text
      nat? := (natural? text.toList).filter (· < 1 <<< 64)
      missing? := some (text.isEmpty || isNullWord text)
      isBlank := text.isEmpty
      value? := plainValue? text }
  else .ofText? (some text)

def coreTag (name : String) : String := "tag:yaml.org,2002:" ++ name

def coreValue? (tag text : String) : Option Json :=
  if tag = coreTag "bool" then (boolWord? text).map .bool
  else if tag = coreTag "int" then (integer? text.toList).join
  else if tag = coreTag "float" then (float? text).map floatJson
  else if tag = coreTag "null" then if isNullWord text then some .null else none
  else some (.string text)

/-- How a scalar with a tag that names no case reads.  Besides plain ones, literal texts can be
truth values if the tag says so. -/
def taggedScalar (tag : String) (style : Style) (text : String) : Scalar :=
  let reading := scalar style text
  { reading with
    bool? :=
      if style = .literal ∧ tag = coreTag "bool" then boolWord? text else reading.bool?
    nat? :=
      if tag = coreTag "int" then (natural? text.toList).filter (· < 1 <<< 64) else reading.nat?
    missing? :=
      if style = .plain ∧ tag = coreTag "null" then
        if isNullWord text then some true else none
      else some false
    value? := coreValue? tag text }

end Modelwright.Yaml
