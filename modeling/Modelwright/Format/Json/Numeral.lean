import Modelwright.Format.Json.Value

namespace Modelwright.Json

/-! The value of a numeral.  The significant digits are gathered in 64 bits and scaled afterwards by
a power of ten, so a long numeral can be one unit away from the nearest number. -/

/-- The parts of a numeral; `fraction` and `exponent` are absent when not written. -/
structure Numeral where
  negative : Bool
  whole : List Nat
  fraction : Option (List Nat)
  exponent : Option (Bool × List Nat)
  deriving Repr

def wordLimit : Nat := 1 <<< 64

/-- Gathers digits until the next one would not fit; the digits left over are returned. -/
def gather (significand : Nat) : List Nat → Nat × List Nat
  | [] => (significand, [])
  | d :: digits =>
    if significand * 10 + d < wordLimit then gather (significand * 10 + d) digits
    else (significand, d :: digits)

def ofDigits (digits : List Nat) : Nat :=
  digits.foldl (fun value d => value * 10 + d) 0

/-- The nearest number to a power of ten up to `10 ^ 308`. -/
def powerOfTen (exponent : Nat) : Option Binary64 :=
  Binary64.ofDecimal? false 1 exponent

/-- Division by `10 ^ count`, at most 308 places at a time. -/
def scaleDown (x : Binary64) (count : Nat) : Option Binary64 :=
  if h : count ≤ 308 then do x.div? (← powerOfTen count)
  else if x.mantissa = 0 then some x
  else do
    let smaller ← x.div? (← powerOfTen 308)
    scaleDown smaller (count - 308)
termination_by count

def scaled (significand : Nat) (exponent : Int) : Option Binary64 := do
  let x ← Binary64.ofRatio? false significand 1
  if exponent < 0 then scaleDown x (-exponent).toNat
  else if exponent ≤ 308 then x.mul? (← powerOfTen exponent.toNat)
  else if significand = 0 then some x
  else none

/-- A numeral beyond the range of numbers has no value. -/
def Numeral.value? (numeral : Numeral) : Option Number :=
  let (significand, dropped) := gather 0 numeral.whole
  if dropped.isEmpty && numeral.fraction.isNone && numeral.exponent.isNone then
    if !numeral.negative then some (.int significand)
    else if 0 < significand ∧ significand ≤ 1 <<< 63 then some (.int (-significand))
    else (Binary64.ofRatio? true significand 1).map .float
  else
    let fraction := numeral.fraction.getD []
    let (significand, ignored) := gather significand fraction
    let shift : Int := (dropped.length : Int) - (fraction.length - ignored.length : Nat)
    let exponent : Int := match numeral.exponent with
      | none => shift
      | some (true, digits) => shift - ofDigits digits
      | some (false, digits) => shift + ofDigits digits
    (scaled significand exponent).map fun x => .float (x.signed numeral.negative)

end Modelwright.Json
