namespace Modelwright

/-- The number `mantissa * 2 ^ exponent`, with a sign that zero keeps too. -/
structure Binary64 where
  negative : Bool
  mantissa : Nat
  exponent : Int
  deriving DecidableEq, Repr, Inhabited

namespace Binary64

def leastExponent : Int := -1074

def greatestExponent : Int := 971

def precision : Nat := 53

def scaledRatio (num den : Nat) (exponent : Int) : Nat × Nat :=
  if 0 ≤ exponent then (num, den <<< exponent.toNat) else (num <<< (-exponent).toNat, den)

/-- The nearest natural number; a tie goes to the even one. -/
def roundEven (num den : Nat) : Nat :=
  let low := num / den
  let rest := 2 * (num % den)
  if rest < den then low
  else if den < rest then low + 1
  else low + low % 2

def gridExponent (num den : Nat) : Int :=
  let start : Int := (num.log2 : Int) - den.log2 - precision
  let (n, d) := scaledRatio num den start
  max leastExponent (if n / d < 1 <<< precision then start else start + 1)

/-- The nearest number to the ratio of two naturals, if it is not too large. -/
def ofRatio? (negative : Bool) (num den : Nat) : Option Binary64 :=
  if num = 0 then some ⟨negative, 0, leastExponent⟩
  else
    let exponent := gridExponent num den
    let (n, d) := scaledRatio num den exponent
    let mantissa := roundEven n d
    let result : Binary64 :=
      if mantissa = 1 <<< precision then ⟨negative, 1 <<< (precision - 1), exponent + 1⟩
      else ⟨negative, mantissa, exponent⟩
    if result.exponent ≤ greatestExponent then some result else none

def ratio (x : Binary64) : Nat × Nat :=
  if 0 ≤ x.exponent then (x.mantissa <<< x.exponent.toNat, 1)
  else (x.mantissa, 1 <<< (-x.exponent).toNat)

def mul? (x y : Binary64) : Option Binary64 :=
  ofRatio? (x.negative != y.negative) (x.ratio.1 * y.ratio.1) (x.ratio.2 * y.ratio.2)

def div? (x y : Binary64) : Option Binary64 :=
  ofRatio? (x.negative != y.negative) (x.ratio.1 * y.ratio.2) (x.ratio.2 * y.ratio.1)

def neg (x : Binary64) : Binary64 :=
  { x with negative := !x.negative }

def signed (negative : Bool) (x : Binary64) : Binary64 :=
  if negative then x.neg else x

/-- The nearest number to `significand * 10 ^ exponent`.  Exponents far out of range are answered
without forming the power. -/
def ofDecimal? (negative : Bool) (significand : Nat) (exponent : Int) : Option Binary64 :=
  let size : Int := exponent + (significand.log2 / 3 : Nat)
  if significand = 0 || size < -400 then some ⟨negative, 0, leastExponent⟩
  else if 400 < exponent then none
  else if 0 ≤ exponent then ofRatio? negative (significand * Nat.pow 10 exponent.toNat) 1
  else ofRatio? negative significand (Nat.pow 10 (-exponent).toNat)

end Binary64

end Modelwright
