import Modelwright.Number.Binary64

namespace Modelwright

/-! Decimal text of floating-point numbers: the fewest digits that read back as the same number. -/

structure Decimal where
  digits : Nat
  exponent : Int
  deriving DecidableEq, Repr

namespace Binary64

/-- The reals that round to a positive number, in quarters of its last place: the distance down,
the distance up, and whether the two ends round to it as well. -/
def reach (x : Binary64) : Nat × Nat × Bool :=
  let down := if x.mantissa = 1 <<< (precision - 1) ∧ leastExponent < x.exponent then 1 else 2
  (down, 2, x.mantissa % 2 = 0)

def accepts (x : Binary64) (candidate : Decimal) : Bool :=
  let (down, up, closed) := x.reach
  let quarter : Int := x.exponent - 2
  -- Both sides are multiplied by the same powers of two and ten.
  let left := (candidate.digits * Nat.pow 10 candidate.exponent.toNat) <<< (-quarter).toNat
  let unit := Nat.pow 10 (-candidate.exponent).toNat <<< quarter.toNat
  let low := (4 * x.mantissa - down) * unit
  let high := (4 * x.mantissa + up) * unit
  if closed then low ≤ left && left ≤ high else low < left && left < high

/-- The two neighbours of the positive number on the grid of a power of ten, nearer one first; a tie
puts the even one first. -/
def neighbours (x : Binary64) (exponent : Int) : List Decimal :=
  let (num, den) := x.ratio
  let num := num * Nat.pow 10 (-exponent).toNat
  let den := den * Nat.pow 10 exponent.toNat
  let low := num / den
  let rest := 2 * (num % den)
  let lowFirst := rest < den || (rest == den && low % 2 == 0)
  if lowFirst then [⟨low, exponent⟩, ⟨low + 1, exponent⟩]
  else [⟨low + 1, exponent⟩, ⟨low, exponent⟩]

def decimalExponent (num den : Nat) : Int :=
  let above := (List.range 400).findIdx fun k => num < den * Nat.pow 10 k
  if 0 < above then (above : Int) - 1
  else -((List.range 400).findIdx fun k => den ≤ num * Nat.pow 10 k : Nat)

/-- The first grid with a hit, from coarse to fine. -/
def shortest (x : Binary64) : Decimal :=
  let top := decimalExponent x.ratio.1 x.ratio.2
  let hits := (List.range 17).filterMap fun (places : Nat) =>
    (x.neighbours (top - places)).find? x.accepts
  hits.head?.getD ⟨x.mantissa, x.exponent⟩

end Binary64

/-- The digits without trailing zeros; at most `fuel` zeros are dropped. -/
def Decimal.normalize : Nat → Decimal → Decimal
  | 0, x => x
  | fuel + 1, x =>
    if x.digits ≠ 0 ∧ x.digits % 10 = 0 then
      Decimal.normalize fuel ⟨x.digits / 10, x.exponent + 1⟩
    else x

namespace Binary64

def zeros (count : Nat) : List Char :=
  List.replicate count '0'

/-- Positional notation from `10 ^ -5` to below `10 ^ 16`, always with a fraction. -/
def positional (digits : List Char) (top : Int) : List Char :=
  if top < 0 then '0' :: '.' :: zeros (-top - 1).toNat ++ digits
  else
    let whole := top.toNat + 1
    let fraction := digits.drop whole
    digits.take whole ++ zeros (whole - digits.length) ++ '.' ::
      (if fraction.isEmpty then ['0'] else fraction)

def scientific (digits : List Char) (top : Int) : List Char :=
  digits.take 1 ++ (if digits.length ≤ 1 then [] else '.' :: digits.drop 1) ++ 'e' ::
    (if top < 0 then '-' else '+') :: (toString top.natAbs).toList

def text (x : Binary64) : String :=
  let sign := if x.negative then ['-'] else []
  if x.mantissa = 0 then String.ofList (sign ++ ['0', '.', '0'])
  else
    let shortest := Decimal.normalize 17 x.shortest
    let digits := (toString shortest.digits).toList
    let top := shortest.exponent + digits.length - 1
    String.ofList <| sign ++
      if -5 ≤ top ∧ top ≤ 15 then positional digits top else scientific digits top

end Binary64

end Modelwright
