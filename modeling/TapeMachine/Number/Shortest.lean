import TapeMachine.Number.Binary64

/-!
# Shortest decimals

The shortest decimal of a double precision number is the decimal with the
fewest digits among those that read back as the number; of two such decimals it
is the one nearer to the number, and the even one in a tie.

The decimals that read back form an interval around the number that reaches
half way to each neighbour, and its ends belong to it when the mantissa is even.
For one, two, … digits the two grid points around the number are tried.
-/

namespace TapeMachine
namespace Number

/-- A positive decimal: `digits * 10 ^ power`. -/
structure Decimal where
  digits : Nat
  power : Int
  deriving DecidableEq, Repr

/-- A positive number with the interval of reals that round to it, all over one
denominator. -/
structure RoundingInterval where
  low : Nat
  value : Nat
  high : Nat
  den : Nat
  closed : Bool

namespace RoundingInterval

/-- The interval of the positive number `mantissa * 2 ^ exponent`.  Below a
power of two the neighbour is only half as far away. -/
def ofNumber (mantissa : Nat) (exponent : Int) : RoundingInterval :=
  let below := if mantissa == Nat.pow 2 52 && Binary64.minExponent < exponent then 1 else 2
  let (unit, den) := Binary64.scale 1 1 (-(exponent - 2))
  { low := (4 * mantissa - below) * unit
    value := 4 * mantissa * unit
    high := (4 * mantissa + 2) * unit
    den := den
    closed := mantissa % 2 == 0 }

/-- Both sides of a comparison between `c * 10 ^ power` and the bound `x` of the
interval. -/
def sides (r : RoundingInterval) (c : Nat) (power : Int) (x : Nat) : Nat × Nat :=
  if power < 0 then
    (c * r.den, x * Nat.pow 10 (-power).toNat)
  else
    (c * Nat.pow 10 power.toNat * r.den, x)

/-- Whether `c * 10 ^ power` lies in the interval. -/
def holds (r : RoundingInterval) (c : Nat) (power : Int) : Bool :=
  let (a, low) := r.sides c power r.low
  let (b, high) := r.sides c power r.high
  if r.closed then decide (low <= a ∧ b <= high) else decide (low < a ∧ b < high)

/-- The power of ten of the leading digit of the value. -/
def leading (r : RoundingInterval) : Int :=
  if r.den <= r.value then
    ((Nat.toDigits 10 (r.value / r.den)).length : Int) - 1
  else
    -((Nat.toDigits 10 (r.den / r.value)).length : Int)

/-- The decimal with the last digit at `power` that reads back as the value. -/
def atPower? (r : RoundingInterval) (power : Int) : Option Decimal :=
  let (one, value) := r.sides 1 power r.value
  let c := value / one
  match r.holds c power, r.holds (c + 1) power with
  | true, true =>
      let down := value - c * one
      let up := (c + 1) * one - value
      if down < up || (down == up && c % 2 == 0) then some ⟨c, power⟩ else some ⟨c + 1, power⟩
  | true, false => some ⟨c, power⟩
  | false, true => some ⟨c + 1, power⟩
  | false, false => none

/-- Tries ever finer grids, at most `fuel` of them. -/
def search (r : RoundingInterval) : (fuel : Nat) -> (power : Int) -> Option Decimal
  | 0, _ => none
  | fuel + 1, power =>
      match r.atPower? power with
      | some d => some d
      | none => search r fuel (power - 1)

end RoundingInterval

/-- Drops trailing zeros, at most `fuel` of them. -/
def Decimal.dropZeros : (fuel : Nat) -> Decimal -> Decimal
  | 0, d => d
  | fuel + 1, d =>
      if d.digits != 0 && d.digits % 10 == 0 then
        dropZeros fuel ⟨d.digits / 10, d.power + 1⟩
      else
        d

/-- The shortest decimal of the positive number `mantissa * 2 ^ exponent`; 17
digits always suffice. -/
def shortest (mantissa : Nat) (exponent : Int) : Decimal :=
  let r := RoundingInterval.ofNumber mantissa exponent
  match r.search 18 r.leading with
  | some d => Decimal.dropZeros 18 d
  | none => ⟨mantissa, 0⟩

end Number
end TapeMachine
