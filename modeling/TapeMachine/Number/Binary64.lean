/-!
# Binary floating point numbers

A double precision number is a signed integer of at most 53 bits times a power
of two, or an infinity, or "not a number".  Every operation here works on exact
fractions and rounds once at the end, to the nearest representable number and
to the even mantissa in a tie.
-/

namespace TapeMachine
namespace Number

/-- A double precision number.  A finite number is `mantissa * 2 ^ exponent`
with `mantissa < 2 ^ 53` and `exponent` at least `-1074`; unless it is at that
least exponent, its mantissa has the full 53 bits. -/
inductive Binary64 where
  | nan
  | infinite (negative : Bool)
  | finite (negative : Bool) (mantissa : Nat) (exponent : Int)
  deriving DecidableEq, Repr, Inhabited

namespace Binary64

def minExponent : Int :=
  -1074

def maxExponent : Int :=
  971

def zero (negative : Bool) : Binary64 :=
  .finite negative 0 minExponent

def isZero : Binary64 -> Bool
  | .finite _ m _ => m == 0
  | _ => false

/-!
## Rounding
-/

/-- `num / den`, rounded to the nearest integer and to the even one in a tie. -/
def roundDiv (num den : Nat) : Nat :=
  let q := num / den
  let r := num % den
  if 2 * r < den then q
  else if den < 2 * r then q + 1
  else if q % 2 == 0 then q
  else q + 1

/-- The fraction `num / den` in units of `2 ^ e`, as a fraction. -/
def scale (num den : Nat) (e : Int) : Nat × Nat :=
  if e < 0 then (num * Nat.pow 2 (-e).toNat, den) else (num, den * Nat.pow 2 e.toNat)

/-- The exponent at which a positive fraction has 53 bits before its point, but
not below the least exponent. -/
def exponentOf (num den : Nat) : Int :=
  let guess : Int := (num.log2 : Int) - (den.log2 : Int) - 52
  let (n, d) := scale num den guess
  let e := if n / d < Nat.pow 2 52 then guess - 1 else guess
  max e minExponent

/-- The number nearest to a fraction. -/
def ofRatio (negative : Bool) (num den : Nat) : Binary64 :=
  if num == 0 then
    zero negative
  else
    let e := exponentOf num den
    let (n, d) := scale num den e
    let m := roundDiv n d
    let (m, e) := if m == Nat.pow 2 53 then (Nat.pow 2 52, e + 1) else (m, e)
    if maxExponent < e then .infinite negative else .finite negative m e

/-- The number nearest to `digits * 10 ^ power`.  A value whose leading digit is
hundreds of places away from the point is settled without computing it. -/
def ofDecimal (negative : Bool) (digits : Nat) (power : Int) : Binary64 :=
  let lead : Int := ((Nat.toDigits 10 digits).length : Int) + power
  if digits == 0 then
    zero negative
  else if 400 < lead then
    .infinite negative
  else if lead < -400 then
    zero negative
  else if power < 0 then
    ofRatio negative digits (Nat.pow 10 (-power).toNat)
  else
    ofRatio negative (digits * Nat.pow 10 power.toNat) 1

/-!
## Exact values
-/

/-- The magnitude of a finite number as a fraction. -/
def magnitude (mantissa : Nat) (exponent : Int) : Nat × Nat :=
  if exponent < 0 then
    (mantissa, Nat.pow 2 (-exponent).toNat)
  else
    (mantissa * Nat.pow 2 exponent.toNat, 1)

/-- The integer part of a finite number, towards zero. -/
def truncate (negative : Bool) (mantissa : Nat) (exponent : Int) : Int :=
  let (num, den) := magnitude mantissa exponent
  if negative then -((num / den : Nat) : Int) else ((num / den : Nat) : Int)

/-- The sum of two numbers that are not negative. -/
def addMagnitudes : Binary64 -> Binary64 -> Binary64
  | .finite _ m e, .finite _ m' e' =>
      let (a, b) := magnitude m e
      let (c, d) := magnitude m' e'
      ofRatio false (a * d + c * b) (b * d)
  | .nan, _ => .nan
  | _, .nan => .nan
  | _, _ => .infinite false

def mulNat (x : Binary64) (k : Nat) : Binary64 :=
  match x with
  | .finite negative m e =>
      let (a, b) := magnitude m e
      ofRatio negative (a * k) b
  | x => x

def negate : Binary64 -> Binary64
  | .nan => .nan
  | .infinite negative => .infinite (!negative)
  | .finite negative m e => .finite (!negative) m e

def equalsInt (x : Binary64) (n : Int) : Bool :=
  match x with
  | .finite negative m e =>
      let (num, den) := magnitude m e
      num % den == 0 && truncate negative m e == n
  | _ => false

/-- Whether two numbers are equal: zeros are, whatever their signs, and "not a
number" equals nothing. -/
def equals : Binary64 -> Binary64 -> Bool
  | .nan, _ => false
  | .infinite s, .infinite s' => s == s'
  | .finite s m e, .finite s' m' e' =>
      (m == 0 && m' == 0) || (s == s' && m == m' && e == e')
  | _, _ => false

end Binary64
end Number
end TapeMachine
