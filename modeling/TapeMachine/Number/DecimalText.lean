import TapeMachine.Number.Integer
import TapeMachine.Number.Shortest

/-!
# Written floating point numbers

Writing uses the shortest decimal.  It is positional, always with a point, when
the leading digit stands between the fourth place after the point and the
sixteenth before it; otherwise it has an exponent with a sign and at least two
digits.

Reading takes an optional sign, digits with an optional point among or around
them and an optional exponent, or the names of the infinities and of "not a
number" in any case.  Single underscores may stand between two digits, and
blanks around the whole.
-/

namespace TapeMachine
namespace Number

/-!
## Writing
-/

/-- An exponent with its sign and at least two digits. -/
def writeExponent (e : Int) : List Char :=
  let digits := Nat.toDigits 10 e.natAbs
  let padded := if digits.length < 2 then '0' :: digits else digits
  (if e < 0 then '-' else '+') :: padded

def Decimal.write (d : Decimal) : List Char :=
  let digits := Nat.toDigits 10 d.digits
  let point : Int := (digits.length : Int) + d.power
  if point <= -4 || 16 < point then
    let fraction := digits.drop 1
    digits.take 1 ++ (if fraction.isEmpty then [] else '.' :: fraction) ++
      'e' :: writeExponent (point - 1)
  else if point <= 0 then
    '0' :: '.' :: List.replicate (-point).toNat '0' ++ digits
  else if (digits.length : Int) <= point then
    digits ++ List.replicate (point.toNat - digits.length) '0' ++ ['.', '0']
  else
    digits.take point.toNat ++ '.' :: digits.drop point.toNat

def Binary64.write : Binary64 -> String
  | .nan => "nan"
  | .infinite negative => if negative then "-inf" else "inf"
  | .finite negative m e =>
      let body := if m == 0 then ['0', '.', '0'] else (shortest m e).write
      String.ofList (if negative then '-' :: body else body)

/-!
## Reading
-/

def digitsOrNone? (s : List Char) : Option (List Nat) :=
  if s.isEmpty then some [] else digitRun? Text.digitValue? s

/-- Reads digits with an optional point; at least one digit is needed.  The
result is the number without its point and the count of digits behind it. -/
def readMantissa? (s : List Char) : Option (Nat × Nat) := do
  let before := s.takeWhile fun c => c != '.'
  let after := (s.dropWhile fun c => c != '.').drop 1
  let whole <- digitsOrNone? before
  let fraction <- digitsOrNone? after
  if whole.isEmpty && fraction.isEmpty then
    none
  else
    pure (ofDigits 10 (whole ++ fraction), fraction.length)

def readExponent? (s : List Char) : Option Int := do
  let (negative, body) := cutSign s
  let digits <- digitRun? Text.digitValue? body
  pure (signed negative (ofDigits 10 digits))

def isExponentMark (c : Char) : Bool :=
  c == 'e' || c == 'E'

def readMagnitude? (negative : Bool) (s : List Char) : Option Binary64 :=
  let name := String.ofList (s.map Char.toLower)
  if name == "inf" || name == "infinity" then
    some (.infinite negative)
  else if name == "nan" then
    some .nan
  else do
    let mantissa := s.takeWhile fun c => !isExponentMark c
    let mark := s.dropWhile fun c => !isExponentMark c
    let (digits, places) <- readMantissa? mantissa
    let exponent <- if mark.isEmpty then some 0 else readExponent? (mark.drop 1)
    pure (Binary64.ofDecimal negative digits (exponent - places))

def Binary64.read? (s : List Char) : Option Binary64 :=
  let (negative, body) := cutSign (Text.trimBy Text.isNumberBlank s)
  readMagnitude? negative body

end Number
end TapeMachine
