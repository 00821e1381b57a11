import TapeMachine.Text.Blank
import TapeMachine.Text.Digit

/-!
# Written integers

A written integer is one optional sign followed by digits, with blanks allowed
around the whole.  Single underscores may stand between two digits, and leading
zeros are harmless.  Decimal integers may use the digits of any script and may
not have more than `maxDigits` of them.
-/

namespace TapeMachine
namespace Number

/-- The greatest number of digits of a decimal integer, leading zeros included. -/
def maxDigits : Nat :=
  4300

/-- The values of a run of digits that may have single underscores between
them. -/
def digitRun? (value? : Char -> Option Nat) : List Char -> Option (List Nat)
  | [] => none
  | [c] => (value? c).map fun d => [d]
  | c :: '_' :: rest => do
      let d <- value? c
      let ds <- digitRun? value? rest
      pure (d :: ds)
  | c :: rest => do
      let d <- value? c
      let ds <- digitRun? value? rest
      pure (d :: ds)

/-- The number whose digits in the given base are listed from the most
significant one. -/
def ofDigits (base : Nat) (digits : List Nat) : Nat :=
  digits.foldl (fun n d => n * base + d) 0

/-- Splits off one leading sign; the flag says whether it was a minus. -/
def cutSign : List Char -> Bool × List Char
  | '-' :: rest => (true, rest)
  | '+' :: rest => (false, rest)
  | s => (false, s)

def signed (negative : Bool) (n : Nat) : Int :=
  if negative then -(n : Int) else (n : Int)

def readInt? (s : List Char) : Option Int := do
  let (negative, body) := cutSign (Text.trimBy Text.isNumberBlank s)
  let digits <- digitRun? Text.digitValue? body
  if digits.length <= maxDigits then
    pure (signed negative (ofDigits 10 digits))
  else
    none

/-- The value of a digit in a base up to sixteen. -/
def baseDigit? (base : Nat) (c : Char) : Option Nat :=
  match (Text.digitValue? c).or (Text.hexValue? c) with
  | some d => if d < base then some d else none
  | none => none

def baseMark (base : Nat) : Char :=
  if base == 2 then 'b' else if base == 8 then 'o' else 'x'

/-- Drops a base mark such as `0x`. -/
def dropBaseMark (base : Nat) : List Char -> List Char
  | '0' :: c :: rest => if c.toLower == baseMark base then rest else '0' :: c :: rest
  | s => s

/-- Reads an integer in base two, eight or sixteen, with an optional mark for
the base behind the sign. -/
def readBase? (base : Nat) (s : List Char) : Option Int := do
  let (negative, body) := cutSign (Text.trimBy Text.isNumberBlank s)
  let digits <- digitRun? (baseDigit? base) (dropBaseMark base body)
  pure (signed negative (ofDigits base digits))

end Number
end TapeMachine
