import TapeMachine.Text.Quoted

/-!
# Code points

A text is a sequence of code points.  A `String` holds characters only; an escape can
also spell a surrogate, which is a code point but no character.  Where such a text is
shown, its surrogates are written as escapes.
-/

namespace TapeMachine
namespace Text

def isSurrogate (n : Nat) : Bool :=
  decide (0xD800 <= n) && decide (n <= 0xDFFF)

/-- A text that no `String` can hold. -/
structure Broken where
  points : List Nat
  broken : points.any isSurrogate = true
  deriving DecidableEq

def points (s : String) : List Nat :=
  s.toList.map Char.toNat

/-- The characters that code points are, if they all are. -/
def ofPoints? (points : List Nat) : Option (List Char) :=
  if points.any isSurrogate then none else some (points.map Char.ofNat)

def surrogateEscape (n : Nat) : List Char :=
  '\\' :: 'u' :: hexDigits 4 n

def showPoints (points : List Nat) : String :=
  String.ofList (points.flatMap fun n =>
    if isSurrogate n then surrogateEscape n else [Char.ofNat n])

def quotePoints (points : List Nat) : String :=
  let q := quoteFor (points.map Char.ofNat)
  String.ofList (q :: (points.flatMap fun n =>
    if isSurrogate n then surrogateEscape n else quoteChar q (Char.ofNat n)) ++ [q])

end Text
end TapeMachine
