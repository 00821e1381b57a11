import TapeMachine.Text.Digit
import TapeMachine.Text.Printable

/-!
# Quoted text

A text is quoted with single quotes unless it holds a single quote and no
double quote.  The backslash and the chosen quote are escaped, tab, line feed
and carriage return have short escapes, and every other character that is not
printable is written in hexadecimal with the shortest escape that fits.
-/

namespace TapeMachine
namespace Text

def quoteFor (s : List Char) : Char :=
  if s.contains '\'' && !s.contains '"' then '"' else '\''

/-- The written form of one character between two quotes `q`. -/
def quoteChar (q c : Char) : List Char :=
  if c == q || c == '\\' then
    ['\\', c]
  else if c == '\t' then
    ['\\', 't']
  else if c == '\n' then
    ['\\', 'n']
  else if c == '\r' then
    ['\\', 'r']
  else if isPrintable c then
    [c]
  else if c.toNat < 0x100 then
    '\\' :: 'x' :: hexDigits 2 c.toNat
  else if c.toNat < 0x10000 then
    '\\' :: 'u' :: hexDigits 4 c.toNat
  else
    '\\' :: 'U' :: hexDigits 8 c.toNat

def quoteChars (s : List Char) : List Char :=
  let q := quoteFor s
  q :: s.flatMap (quoteChar q) ++ [q]

def quote (s : String) : String :=
  String.ofList (quoteChars s.toList)

/-!
## Quoted bytes

A byte string is quoted by the same choice of quotes; every byte outside the
visible ASCII range is written in hexadecimal.
-/

/-- The written form of one byte between two quotes `q`. -/
def quoteByte (q : Char) (b : UInt8) : List Char :=
  let c := Char.ofNat b.toNat
  if c == q || c == '\\' then
    ['\\', c]
  else if c == '\t' then
    ['\\', 't']
  else if c == '\n' then
    ['\\', 'n']
  else if c == '\r' then
    ['\\', 'r']
  else if 0x20 <= b && b < 0x7F then
    [c]
  else
    '\\' :: 'x' :: hexDigits 2 b.toNat

/-- A byte string between quotes, marked by a leading `b`. -/
def quoteBytes (bytes : List UInt8) : String :=
  let q := quoteFor (bytes.map fun b => Char.ofNat b.toNat)
  String.ofList ('b' :: q :: bytes.flatMap (quoteByte q) ++ [q])

end Text
end TapeMachine
