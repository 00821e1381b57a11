/-!
# Base 64

Four digits of base 64 spell three bytes.  Characters that are no digits are
skipped, padding ends the text as soon as it completes a group, and a text that
stops inside a group has no bytes.
-/

namespace TapeMachine
namespace Text

def base64Value? (c : Char) : Option Nat :=
  if 'A' <= c && c <= 'Z' then some (c.toNat - 'A'.toNat)
  else if 'a' <= c && c <= 'z' then some (c.toNat - 'a'.toNat + 26)
  else if '0' <= c && c <= '9' then some (c.toNat - '0'.toNat + 52)
  else if c == '+' then some 62
  else if c == '/' then some 63
  else none

/-- Decodes the rest of a text.  `place` counts the digits of the open group,
`carry` holds the bits of the last digit that belong to no byte yet, and `pads`
counts the padding since that digit. -/
def base64From? : (place carry pads : Nat) -> List Char -> Option (List UInt8)
  | place, _, _, [] => if place == 0 then some [] else none
  | place, carry, pads, '=' :: rest =>
      if place < 2 then
        base64From? place carry pads rest
      else if 4 <= place + pads + 1 then
        some []
      else
        base64From? place carry (pads + 1) rest
  | place, carry, pads, c :: rest =>
      match base64Value? c with
      | none => base64From? place carry pads rest
      | some d =>
          match place with
          | 0 => base64From? 1 d 0 rest
          | 1 => (base64From? 2 (d % 16) 0 rest).map (UInt8.ofNat (carry * 4 + d / 16) :: ·)
          | 2 => (base64From? 3 (d % 4) 0 rest).map (UInt8.ofNat (carry * 16 + d / 4) :: ·)
          | _ => (base64From? 0 0 0 rest).map (UInt8.ofNat (carry * 64 + d) :: ·)

def base64? (s : List Char) : Option (List UInt8) :=
  base64From? 0 0 0 s

end Text
end TapeMachine
