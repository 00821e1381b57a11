/-!
# Strict UTF-8

Reading accepts exactly the shortest encodings of Unicode scalar values: no
overlong form, no surrogate, nothing above U+10FFFF and no sequence that is cut
short.
-/

namespace TapeMachine
namespace Text

/-- The payload of a continuation byte. -/
def continuation? (b : UInt8) : Option Nat :=
  if 0x80 <= b && b < 0xC0 then some (b.toNat - 0x80) else none

/-- The scalar value `n`, when it is one and needs at least `least`. -/
def scalar? (least n : Nat) : Option Char :=
  if least <= n && n.isValidChar then some (Char.ofNat n) else none

/-- The first character of a byte sequence and the bytes after it. -/
def decodeChar? : List UInt8 -> Option (Char × List UInt8)
  | [] => none
  | a :: rest =>
      if a < 0x80 then
        some (Char.ofNat a.toNat, rest)
      else if a < 0xC0 then
        none
      else if a < 0xE0 then
        match rest with
        | b :: rest => do
            let b <- continuation? b
            let c <- scalar? 0x80 ((a.toNat - 0xC0) * 64 + b)
            pure (c, rest)
        | _ => none
      else if a < 0xF0 then
        match rest with
        | b :: c :: rest => do
            let b <- continuation? b
            let c <- continuation? c
            let c <- scalar? 0x800 (((a.toNat - 0xE0) * 64 + b) * 64 + c)
            pure (c, rest)
        | _ => none
      else if a < 0xF8 then
        match rest with
        | b :: c :: d :: rest => do
            let b <- continuation? b
            let c <- continuation? c
            let d <- continuation? d
            let c <- scalar? 0x10000 ((((a.toNat - 0xF0) * 64 + b) * 64 + c) * 64 + d)
            pure (c, rest)
        | _ => none
      else
        none

/-- Decodes at most `fuel` characters in front of `read`, whose characters are
in reverse order. -/
def decodeFrom? : (fuel : Nat) -> (read : List Char) -> List UInt8 -> Option (List Char)
  | _, read, [] => some read.reverse
  | 0, _, _ => none
  | fuel + 1, read, bytes =>
      match decodeChar? bytes with
      | none => none
      | some (c, rest) => decodeFrom? fuel (c :: read) rest

def decode? (bytes : List UInt8) : Option (List Char) :=
  decodeFrom? bytes.length [] bytes

def encode (s : String) : List UInt8 :=
  s.toUTF8.toList

end Text
end TapeMachine
