import TapeMachine.Text.Blank
import TapeMachine.Text.Digit
import TapeMachine.Text.Newline

/-!
# Input

A program asks for one byte at a time.  What a request takes from the input
text depends on the mode: a key, the first character of a line, or a line that
spells the byte in hexadecimal.  At the end of the input the first two modes
give zero; the third finds an empty line, which spells no byte.
-/

namespace TapeMachine

/-- An input text with a count of the characters already taken from it. -/
structure Input where
  rest : List Char
  consumed : Nat := 0
  deriving DecidableEq, Repr, Inhabited

inductive InputMode where
  /-- One character is one byte. -/
  | key
  /-- One line spells one byte in hexadecimal. -/
  | hexLine
  /-- The first character of one line is one byte. -/
  | line
  deriving DecidableEq, Repr

def charOfByte (b : UInt8) : Char :=
  Char.ofNat b.toNat

namespace Input

def ofString (s : String) : Input :=
  { rest := s.toList }

/-- The input of a terminal, where every byte is a key. -/
def ofKeys (bytes : List UInt8) : Input :=
  { rest := bytes.map charOfByte }

def takeKey (input : Input) : Option Char × Input :=
  match input.rest with
  | [] => (none, input)
  | c :: rest => (some c, { rest := rest, consumed := input.consumed + 1 })

/-- Takes one line with its line feed; the line is empty at the end. -/
def takeLine (input : Input) : List Char × Input :=
  let (line, rest) := Text.cutLine input.rest
  (line, { rest := rest, consumed := input.consumed + line.length })

/-- Takes `n` characters one after another; past the end each is missing. -/
def takeKeys : Nat -> Input -> List (Option Char) × Input
  | 0, input => ([], input)
  | n + 1, input =>
      let (key, input) := input.takeKey
      let (keys, input) := takeKeys n input
      (key :: keys, input)

end Input

/-!
## Bytes
-/

/-- The low eight bits of a character's code point. -/
def byteOfChar (c : Char) : UInt8 :=
  UInt8.ofNat c.toNat

def hexBytePattern : String :=
  "[0-9a-fA-F]\x7b1,2\x7d"

def hexByte? : List Char -> Option UInt8
  | [a] => do
      let x <- Text.hexValue? a
      pure (UInt8.ofNat x)
  | [a, b] => do
      let x <- Text.hexValue? a
      let y <- Text.hexValue? b
      pure (UInt8.ofNat (16 * x + y))
  | _ => none

/-- Answers a request for a byte; the failure is the text that spells none. -/
def Input.takeByte (mode : InputMode) (input : Input) : Except (List Char) UInt8 × Input :=
  match mode with
  | .key =>
      let (key, input) := input.takeKey
      match key with
      | some c => (.ok (byteOfChar c), input)
      | none => (.ok 0, input)
  | .hexLine =>
      let (line, input) := input.takeLine
      let token := Text.trim line
      match hexByte? token with
      | some b => (.ok b, input)
      | none => (.error token, input)
  | .line =>
      let (line, input) := input.takeLine
      match line with
      | c :: _ => (.ok (byteOfChar c), input)
      | [] => (.ok 0, input)

end TapeMachine
