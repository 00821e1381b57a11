/-!
# Instructions

A program is a text.  Eight of its characters are instructions; every other
character is a comment, which is either stripped before a run or stays in place
and does nothing.
-/

namespace TapeMachine

inductive Instruction where
  | left
  | right
  | read
  | write
  /-- Opens a loop: jumps behind its end when the cell at the pointer is zero. -/
  | loopStart
  /-- Closes a loop: jumps behind its start when the cell at the pointer is not zero. -/
  | loopEnd
  | increment
  | decrement
  deriving DecidableEq, Repr, Inhabited

namespace Instruction

def toChar : Instruction -> Char
  | left => '<'
  | right => '>'
  | read => ','
  | write => '.'
  | loopStart => '['
  | loopEnd => ']'
  | increment => '+'
  | decrement => '-'

def ofChar? : Char -> Option Instruction
  | '<' => some left
  | '>' => some right
  | ',' => some read
  | '.' => some write
  | '[' => some loopStart
  | ']' => some loopEnd
  | '+' => some increment
  | '-' => some decrement
  | _ => none

def all : List Instruction :=
  [left, right, read, write, loopStart, loopEnd, increment, decrement]

end Instruction

def isInstruction (c : Char) : Bool :=
  (Instruction.ofChar? c).isSome

def instructionChars : String :=
  String.ofList (Instruction.all.map Instruction.toChar)

def stripComments (source : List Char) : List Char :=
  source.filter isInstruction

theorem stripComments_append (a b : List Char) :
    stripComments (a ++ b) = stripComments a ++ stripComments b := by
  simp [stripComments]

end TapeMachine
