import TapeMachine.Program.Instruction

/-!
# Matching brackets

A jump looks for the partner of its bracket by scanning away from it and
counting the brackets that open and close on the way.  The forward scan starts
behind an opening bracket and the backward scan before a closing one; each ends
at the first bracket of the other kind that nothing in between accounts for, or
finds that the bracket has no partner.
-/

namespace TapeMachine

inductive Bracket where
  | opening
  | closing
  deriving DecidableEq, Repr

def Bracket.toChar : Bracket -> Char
  | .opening => '['
  | .closing => ']'

/-- The tokens of a program: its characters, with or without the comments. -/
abbrev Tokens := Array Char

namespace Tokens

/-- The first closing bracket at or behind position `i` that closes none of the
loops opened on the way, of which `depth` are open already. -/
def closingFrom? (code : Tokens) (i depth : Nat) : Option Nat :=
  if h : i < code.size then
    if code[i] = '[' then
      closingFrom? code (i + 1) (depth + 1)
    else if code[i] = ']' then
      match depth with
      | 0 => some i
      | depth + 1 => closingFrom? code (i + 1) depth
    else
      closingFrom? code (i + 1) depth
  else
    none
termination_by code.size - i

/-- The last opening bracket before position `i` that opens none of the loops
closed on the way, of which `depth` are closed already. -/
def openingBefore? (code : Tokens) : (i depth : Nat) -> Option Nat
  | 0, _ => none
  | i + 1, depth =>
      match code[i]? with
      | some ']' => openingBefore? code i (depth + 1)
      | some '[' =>
          match depth with
          | 0 => some i
          | depth + 1 => openingBefore? code i depth
      | _ => openingBefore? code i depth

/-- The partner of the opening bracket at position `i`. -/
def closing? (code : Tokens) (i : Nat) : Option Nat :=
  closingFrom? code (i + 1) 0

/-- The partner of the closing bracket at position `i`. -/
def opening? (code : Tokens) (i : Nat) : Option Nat :=
  openingBefore? code i 0

/-- The partner of a bracket of the given kind at position `i`. -/
def partner? (code : Tokens) (b : Bracket) (i : Nat) : Option Nat :=
  match b with
  | .opening => code.closing? i
  | .closing => code.opening? i

end Tokens
end TapeMachine
