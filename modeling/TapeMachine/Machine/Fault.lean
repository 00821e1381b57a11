import TapeMachine.Program.Bracket

/-!
# Faults

A run that does not finish stops at a token that cannot be carried out.
-/

namespace TapeMachine

inductive Fault where
  | underflow (boundary : Int)
  | overflow (boundary : Int)
  | unmatched (bracket : Bracket) (position : Nat)
  /-- A line of input does not spell a byte. -/
  | notHex (token : List Char)
  | outOfTape (pointer : Int) (size : Nat)
  deriving DecidableEq, Repr

namespace Fault

/-- Whether the fault belongs to the language, so that the run is reported as
aborted; standing outside the tape does not. -/
def isReported : Fault -> Bool
  | outOfTape _ _ => false
  | _ => true

end Fault
end TapeMachine
