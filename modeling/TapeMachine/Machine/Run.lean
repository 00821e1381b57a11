import Std.Data.HashMap
import TapeMachine.Machine.Step

/-!
# Runs

A run carries out tokens until none is left or one is at fault.  It need not
end, so it is bounded by a number of steps; a run that ends within a bound ends
the same way within every greater one.

The machine remembers the partner of every bracket it has jumped from or to, so
that each pair is looked for only once.  `scanning` is the machine that looks
every time.
-/

namespace TapeMachine

/-- How a run ended, with the state just before the machine is cleared. -/
structure Ending where
  state : State
  /-- The fault of the token at the state's index, if there was one. -/
  fault : Option Fault

/-!
## The machine that scans
-/

/-- Runs for at most `fuel` steps, looking for the partner at every jump. -/
def scanning (setup : Setup) (code : Tokens) : (fuel : Nat) -> State -> Option Ending
  | 0, _ => none
  | fuel + 1, s =>
      match step setup code s with
      | .running s => scanning setup code fuel s
      | .finished s => some ⟨s, none⟩
      | .faulted f s => some ⟨s, some f⟩

/-!
## The machine that remembers
-/

/-- The pairs of brackets found so far, each recorded from both sides. -/
abbrev JumpTable := Std.HashMap Nat Nat

def JumpTable.record (table : JumpTable) (i j : Nat) : JumpTable :=
  (table.insert i j).insert j i

/-- The partner of a bracket, taken from the table when it is there; a partner
found by scanning is recorded. -/
def JumpTable.partner? (table : JumpTable) (code : Tokens) (b : Bracket) (i : Nat) :
    Option (Nat × JumpTable) :=
  match table[i]? with
  | some j => some (j, table)
  | none =>
      match code.partner? b i with
      | some j => some (j, table.record i j)
      | none => none

/-- One step of the machine that remembers. -/
def stepWith (setup : Setup) (code : Tokens) (table : JumpTable) (s : State) :
    Step × JumpTable :=
  if h : s.index < code.size then
    match Demand.of setup code[s.index] s with
    | .next s => (.running s.next, table)
    | .jump b s =>
        match table.partner? code b s.index with
        | some (j, table) => (.running (s.goTo (j + 1)), table)
        | none => (.faulted (.unmatched b s.index) s, table)
    | .fault f s => (.faulted f s, table)
  else
    (.finished s, table)

/-- Runs for at most `fuel` steps with a table of known pairs; the table at the
end comes with the ending. -/
def runWith (setup : Setup) (code : Tokens) :
    (fuel : Nat) -> JumpTable -> State -> Option (Ending × JumpTable)
  | 0, _, _ => none
  | fuel + 1, table, s =>
      match stepWith setup code table s with
      | (.running s, table) => runWith setup code fuel table s
      | (.finished s, table) => some (⟨s, none⟩, table)
      | (.faulted f s, table) => some (⟨s, some f⟩, table)

/-- Runs for at most `fuel` steps; every run starts with an empty table. -/
def run (setup : Setup) (code : Tokens) (fuel : Nat) (s : State) : Option (Ending × JumpTable) :=
  runWith setup code fuel ∅ s

end TapeMachine
