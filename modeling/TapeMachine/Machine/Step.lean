import TapeMachine.Machine.Fault
import TapeMachine.Machine.Input
import TapeMachine.Machine.Tape

/-!
# One step of the machine

The machine takes one token after another.  A token either hands on a new
state, or asks for a jump to the partner of its bracket, or is at fault.  How
the partner is found is left to the caller of `Demand.of`: `step` scans for it
every time, and a run may remember the pairs it has found.
-/

namespace TapeMachine

/-- What stays fixed during a run. -/
structure Setup where
  /-- The pointer stays below this limit. -/
  limit : Int
  /-- Whether the pointer goes round at either end. -/
  wrap : Bool
  mode : InputMode
  deriving DecidableEq, Repr

/-- What changes during a run. -/
structure State where
  /-- The position of the next token. -/
  index : Nat := 0
  pointer : Int := 0
  tape : Tape
  input : Input
  output : String := ""
  /-- The number of tokens carried out. -/
  steps : Nat := 0

namespace State

/-- Goes on to the token at position `index`. -/
def goTo (s : State) (index : Nat) : State :=
  { s with index := index, steps := s.steps + 1 }

def next (s : State) : State :=
  s.goTo (s.index + 1)

def outside (s : State) : Fault :=
  .outOfTape s.pointer s.tape.size

end State

inductive Demand where
  | next (s : State)
  /-- The bracket jumps behind its partner. -/
  | jump (b : Bracket) (s : State)
  | fault (f : Fault) (s : State)

def State.moveLeft (setup : Setup) (s : State) : Demand :=
  if 0 < s.pointer then
    .next { s with pointer := s.pointer - 1 }
  else if setup.wrap then
    .next { s with pointer := setup.limit - 1 }
  else
    .fault (.underflow 0) s

def State.moveRight (setup : Setup) (s : State) : Demand :=
  if s.pointer < setup.limit - 1 then
    .next { s with pointer := s.pointer + 1 }
  else if setup.wrap then
    .next { s with pointer := 0 }
  else
    .fault (.overflow setup.limit) s

def State.alter (f : UInt8 -> UInt8) (s : State) : Demand :=
  match s.tape.locate? s.pointer with
  | some i =>
      let v := f (s.tape.get i)
      .next { s with tape := s.tape.set i v }
  | none => .fault s.outside s

def State.write (s : State) : Demand :=
  match s.tape.read? s.pointer with
  | some v => .next { s with output := s.output.push (charOfByte v) }
  | none => .fault s.outside s

/-- Reads a byte into the cell at the pointer; the input is read first. -/
def State.read (setup : Setup) (s : State) : Demand :=
  match s.input.takeByte setup.mode with
  | (.error token, input) => .fault (.notHex token) { s with input := input }
  | (.ok v, input) =>
      match s.tape.locate? s.pointer with
      | some i => .next { s with tape := s.tape.set i v, input := input }
      | none => .fault s.outside { s with input := input }

/-- Jumps from a bracket when the cell at the pointer is zero (opening) or is
not (closing). -/
def State.loop (b : Bracket) (s : State) : Demand :=
  match s.tape.read? s.pointer with
  | some v => if (v == 0) == (b == .opening) then .jump b s else .next s
  | none => .fault s.outside s

/-- What a token asks for in a state; a comment asks for nothing. -/
def Demand.of (setup : Setup) (token : Char) (s : State) : Demand :=
  match Instruction.ofChar? token with
  | some .left => s.moveLeft setup
  | some .right => s.moveRight setup
  | some .increment => s.alter (· + 1)
  | some .decrement => s.alter (· - 1)
  | some .write => s.write
  | some .read => s.read setup
  | some .loopStart => s.loop .opening
  | some .loopEnd => s.loop .closing
  | none => .next s

inductive Step where
  | running (s : State)
  | finished (s : State)
  /-- The token at the state's index cannot be carried out. -/
  | faulted (f : Fault) (s : State)

/-- One step of the machine that scans for the partner at every jump. -/
def step (setup : Setup) (code : Tokens) (s : State) : Step :=
  if h : s.index < code.size then
    match Demand.of setup code[s.index] s with
    | .next s => .running s.next
    | .jump b s =>
        match code.partner? b s.index with
        | some j => .running (s.goTo (j + 1))
        | none => .faulted (.unmatched b s.index) s
    | .fault f s => .faulted f s
  else
    .finished s

end TapeMachine
