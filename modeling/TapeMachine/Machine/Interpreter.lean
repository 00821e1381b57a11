import TapeMachine.Log
import TapeMachine.Machine.Run
import TapeMachine.Options.Settings

/-!
# Interpreters

An interpreter owns a tape that is made once, from the size in its settings.  A
run takes the limit of the pointer from the settings of the moment, starts from
the tape and pointer as they are, and clears both at its end.  The pairs of
brackets that a run finds stay in the interpreter until the next run, which
starts without them.
-/

namespace TapeMachine

/-- What makes room for a number of cells.  If there is none, it says why. -/
abbrev Allocator :=
  Int -> Option String

def Tape.ofSetting (allocate : Allocator) (v : Value) : Except Error Tape :=
  match v with
  | .int n =>
      if n < 1 then
        .error (.ofMisconfiguration (.sizeTooSmall n))
      else
        match allocate n with
        | some words => .error (.ofMisconfiguration (.sizeTooLarge n words))
        | none => .ok (Tape.blank (n - 1).toNat)
  | v => .error (.ofMisconfiguration (.sizeNotInteger v))

structure Interpreter where
  settings : Settings
  tape : Tape
  pointer : Int := 0
  running : Bool := false
  /-- The pairs of brackets that the last run found. -/
  known : JumpTable := ∅

/-- How the requests of a run read the input.  Keys come before hexadecimal lines. -/
def Settings.inputMode (s : Settings) : InputMode :=
  if s.realtimeInput.truthy then .key
  else if s.binaryInput.truthy then .hexLine
  else .line

/-- The setup of a run, if the size setting is a number.  No interpreter is made with
another one, but the setting can be changed afterwards; a run without a number is then
refused at its start, also where it would never have come to a limit. -/
def Settings.setup? (s : Settings) : Option Setup :=
  s.tapeSize.asInt?.map fun limit =>
    { limit := limit, wrap := s.wrapBuffer.truthy, mode := s.inputMode }

def Settings.tokens (s : Settings) (source : List Char) : Tokens :=
  (if s.stripsComments then stripComments source else source).toArray

structure RunReport where
  /-- The number of steps, or the fault. -/
  result : Except Fault Nat
  /-- The interpreter just before it was cleared. -/
  before : Interpreter
  after : Interpreter
  output : String
  input : Input
  log : List Log.Entry

namespace Interpreter

def make (allocate : Allocator) (settings : Settings) : Except Error Interpreter := do
  let tape <- Tape.ofSetting allocate settings.tapeSize
  pure { settings := settings, tape := tape }

def reset (itp : Interpreter) : Interpreter :=
  { itp with tape := itp.tape.clear, pointer := 0 }

def poke (itp : Interpreter) (position : Int) (v : UInt8) : Except Error Interpreter :=
  match itp.tape.write? position v with
  | some tape => .ok { itp with tape := tape }
  | none => .error (.outOfTape position itp.tape.size)

/-- Moves the pointer from outside; nothing is checked. -/
def setPointer (itp : Interpreter) (position : Int) : Interpreter :=
  { itp with pointer := position }

def start (itp : Interpreter) (input : Input) : State :=
  { pointer := itp.pointer, tape := itp.tape, input := input }

def endingLog (e : Ending) : List Log.Entry :=
  match e.fault with
  | none => [.finished e.state.steps]
  | some f => if f.isReported then [.aborted e.state.index f.toError] else []

def report (itp : Interpreter) (first : Log.Entry) (e : Ending) (known : JumpTable) : RunReport :=
  let before : Interpreter :=
    { itp with
      tape := e.state.tape, pointer := e.state.pointer, running := true, known := known }
  { result := match e.fault with
      | none => .ok e.state.steps
      | some f => .error f
    before := before
    after := { before.reset with running := false }
    output := e.state.output
    input := e.state.input
    log := first :: endingLog e }

/-- Runs a program for at most `fuel` steps; there is no report on a run that
needs more. -/
def run (itp : Interpreter) (fuel : Nat) (source : List Char) (input : Input) :
    Except Error (Option RunReport) :=
  match itp.settings.setup? with
  | none => .error .limitNotInteger
  | some setup =>
      let code := itp.settings.tokens source
      let first : Log.Entry := .running code.size setup.limit
      .ok ((TapeMachine.run setup code fuel (itp.start input)).map fun (e, known) =>
        itp.report first e known)

end Interpreter
end TapeMachine
