import TapeMachine.Cli.Word
import TapeMachine.Number.Integer
import TapeMachine.Value

/-!
# Arguments of the command line

The sorted words are acted on from left to right.  The first operand is the
input; whatever is left over is a mistake that is reported at the end.

The rules are those of release 3.11.2 of the argument parser.  Releases from 3.11.10
and 3.12.3 on differ in two places: there a value that is `--` stays as it is, and the
complaint about text behind a switch without a value has other words.
-/

namespace TapeMachine
namespace Cli

/-- What the command line asks for.  The values of switches that were not given
are null. -/
structure Arguments where
  realtime : Nat := 0
  binaryInput : Nat := 0
  wrapBuffer : Nat := 0
  bufferSize : Value := .null
  interpret : Bool := false
  raw : Nat := 0
  config : Value := .null
  verbose : Nat := 0
  logFile : Value := .null
  input : String := ""

inductive Stop where
  | help
  | complaint (text : String)
  deriving DecidableEq, Repr

structure Gathered where
  arguments : Arguments := {}
  hasInput : Bool := false
  /-- What fits nowhere, in order. -/
  surplus : List String := []

namespace Gathered

def takeInput (g : Gathered) (text : String) : Gathered :=
  { g with arguments := { g.arguments with input := text }, hasInput := true }

def addSurplus (g : Gathered) (text : String) : Gathered :=
  { g with surplus := g.surplus ++ [text] }

def complain (s : Switch) (text : String) : Except Stop Gathered :=
  .error (.complaint ("argument " ++ s.label ++ ": " ++ text))

def flip (g : Gathered) (s : Switch) : Except Stop Gathered :=
  let a := g.arguments
  match s with
  | .help => .error .help
  | .realtime => .ok { g with arguments := { a with realtime := a.realtime + 1 } }
  | .binaryInput => .ok { g with arguments := { a with binaryInput := a.binaryInput + 1 } }
  | .wrapBuffer => .ok { g with arguments := { a with wrapBuffer := a.wrapBuffer + 1 } }
  | .interpret => .ok { g with arguments := { a with interpret := true } }
  | .raw => .ok { g with arguments := { a with raw := a.raw + 1 } }
  | .verbose => .ok { g with arguments := { a with verbose := a.verbose + 1 } }
  | _ => .ok g

/-- The value of a switch from its text.  A text that is `--` gives way, which
leaves an empty list; it does so up to release 3.11.9. -/
def readValue (s : Switch) (text : String) : Except Stop Value :=
  if text == "--" then
    .ok (.list [])
  else if s = .bufferSize then
    match Number.readInt? text.toList with
    | some n => .ok (.int n)
    | none =>
        .error (.complaint
          ("argument " ++ s.label ++ ": invalid int value: " ++ Text.quote text))
  else
    .ok (.text text)

def assign (g : Gathered) (s : Switch) (text : String) : Except Stop Gathered := do
  let v <- readValue s text
  let a := g.arguments
  match s with
  | .bufferSize => pure { g with arguments := { a with bufferSize := v } }
  | .config => pure { g with arguments := { a with config := v } }
  | .logFile => pure { g with arguments := { a with logFile := v } }
  | _ => pure g

def flipAll (g : Gathered) : List Switch -> Except Stop Gathered
  | [] => .ok g
  | s :: rest => do
      let g <- g.flip s
      g.flipAll rest

end Gathered

/-- Switches that share one argument: those without a value, and the last one
with the text that is left for it. -/
structure Bundle where
  before : List Switch
  last : Switch
  own : Option String

/-- Resolves the text that a switch carries.  Behind a letter of a switch
without a value it spells further letters. -/
def Bundle.ofSwitch (s : Switch) (byLetter : Bool) : (own : List Char) -> Except Stop Bundle
  | [] =>
      if s.takesValue then .ok ⟨[], s, some ""⟩
      else .error (.complaint ("argument " ++ s.label ++ ": ignored explicit argument ''"))
  | c :: text =>
      let ignored : Except Stop Bundle :=
        .error (.complaint ("argument " ++ s.label ++ ": ignored explicit argument " ++
          Text.quote (String.ofList (c :: text))))
      if s.takesValue then
        .ok ⟨[], s, some (String.ofList (c :: text))⟩
      else if byLetter then
        match Switch.ofLetter? c, text with
        | none, _ => ignored
        | some next, [] => .ok ⟨[s], next, none⟩
        | some next, d :: text => do
            let bundle <- Bundle.ofSwitch next true (d :: text)
            pure { bundle with before := s :: bundle.before }
      else
        ignored

def Bundle.ofWord (s : Switch) (byLetter : Bool) : (own : Option String) -> Except Stop Bundle
  | none => .ok ⟨[], s, none⟩
  | some text => Bundle.ofSwitch s byLetter text.toList

/-- Whether the next argument is the value of the last switch. -/
def Bundle.wantsNext (b : Bundle) : Bool :=
  b.last.takesValue && b.own.isNone

def Gathered.act (g : Gathered) (b : Bundle) : Except Stop Gathered :=
  if b.last.takesValue then
    match b.own with
    | some text => do
        let g <- g.flipAll b.before
        g.assign b.last text
    | none => .error (.complaint ("argument " ++ b.last.label ++ ": expected one argument"))
  else
    g.flipAll (b.before ++ [b.last])

def gather : List Word -> Gathered -> Except Stop Gathered
  | [], g => .ok g
  | .operand text :: .divider :: rest, g =>
      if g.hasInput then gather rest ((g.addSurplus text).addSurplus "--")
      else gather rest (g.takeInput text)
  | .operand text :: rest, g =>
      if g.hasInput then gather rest (g.addSurplus text) else gather rest (g.takeInput text)
  | .divider :: .operand text :: rest, g =>
      if g.hasInput then gather rest ((g.addSurplus "--").addSurplus text)
      else gather rest (g.takeInput text)
  | .divider :: rest, g => gather rest (g.addSurplus "--")
  | .unknown text :: rest, g => gather rest (g.addSurplus text)
  | .switch s byLetter own :: .operand text :: rest, g => do
      let bundle <- Bundle.ofWord s byLetter own
      if bundle.wantsNext then
        let g <- g.act { bundle with own := some text }
        gather rest g
      else
        let g <- g.act bundle
        gather (.operand text :: rest) g
  | .switch s byLetter own :: rest, g => do
      let bundle <- Bundle.ofWord s byLetter own
      let g <- g.act bundle
      gather rest g

def Arguments.ofList (argv : List String) : Except Stop Arguments :=
  match Word.ofArguments argv with
  | .error text => .error (.complaint text)
  | .ok words =>
      match gather words {} with
      | .error stop => .error stop
      | .ok g =>
          if !g.hasInput then
            .error (.complaint "the following arguments are required: input")
          else if !g.surplus.isEmpty then
            .error (.complaint ("unrecognized arguments: " ++ " ".intercalate g.surplus))
          else
            .ok g.arguments

end Cli
end TapeMachine
