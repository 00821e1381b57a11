import TapeMachine.Cli.Arguments
import TapeMachine.Cli.Console
import TapeMachine.Cli.Usage
import TapeMachine.Runner

/-!
# The command

The command reads its arguments, starts the log, settles the options and runs
the program.  Errors of the language and of the file system are told to the
user and give the status one; others end the command.

Three things the command leaves to its host: to load documents, to make room for tapes,
and to copy values, for which the stack may be too small.
-/

namespace TapeMachine
namespace Cli

structure Host where
  load : Loader
  allocate : Allocator
  /-- Whether a value can be copied.  One that contains itself, or is nested very deeply,
  cannot. -/
  copies : Value -> Bool

def Host.copiesAll (host : Host) (s : Settings) : Bool :=
  s.toEntries.all fun (_, v) => host.copies v

structure World where
  host : Host
  files : Files.Store := {}
  /-- The size of the tape from the environment. -/
  sizeText : Option String := none
  clock : String := "00:00:00"
  /-- What the logger says about an entry that has no written form. -/
  logReport : String := ""

inductive Exit where
  | returned (status : Nat)
  /-- It stops with a status while it reads its arguments. -/
  | stopped (status : Nat)
  | ended (e : Error)

structure Outcome where
  exit : Exit
  output : String := ""
  errors : String := ""
  files : Files.Store

def logLevel (verbose : Nat) : Log.Level :=
  match verbose with
  | 0 => .warning
  | 1 => .info
  | _ => .debug

/-- The settings that the command line starts from. -/
def baseSettings (load : Loader) (files : Files.Store) (sizeText : Option String)
    (config : Value) : Except Error Settings :=
  match config with
  | .text path =>
      if path.isEmpty then Settings.initial sizeText
      else Settings.load load files sizeText path
  | _ => Settings.initial sizeText

/-- What the command line makes of settings: each flag is turned around once for each
time it was given. -/
def Arguments.command (a : Arguments) (base : Settings) : Settings :=
  let s := (((base.toggleTimes .realtimeInput a.realtime).toggleTimes .binaryInput
    a.binaryInput).toggleTimes .wrapBuffer a.wrapBuffer).toggleTimes .rawInput a.raw
  match a.bufferSize with
  | .null => s
  | v => s.setTapeSize v

def settle (load : Loader) (files : Files.Store) (sizeText : Option String) (a : Arguments) :
    Except Error Settings :=
  (baseSettings load files sizeText a.config).map a.command

/-- The place of the log file.  A path with the null character is refused; releases before
3.11.5 open what stands before that character instead. -/
def placeLog (files : Files.Store) (pathText : String) : Except Error (List String) :=
  let path := files.absolute (Path.ofString pathText)
  if path.hasNull then
    .error .nullInPath
  else
    match files.writable path with
    | .ok place => .ok place
    | .error failure => .error (.file failure)

def openConsole (world : World) (a : Arguments) : Except Error Console :=
  let quiet : Console :=
    { level := logLevel a.verbose, clock := world.clock, report := world.logReport }
  match a.logFile with
  | .text path =>
      if path.isEmpty then
        .ok quiet
      else
        (placeLog world.files path).map fun place => { quiet with logFile := some place }
  | _ => .ok quiet

inductive Preparation where
  /-- The command ends without a run. -/
  | over (o : Outcome)
  | ready (console : Console) (itp : Interpreter) (source : List Char)

def fail (world : World) (c : Console) (output : String) (e : Error) : Outcome :=
  if e.isExpected then
    let c := c.complain e
    { exit := .returned 1, output := output, errors := c.errors, files := c.files world.files }
  else
    { exit := .ended e, output := output, errors := c.errors, files := c.files world.files }

/-- The end of a command whose program ran. -/
def conclude (world : World) (c : Console) (r : RunReport) : Outcome :=
  let c := c.emitAll r.log
  match r.result with
  | .ok _ =>
      { exit := .returned 0, output := r.output, errors := c.errors, files := c.files world.files }
  | .error f => fail world c r.output f.toError

def Preparation.ofOpening (world : World) (c : Console) : Opening -> Preparation
  | .failed _ log e => .over (fail world (c.emitAll log) "" e)
  | .opened itp log source => .ready (c.emitAll log) itp source

/-- Logs the settings and opens the program.  What is logged is a copy. -/
def prepareSettled (world : World) (a : Arguments) (c : Console) (s : Settings) : Preparation :=
  if world.host.copiesAll s then
    let c := c.emit (.options s.write?)
    .ofOpening world c
      (if a.interpret then Opening.ofSource world.host.allocate s [] a.input.toList
      else Opening.ofFile world.host.allocate (c.files world.files) world.sizeText (some s) a.input)
  else
    .over (fail world c "" .tooDeep)

def prepareWith (world : World) (a : Arguments) : Preparation :=
  match openConsole world a with
  | .error e => .over { exit := .ended e, files := world.files }
  | .ok c =>
      let c := c.emit (.started c.level)
      match settle world.host.load (c.files world.files) world.sizeText a with
      | .error e => .over (fail world c "" e)
      | .ok settings => prepareSettled world a c settings

def prepare (world : World) (argv : List String) : Preparation :=
  if argv.isEmpty then
    .over { exit := .returned 0, output := help, files := world.files }
  else
    match Arguments.ofList argv with
    | .error .help => .over { exit := .stopped 0, output := help, files := world.files }
    | .error (.complaint text) =>
        .over { exit := .stopped 2, errors := complaint text, files := world.files }
    | .ok a => prepareWith world a

/-- Carries out the command line; the run has at most `fuel` steps. -/
def run (fuel : Nat) (world : World) (argv : List String) (input : Input) : Option Outcome :=
  match prepare world argv with
  | .over o => some o
  | .ready c itp source =>
      match itp.run fuel source input with
      | .error e => some (fail world c "" e)
      | .ok none => none
      | .ok (some r) => some (conclude world c r)

end Cli
end TapeMachine
