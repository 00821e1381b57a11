import TapeMachine.Machine.Interpreter
import TapeMachine.Options.Document
import TapeMachine.Options.Header

/-!
# Running programs

A program comes as a text or in a file.  A file's header is applied to the
settings before the interpreter is made.
-/

namespace TapeMachine

/-- Whether a path ends in `bf`, as that of a program file must. -/
def Path.isProgram (p : Path) : Bool :=
  "bf".toList.isSuffixOf p.toString.toList

def readProgram (files : Files.Store) (pathText : String) : Except Error (List Char) :=
  let path := Path.ofString pathText
  if path.isProgram then readText files path else .error (.configuration .notProgramFile)

structure Attempt where
  /-- The number of steps, or why there was no complete run. -/
  result : Except Error Nat
  settings : Option Settings
  output : String := ""
  input : Input
  log : List Log.Entry := []

namespace Attempt

def failed (settings : Option Settings) (input : Input) (log : List Log.Entry) (e : Error) :
    Attempt :=
  { result := .error e, settings := settings, input := input, log := log }

def ofReport (log : List Log.Entry) (r : RunReport) : Attempt :=
  { result := match r.result with
      | .ok n => .ok n
      | .error f => .error f.toError
    settings := some r.after.settings
    output := r.output
    input := r.input
    log := log ++ r.log }

end Attempt

def Settings.orInitial (sizeText : Option String) (given : Option Settings) :
    Except Error Settings :=
  match given with
  | some settings => .ok settings
  | none => Settings.initial sizeText

/-- What precedes a run. -/
inductive Opening where
  | failed (settings : Option Settings) (log : List Log.Entry) (cause : Error)
  | opened (itp : Interpreter) (log : List Log.Entry) (source : List Char)

namespace Opening

def ofSource (allocate : Allocator) (settings : Settings) (log : List Log.Entry)
    (source : List Char) : Opening :=
  match Interpreter.make allocate settings with
  | .error e => .failed settings log e
  | .ok itp => .opened itp log source

def ofText (allocate : Allocator) (sizeText : Option String) (given : Option Settings)
    (source : List Char) : Opening :=
  match Settings.orInitial sizeText given with
  | .error e => .failed none [] e
  | .ok settings => ofSource allocate settings [] source

/-- Prepares the run of a program in a file.  The file is read before any
settings are made for it. -/
def ofFile (allocate : Allocator) (files : Files.Store) (sizeText : Option String)
    (given : Option Settings) (pathText : String) : Opening :=
  match readProgram files pathText with
  | .error e => .failed given [] e
  | .ok source =>
      match Settings.orInitial sizeText given with
      | .error e => .failed none [] e
      | .ok settings =>
          let header := settings.applyHeader source
          match header.failure with
          | some e => .failed header.settings header.log e
          | none =>
              ofSource allocate header.settings (header.log ++ [.runningFile pathText]) source

/-- Runs what was prepared for at most `fuel` steps. -/
def run (fuel : Nat) (input : Input) : Opening -> Option Attempt
  | .failed settings log e => some (.failed settings input log e)
  | .opened itp log source =>
      match itp.run fuel source input with
      | .error e => some (.failed itp.settings input log e)
      | .ok none => none
      | .ok (some r) => some (.ofReport log r)

end Opening

def runText (fuel : Nat) (allocate : Allocator) (sizeText : Option String)
    (given : Option Settings) (source : List Char) (input : Input) : Option Attempt :=
  (Opening.ofText allocate sizeText given source).run fuel input

def runFile (fuel : Nat) (allocate : Allocator) (files : Files.Store)
    (sizeText : Option String) (given : Option Settings) (pathText : String) (input : Input) :
    Option Attempt :=
  (Opening.ofFile allocate files sizeText given pathText).run fuel input

end TapeMachine
