import TapeMachine.Error

/-!
# Log entries

What happens is logged by several sources, each entry at a level.
-/

namespace TapeMachine
namespace Log

inductive Level where
  | debug
  | info
  | warning
  deriving DecidableEq, Repr

namespace Level

def name : Level -> String
  | debug => "DEBUG"
  | info => "INFO"
  | warning => "WARNING"

def rank : Level -> Nat
  | debug => 0
  | info => 1
  | warning => 2

end Level

inductive Entry where
  | started (level : Level)
  /-- The options of the command line are settled; they are given as written, if they have
  a written form. -/
  | options (written : Option String)
  | runningFile (path : String)
  | unknownOption (piece : String)
  | running (tokens : Nat) (limit : Int)
  | finished (steps : Nat)
  | aborted (index : Nat) (cause : Error)

namespace Entry

def level : Entry -> Level
  | started _ => .debug
  | options _ => .info
  | runningFile _ => .info
  | unknownOption _ => .warning
  | running _ _ => .debug
  | finished _ => .debug
  | aborted _ _ => .warning

def source : Entry -> String
  | started _ => "bfinterp"
  | options _ => "bfinterp.cli"
  | runningFile _ => "bfinterp.runner"
  | unknownOption _ => "bfinterp.runner"
  | running _ _ => "bfinterp.interpreter"
  | finished _ => "bfinterp.interpreter"
  | aborted _ _ => "bfinterp.interpreter"

def text : Entry -> String
  | started level => "Logging at level " ++ level.name
  | options written => "Options: " ++ written.getD ""
  | runningFile path => "Running " ++ path
  | unknownOption piece => "Ignoring unknown header option " ++ Text.quote piece
  | running tokens limit =>
      "Running " ++ toString tokens ++ " tokens on a " ++ toString limit ++ " cell tape"
  | finished steps => "Run finished after " ++ toString steps ++ " instructions"
  | aborted index cause => "Run aborted at token " ++ toString index ++ ": " ++ cause.message

def isWritable : Entry -> Bool
  | options none => false
  | _ => true

/-- An entry as a record: level, source and words. -/
def record (e : Entry) : String :=
  e.level.name ++ " " ++ e.source ++ ": " ++ e.text

end Entry

def lineFormat : String :=
  "%(asctime)s - %(name)s - %(levelname)s - %(message)s"

/-- An entry as a log line that starts with the time of day. -/
def Entry.line (clock : String) (e : Entry) : String :=
  clock ++ " - " ++ e.source ++ " - " ++ e.level.name ++ " - " ++ e.text ++ "\n"

end Log
end TapeMachine
