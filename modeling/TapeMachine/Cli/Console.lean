import TapeMachine.Log
import TapeMachine.Files.Store

/-!
# The console

Log entries go to the error stream and, if one was asked for, to a log file;
entries below the chosen level are dropped.  The file holds the log and nothing
else, from the moment it is opened.  About an entry that has no written form there is
only a report on the error stream.
-/

namespace TapeMachine
namespace Cli

structure Console where
  level : Log.Level
  clock : String
  report : String := ""
  logFile : Option (List String) := none
  log : String := ""
  errors : String := ""

namespace Console

def emit (c : Console) (e : Log.Entry) : Console :=
  if e.level.rank < c.level.rank then
    c
  else if e.isWritable then
    { c with log := c.log ++ e.line c.clock, errors := c.errors ++ e.line c.clock }
  else
    { c with errors := c.errors ++ c.report }

def emitAll (c : Console) (es : List Log.Entry) : Console :=
  es.foldl emit c

/-- The files as they are while the log file is open. -/
def files (c : Console) (store : Files.Store) : Files.Store :=
  match c.logFile with
  | some place => store.put place (.file (Text.encode c.log))
  | none => store

/-- What makes a line stand out. -/
def alarmStart : String :=
  "\x1b[91m"

def alarmEnd : String :=
  "\x1b[0m"

/-- Tells the user about an error; the log file does not hold it. -/
def complain (c : Console) (e : Error) : Console :=
  { c with errors := c.errors ++ alarmStart ++ "Error: " ++ e.message ++ alarmEnd ++ "\n" }

end Console
end Cli
end TapeMachine
