/-!
# Switches of the command line

Every switch has a long name, and most have a short one.  A switch is on its
own or takes a value.
-/

namespace TapeMachine
namespace Cli

inductive Switch where
  | help
  | realtime
  | binaryInput
  | wrapBuffer
  | bufferSize
  | interpret
  | raw
  | config
  | verbose
  | logFile
  deriving DecidableEq, Repr

namespace Switch

def all : List Switch :=
  [help, realtime, binaryInput, wrapBuffer, bufferSize, interpret, raw, config, verbose, logFile]

def letter? : Switch -> Option Char
  | help => some 'h'
  | realtime => some 'r'
  | binaryInput => some 'b'
  | wrapBuffer => some 'w'
  | bufferSize => some 's'
  | interpret => some 'i'
  | raw => none
  | config => some 'c'
  | verbose => some 'v'
  | logFile => none

def long : Switch -> String
  | help => "--help"
  | realtime => "--realtime"
  | binaryInput => "--binary-input"
  | wrapBuffer => "--wrap-buffer"
  | bufferSize => "--buffer-size"
  | interpret => "--interpret"
  | raw => "--raw"
  | config => "--config"
  | verbose => "--verbose"
  | logFile => "--log-file"

def short? (s : Switch) : Option String :=
  s.letter?.map fun c => String.ofList ['-', c]

def takesValue : Switch -> Bool
  | bufferSize => true
  | config => true
  | logFile => true
  | _ => false

def label (s : Switch) : String :=
  match s.short? with
  | some short => short ++ "/" ++ s.long
  | none => s.long

def ofLetter? (c : Char) : Option Switch :=
  all.find? fun s => s.letter? == some c

/-- The switch of a full name, short or long. -/
def ofName? (name : String) : Option Switch :=
  all.find? fun s => s.long == name || s.short? == some name

/-- The switches whose long name starts with a text. -/
def abbreviated (start : String) : List Switch :=
  all.filter fun s => start.toList.isPrefixOf s.long.toList

end Switch
end Cli
end TapeMachine
