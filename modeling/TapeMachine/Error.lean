import TapeMachine.Files.Store
import TapeMachine.Machine.Fault
import TapeMachine.Value
import TapeMachine.Yaml.Error

/-!
# Errors

Every way in which a request can fail, with its words.  Errors that the user is
told about in one line are those of the language and of the file system; the
others end the program.
-/

namespace TapeMachine

inductive Misconfiguration where
  | sizeNotInteger (given : Value)
  | sizeTooSmall (given : Int)
  /-- There is no room for the tape; the words are those of whoever makes it. -/
  | sizeTooLarge (given : Int) (words : String)
  /-- The environment gives a size that is no integer. -/
  | sizeVariable (given : String)
  /-- An option gives a size that is no integer. -/
  | bufferSize (given : Value)
  /-- The names are given by their code points. -/
  | unknownOptions (names : List (List Nat))
  | optionsMissing (path : String)
  | optionsNotMapping (path : String)
  | notProgramFile
  /-- Anything else, in its own words. -/
  | stated (text : String)

namespace Misconfiguration

def message : Misconfiguration -> String
  | sizeNotInteger v => "Tape size must be an integer, got " ++ v.write
  | sizeTooSmall n => "Tape size must be at least 1, got " ++ toString n
  | sizeTooLarge n words => "Cannot allocate a tape of " ++ toString n ++ " cells: " ++ words
  | sizeVariable s => "Invalid BF_TAPE_SIZE: " ++ Text.quote s
  | bufferSize v => "Invalid buffer size: " ++ v.write
  | unknownOptions names => "Unknown option(s): " ++ ", ".intercalate (names.map Text.showPoints)
  | optionsMissing path => "Options file not found: " ++ path
  | optionsNotMapping path => "Options file must contain a mapping: " ++ path
  | notProgramFile => "Only *.bf files can be read by this interpreter"
  | stated text => text

/-- Whether the message can be written: it quotes what was given. -/
def isWritable : Misconfiguration -> Bool
  | sizeNotInteger v => v.isWritable
  | sizeTooSmall n => (Value.int n).isWritable
  | sizeTooLarge n _ => (Value.int n).isWritable
  | bufferSize v => v.isWritable
  | _ => true

end Misconfiguration

inductive Error where
  /-- A fault of the language without a kind of its own. -/
  | general (text : String)
  | underflow (boundary : Int)
  | overflow (boundary : Int)
  | unmatched (bracket : String) (position : Int)
  | notHex (token : String)
  | configuration (cause : Misconfiguration)
  | outOfTape (position : Int) (size : Nat)
  | file (failure : Files.Failure)
  | nullInPath
  /-- A file is no UTF-8 text. -/
  | undecodable
  | document (cause : Yaml.Error)
  /-- An option is named by a value that is no text. -/
  | nameNotText (kind : String)
  /-- Options are named by values that have no common order. -/
  | namesUnordered
  | infiniteSize
  | limitNotInteger
  /-- An integer has too many digits to be written. -/
  | tooManyDigits
  /-- A value is nested too deeply to be copied. -/
  | tooDeep

namespace Error

/-- The words for an error; some have none of their own. -/
def message? : Error -> Option String
  | general text => some text
  | underflow b => some ("Pointer fell below the minimum (" ++ toString b ++ ")")
  | overflow b => some ("Pointer is above the tape size (" ++ toString b ++ ")")
  | unmatched b p => some ("Unmatched '" ++ b ++ "' at position " ++ toString p)
  | notHex token => some ("Expected a hexadecimal byte, got " ++ Text.quote token)
  | configuration cause => some cause.message
  | outOfTape p n =>
      some ("index " ++ toString p ++ " is out of bounds for axis 0 with size " ++ toString n)
  | file failure => some failure.message
  | document .noDigits => some "string index out of range"
  | nameNotText kind => some ("sequence item 0: expected str instance, " ++ kind ++ " found")
  | infiniteSize => some "cannot convert float infinity to integer"
  | _ => none

def message (e : Error) : String :=
  e.message?.getD ""

inductive Family where
  | language
  | index
  | grammar
  | value
  | system
  deriving DecidableEq, Repr

def families : Error -> List Family
  | general _ => [.language]
  | underflow _ => [.language, .index]
  | overflow _ => [.language, .index]
  | unmatched _ _ => [.language, .grammar]
  | notHex _ => [.language, .value]
  | configuration _ => [.language, .value]
  | outOfTape _ _ => [.index]
  | file _ => [.system]
  | nullInPath => [.value]
  | undecodable => [.value]
  | document .undecodable => [.value]
  | document .noDigits => [.index]
  | document (.notSpelled _) => [.value]
  | tooManyDigits => [.value]
  | _ => []

/-- Whether the user is told about an error in one line. -/
def isExpected (e : Error) : Bool :=
  e.families.contains .language || e.families.contains .system

/-- The error of a misconfiguration.  If its message cannot be written, the attempt to
write it fails instead. -/
def ofMisconfiguration (m : Misconfiguration) : Error :=
  if m.isWritable then .configuration m else .tooManyDigits

end Error

def Fault.toError : Fault -> Error
  | .underflow b => .underflow b
  | .overflow b => .overflow b
  | .unmatched b p => .unmatched (String.singleton b.toChar) p
  | .notHex token => .notHex (String.ofList token)
  | .outOfTape p n => .outOfTape p n

end TapeMachine
