import TapeMachine.Options.Settings

/-!
# Options by name

The command line and the header of a program name options in a short and in
longer spellings.  Naming a flag turns it around; naming the size sets it.
-/

namespace TapeMachine

inductive OptionName where
  | flag (f : Flag)
  | size
  deriving DecidableEq, Repr

def Flag.spellings : Flag -> List String
  | wrapBuffer => ["w", "wrapBuffer", "wrap-buffer"]
  | binaryInput => ["b", "binaryInput", "binary-input"]
  | rawInput => ["raw"]
  | realtimeInput => ["r", "realtime"]

def sizeSpellings : List String :=
  ["s", "bufferSize", "buffer-size"]

namespace OptionName

def spellings : OptionName -> List String
  | flag f => f.spellings
  | size => sizeSpellings

def all : List OptionName :=
  [flag .realtimeInput, flag .binaryInput, flag .wrapBuffer, flag .rawInput, size]

def ofString? (name : String) : Option OptionName :=
  all.find? fun option => option.spellings.contains name

end OptionName

namespace Settings

/-- Applies an option.  A size must be an integer or stand for one. -/
def applyOption (s : Settings) (option : OptionName) (v : Value) : Except Error Settings :=
  match option with
  | .flag f => .ok (s.toggle f)
  | .size =>
      match v.toInt with
      | .ok n => .ok (s.setTapeSize (.int n))
      | .error .unreadable => .error (.ofMisconfiguration (.bufferSize v))
      | .error .infinite => .error .infiniteSize

def applyNamed (s : Settings) (name : String) (v : Value) : Except Error (Option Settings) :=
  match OptionName.ofString? name with
  | none => .ok none
  | some option => (s.applyOption option v).map some

end Settings
end TapeMachine
