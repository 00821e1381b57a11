import TapeMachine.Cli.Arguments
import TapeMachine.Options.Settings

/-!
# Calls as they are written

A call of the command is a list of items in any order: flags by their short or
their long name, switches that carry a value in one of several ways, and the input.
Reading the words of such a call gives back what was written.
-/

namespace TapeMachine
namespace Cli

/-!
## Items
-/

/-- A name of a switch, the long one if there is no other. -/
def Switch.name (s : Switch) (long : Bool) : String :=
  if long then s.long else s.short?.getD s.long

/-- The switch that turns a flag around. -/
def switchOf : Flag -> Switch
  | .wrapBuffer => .wrapBuffer
  | .binaryInput => .binaryInput
  | .rawInput => .raw
  | .realtimeInput => .realtime

/-- How a switch carries its value. -/
inductive Carriage where
  /-- The value is the next argument. -/
  | apart (long : Bool)
  /-- The value follows an equals sign. -/
  | equals (long : Bool)
  /-- The value follows the letter of the switch. -/
  | attached
  deriving DecidableEq, Repr

def Carriage.write (s : Switch) (value : String) : Carriage -> List String
  | apart long => [s.name long, value]
  | equals long => [s.name long ++ "=" ++ value]
  | attached => [s.name false ++ value]

/-- What a call gives. -/
inductive Item where
  /-- A counted switch by one of its names. -/
  | counted (s : Switch) (long : Bool)
  /-- Counted switches that share a dash. -/
  | letters (s : Switch) (more : List Switch)
  | size (carriage : Carriage) (text : String)
  | config (carriage : Carriage) (path : String)
  | input (path : String)
  deriving DecidableEq, Repr

namespace Item

def write : Item -> List String
  | counted s long => [s.name long]
  | letters s more => [s.name false ++ String.ofList (more.filterMap Switch.letter?)]
  | size carriage text => carriage.write .bufferSize text
  | config carriage path => carriage.write .config path
  | input path => [path]

def switches : Item -> List Switch
  | counted s _ => [s]
  | letters s more => s :: more
  | _ => []

def size? : Item -> Option Int
  | size _ text => Number.readInt? text.toList
  | _ => none

def config? : Item -> Option String
  | config _ path => some path
  | _ => none

def input? : Item -> Option String
  | input path => some path
  | _ => none

end Item

/-- How often a call turns a flag around. -/
def timesGiven (f : Flag) (items : List Item) : Nat :=
  (items.flatMap Item.switches).count (switchOf f)

/-- The size that a call gives: the last one counts. -/
def givenSize? (items : List Item) : Option Int :=
  (items.filterMap Item.size?).getLast?

/-- The options file that a call gives: the last one counts. -/
def givenConfig? (items : List Item) : Option String :=
  (items.filterMap Item.config?).getLast?

def givenInputs (items : List Item) : List String :=
  items.filterMap Item.input?

/-!
## Words of a call
-/

namespace Switch

end Switch

def Carriage.words (s : Switch) (value : String) : Carriage -> List Word
  | apart long => [.switch s (isShortName (s.name long)) none, .operand value]
  | equals long => [.switch s (isShortName (s.name long)) (some value)]
  | attached => [.switch s true (some value)]

def Item.words : Item -> List Word
  | counted s long => [.switch s (isShortName (s.name long)) none]
  | letters s more =>
      [.switch s true (some (String.ofList (more.filterMap Switch.letter?)))]
  | size carriage text => carriage.words .bufferSize text
  | config carriage path => carriage.words .config path
  | input path => [.operand path]

def Arguments.times (a : Arguments) : Flag -> Nat
  | .wrapBuffer => a.wrapBuffer
  | .binaryInput => a.binaryInput
  | .rawInput => a.raw
  | .realtimeInput => a.realtime

/-- Some arguments count more switches than others and agree with them on the rest. -/
structure Arguments.CountsMore (a b : Arguments) (switches : List Switch) : Prop where
  times : forall f, b.times f = a.times f + switches.count (switchOf f)
  bufferSize : b.bufferSize = a.bufferSize
  config : b.config = a.config
  input : b.input = a.input
  interpret : b.interpret = a.interpret
  logFile : b.logFile = a.logFile

namespace Arguments.CountsMore

theorem trans {a b c : Arguments} {first second : List Switch} (hab : a.CountsMore b first)
    (hbc : b.CountsMore c second) : a.CountsMore c (first ++ second) where
  times f := by
    rw [hbc.times, hab.times, List.count_append, Nat.add_assoc]
  bufferSize := hbc.bufferSize.trans hab.bufferSize
  config := hbc.config.trans hab.config
  input := hbc.input.trans hab.input
  interpret := hbc.interpret.trans hab.interpret
  logFile := hbc.logFile.trans hab.logFile

end Arguments.CountsMore

def Gathered.inputs (g : Gathered) : List String :=
  if g.hasInput then [g.arguments.input] else []

/-- What an item adds to what was gathered. -/
structure Gathered.Adds (g g' : Gathered) (item : Item) : Prop where
  times : forall f, g'.arguments.times f = g.arguments.times f + item.switches.count (switchOf f)
  bufferSize : g'.arguments.bufferSize = item.size?.elim g.arguments.bufferSize .int
  config : g'.arguments.config = item.config?.elim g.arguments.config .text
  inputs : g'.inputs = g.inputs ++ item.input?.toList
  interpret : g'.arguments.interpret = g.arguments.interpret
  logFile : g'.arguments.logFile = g.arguments.logFile
  surplus : g'.surplus = g.surplus

/-- What was gathered is what some items give. -/
structure Gathered.Holds (g : Gathered) (items : List Item) : Prop where
  times : forall f, g.arguments.times f = timesGiven f items
  bufferSize : g.arguments.bufferSize = (givenSize? items).elim .null .int
  config : g.arguments.config = (givenConfig? items).elim .null .text
  inputs : g.inputs = givenInputs items
  interpret : g.arguments.interpret = false
  logFile : g.arguments.logFile = .null
  surplus : g.surplus = []

theorem timesGiven_concat (f : Flag) (items : List Item) (item : Item) :
    timesGiven f (items ++ [item]) = timesGiven f items + item.switches.count (switchOf f) := by
  simp [timesGiven]

theorem givenSize?_concat (items : List Item) (item : Item) :
    givenSize? (items ++ [item]) = item.size?.or (givenSize? items) := by
  cases h : item.size? <;> simp [givenSize?, h]

theorem givenConfig?_concat (items : List Item) (item : Item) :
    givenConfig? (items ++ [item]) = item.config?.or (givenConfig? items) := by
  cases h : item.config? <;> simp [givenConfig?, h]

theorem givenInputs_concat (items : List Item) (item : Item) :
    givenInputs (items ++ [item]) = givenInputs items ++ item.input?.toList := by
  cases h : item.input? <;> simp [givenInputs, h]

theorem Gathered.Holds.add {g g' : Gathered} {items : List Item} {item : Item}
    (hg : g.Holds items) (hadds : g.Adds g' item) : g'.Holds (items ++ [item]) where
  times f := by
    rw [hadds.times, hg.times, timesGiven_concat]
  bufferSize := by
    rw [hadds.bufferSize, hg.bufferSize, givenSize?_concat]
    cases item.size? <;> rfl
  config := by
    rw [hadds.config, hg.config, givenConfig?_concat]
    cases item.config? <;> rfl
  inputs := by
    rw [hadds.inputs, hg.inputs, givenInputs_concat]
  interpret := hadds.interpret.trans hg.interpret
  logFile := hadds.logFile.trans hg.logFile
  surplus := hadds.surplus.trans hg.surplus

/-- The arguments are what the items of a call give. -/
structure Arguments.Gives (a : Arguments) (items : List Item) (program : String) : Prop where
  times : forall f, a.times f = timesGiven f items
  bufferSize : a.bufferSize = (givenSize? items).elim .null .int
  config : a.config = (givenConfig? items).elim .null .text
  input : a.input = program
  interpret : a.interpret = false
  logFile : a.logFile = .null

end Cli
end TapeMachine
