import TapeMachine.Cli.Command
import TapeMachine.Proofs.Cli.CommandLine
import TapeMachine.Proofs.Options.Parity

/-!
# Layers of options

The settings of a run come from five places: the default, the environment, an options
file, the command line and the header of the program.  Each place is read by a part of
its own and changes what the places before it left.  Taken together they have a closed
form: of the sizes the one of the last place counts, and a flag counts how often the
command line and the header name it.
-/

namespace TapeMachine

/-!
## The options file and the environment
-/

def Flag.field : Flag -> String
  | wrapBuffer => "wrap_buffer"
  | binaryInput => "binary_input"
  | rawInput => "raw_input"
  | realtimeInput => "realtime_input"

/-- The environment gives a size: the default if nothing is set, and otherwise the
integer that is spelled. -/
def EnvironmentSize (sizeText : Option String) (n : Int) : Prop :=
  (sizeText = none ∧ n = 30000) ∨
    exists text, sizeText = some text ∧ Number.readInt? text.toList = some n

namespace Settings

/-- The keys of entries that name no setting. -/
def unknownKeys (entries : List (Value × Value)) : List Value :=
  (entries.map fun (k, _) => k).filter fun k => !isName k

/-- The settings that an options file gives on top of a size. -/
def documented (n : Int) (entries : List (Value × Value)) : Settings where
  tapeSize := (lookup? entries "tape_size").getD (.int n)
  wrapBuffer := (lookup? entries Flag.wrapBuffer.field).getD (.bool false)
  binaryInput := (lookup? entries Flag.binaryInput.field).getD (.bool false)
  rawInput := (lookup? entries Flag.rawInput.field).getD (.bool false)
  realtimeInput := (lookup? entries Flag.realtimeInput.field).getD (.bool false)

end Settings

theorem contains_of_readBytes {files : Files.Store} {path : Path} {content : List UInt8}
    (h : readBytes files path = .ok content) : files.contains path = .ok true := by
  unfold readBytes at h
  unfold Files.Store.contains
  split at h
  · cases h
  · rename_i hnull
    rw [if_neg hnull]
    cases hfind : files.find path with
    | ok entry =>
        rfl
    | error cause =>
        rw [Files.Store.read, hfind] at h
        cases h

/-- An options file that can be read gives what its document gives. -/
theorem load_of_content {load : Loader} {files : Files.Store} {pathText : String}
    {content : List UInt8} (h : readBytes files (Path.ofString pathText) = .ok content)
    (sizeText : Option String) :
    Settings.load load files sizeText pathText =
      ((load content).mapError .document).bind
        (Settings.ofValue sizeText (Path.ofString pathText)) := by
  rw [Settings.load]
  simp only [contains_of_readBytes h, h]

/-- The entries that an options file gives: none without a file, and otherwise those of
its document, which has no unknown names. -/
def Documented (load : Loader) (files : Files.Store) (given : Option String)
    (entries : List (Value × Value)) : Prop :=
  match given with
  | none => entries = []
  | some path =>
      if path.isEmpty then
        entries = []
      else
        exists content, readBytes files (Path.ofString path) = .ok content ∧
          load content = .ok (.dict entries) ∧
          forall entry, entry ∈ entries -> Settings.isName entry.1 = true

def sourcePieces (source : List Char) : List (List Char) :=
  ((headerText? source).map headerPieces).getD []

theorem Settings.applyHeader_eq (s : Settings) (source : List Char) :
    s.applyHeader source = s.applyPieces (sourcePieces source) := by
  rw [applyHeader, sourcePieces]
  cases headerText? source <;> rfl

/-!
## The command line
-/

namespace Settings

end Settings

namespace Cli

namespace Console

theorem logFile_emit (c : Console) (e : Log.Entry) : (c.emit e).logFile = c.logFile := by
  unfold emit
  split
  · rfl
  · split <;> rfl

/-- The console once logging has started. -/
def started (c : Console) : Console :=
  c.emit (.started c.level)

/-- The console once the options are settled. -/
def settled (c : Console) (s : Settings) : Console :=
  c.started.emit (.options s.write?)

theorem logFile_started (c : Console) : c.started.logFile = c.logFile :=
  c.logFile_emit (.started c.level)

theorem files_of_none {c : Console} (h : c.logFile = none) (store : Files.Store) :
    c.files store = store := by
  rw [files, h]

end Console

theorem prepare_of_arguments {argv : List String} {a : Arguments}
    (h : Arguments.ofList argv = .ok a) (world : World) :
    prepare world argv = prepareWith world a := by
  cases argv with
  | nil =>
      cases h
  | cons arg argv =>
      rw [prepare, h]
      rfl

theorem prepareWith_of_settle {world : World} {a : Arguments} {c : Console} {s : Settings}
    (hopen : openConsole world a = .ok c)
    (hsettle : settle world.host.load (c.started.files world.files) world.sizeText a = .ok s) :
    prepareWith world a = prepareSettled world a c.started s := by
  rw [Console.started] at hsettle
  unfold prepareWith
  simp only [hopen, hsettle]
  rfl

/-- A call that is understood and runs a program file, and whose options are in order in
every place. -/
structure Call where
  world : World
  argv : List String
  arguments : Arguments
  source : List Char
  /-- The size on the command line. -/
  size : Option Int
  /-- The options file, and what it gives. -/
  config : Option String
  entries : List (Value × Value)
  /-- The size from the environment, or the default. -/
  environment : Int
  understood : Arguments.ofList argv = .ok arguments
  runsFile : arguments.interpret = false
  noLogFile : arguments.logFile = .null
  sizeGiven : arguments.bufferSize = size.elim .null .int
  configGiven : arguments.config = config.elim .null .text
  reads : readProgram world.files arguments.input = .ok source
  documented : Documented world.host.load world.files config entries
  sized : EnvironmentSize world.sizeText environment
  spelled : SizesSpelled (sourcePieces source)

namespace Call

def pieces (call : Call) : List (List Char) :=
  sourcePieces call.source

/-- How often the command line and the header together name a flag. -/
def times (call : Call) (f : Flag) : Nat :=
  call.arguments.times f + timesNamed f call.pieces

end Call

end Cli
end TapeMachine
