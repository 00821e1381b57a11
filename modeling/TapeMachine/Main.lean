import Std.Time.DateTime.Timestamp
import TapeMachine.Cli.Host

/-!
# The program

The outer layer of the command: it looks at the files that the arguments name,
feeds the machine with input as it asks for it, and writes what comes out.
-/

namespace TapeMachine
namespace Cli

def timeOfDay (seconds : Nat) : String :=
  let two (n : Nat) := if n < 10 then "0" ++ toString n else toString n
  two (seconds / 3600 % 24) ++ ":" ++ two (seconds / 60 % 60) ++ ":" ++ two (seconds % 60)

def Arguments.paths (a : Arguments) : List String :=
  let given (v : Value) := match v with
    | .text path => if path.isEmpty then [] else [path]
    | _ => []
  given a.config ++ given a.logFile ++ if a.interpret then [] else [a.input]

def beginnings (parts : List String) : List (List String) :=
  (List.range parts.length).map fun n => parts.take (n + 1)

def causeOf (e : IO.Error) : Files.Cause :=
  match e with
  | .permissionDenied _ number _ => .other number.toNat "Permission denied"
  | _ => .other 5 "Input/output error"

def refuse (store : Files.Store) (use : Files.Use) (path : Path) (cause : Files.Cause) :
    Files.Store :=
  { store with
    refusal := fun use' path' =>
      if use' = use && path' = path then some cause else store.refusal use' path' }

/-- Looks at a path and at everything above it. -/
def look (store : Files.Store) (path : String) : IO Files.Store := do
  let here <- IO.currentDir
  let target := store.absolute (Path.ofString path)
  let mut seen := store
  for parts in beginnings target.parts do
    let place := here / ("/" ++ "/".intercalate parts)
    if <- place.isDir then
      seen := seen.put parts .directory
    else if <- place.pathExists then
      if parts.length == target.parts.length then
        try
          let content <- IO.FS.readBinFile place
          seen := seen.put parts (.file content.toList)
        catch e =>
          seen := refuse (seen.put parts (.file [])) .read (Path.ofString path) (causeOf e)
      else
        seen := seen.put parts (.file [])
  return seen

/-- Opens the log file, which empties it. -/
def openLog (store : Files.Store) (path : String) : IO Files.Store := do
  try
    IO.FS.writeFile path ""
    return store
  catch e =>
    return refuse store .write (store.absolute (Path.ofString path)) (causeOf e)

def survey (argv : List String) : IO World := do
  let here <- IO.currentDir
  let empty : Files.Store := { directory := Path.components here.toString }
  let mut files := empty
  if let .ok a := Arguments.ofList argv then
    for path in a.paths do
      files <- look files path
    if let .text path := a.logFile then
      if !path.isEmpty then
        files <- openLog files path
  let now <- Std.Time.Timestamp.now
  return {
    host := standardHost
    files := files
    sizeText := <- IO.getEnv "BF_TAPE_SIZE"
    clock := timeOfDay now.toSecondsSinceUnixEpoch.val.toNat }

/-- Whether the next token asks for input that is not there. -/
def awaitsInput (code : Tokens) (s : State) : Bool :=
  code[s.index]? == some ',' && s.input.rest.isEmpty

/-- Gives the machine a line of input when it needs one. -/
def feed (code : Tokens) (s : State) : IO State := do
  if awaitsInput code s then
    let line <- (<- IO.getStdin).getLine
    return { s with input := { s.input with rest := line.toList } }
  else
    return s

def drain (s : State) : IO State := do
  if s.output.isEmpty then
    return s
  else
    let stdout <- IO.getStdout
    stdout.putStr s.output
    stdout.flush
    return { s with output := "" }

/-- Runs a program, reading a line whenever input is missing and writing output
as it comes. -/
partial def drive (setup : Setup) (code : Tokens) (table : JumpTable) (s : State) :
    IO (Ending × JumpTable) := do
  let fed <- feed code s
  match stepWith setup code table fed with
  | (.running s, table) => drive setup code table (<- drain s)
  | (.finished s, table) => return (⟨s, none⟩, table)
  | (.faulted f s, table) => return (⟨s, some f⟩, table)

def finish (a : Option Arguments) (o : Outcome) : IO UInt32 := do
  IO.print o.output
  IO.eprint o.errors
  if let some { logFile := .text path, .. } := a then
    if let .ok content := o.files.read (Path.ofString path) then
      if !path.isEmpty then
        IO.FS.writeBinFile path (ByteArray.mk content.toArray)
  match o.exit with
  | .returned n => return n.toUInt32
  | .stopped n => return n.toUInt32
  | .ended e =>
      IO.eprintln ("Unexpected error: " ++ e.message)
      return 1

end Cli
end TapeMachine

open TapeMachine in
def main (argv : List String) : IO UInt32 := do
  let world <- Cli.survey argv
  let arguments := (Cli.Arguments.ofList argv).toOption
  match Cli.prepare world argv with
  | .over o => Cli.finish arguments o
  | .ready console itp source =>
      IO.eprint console.errors
      match itp.settings.setup? with
      | none => Cli.finish arguments (Cli.fail world console "" .limitNotInteger)
      | some setup =>
          let code := itp.settings.tokens source
          let (ending, known) <- Cli.drive setup code ∅ (itp.start (Input.ofString ""))
          let report := itp.report (.running code.size setup.limit) ending known
          Cli.finish arguments (Cli.conclude world { console with errors := "" } report)
