import TapeMachine.Log
import TapeMachine.Options.Named

/-!
# Options in a program's header

A program may start with a header `[options: … ]` whose words name options.
The header is part of the program: it is a loop that is skipped because the
tape starts with zeros.
-/

namespace TapeMachine

def headerStart : String :=
  "[options:"

/-- The text of a header up to the first closing bracket. -/
def headerText? (source : List Char) : Option (List Char) :=
  if headerStart.toList.isPrefixOf source && source.contains ']' then
    some ((source.takeWhile (· != ']')).drop headerStart.length)
  else
    none

def unwrapHeader (text : List Char) : List Char :=
  (text.filter (· != '\r')).map fun c => if c == '\n' || c == '\t' then ' ' else c

/-- The words of a header that name options: those that start with a dash. -/
def headerPieces (text : List Char) : List (List Char) :=
  (Text.words (unwrapHeader text)).filter fun word => word.head? == some '-'

/-- The name in a piece: what follows all its dashes up to an equals sign. -/
def pieceName (piece : List Char) : String :=
  String.ofList ((piece.dropWhile (· == '-')).takeWhile (· != '='))

/-- The value in a piece: what follows its first equals sign; nothing is null. -/
def pieceValue (piece : List Char) : Value :=
  let text := ((piece.dropWhile (· == '-')).dropWhile (· != '=')).drop 1
  if text.isEmpty then .null else .text (String.ofList text)

structure HeaderOutcome where
  /-- The settings, with the options before a failure applied. -/
  settings : Settings
  log : List Log.Entry
  failure : Option Error

namespace Settings

/-- Applies the pieces of a header until one fails; unknown names are logged. -/
def applyPieces (s : Settings) : List (List Char) -> HeaderOutcome
  | [] => ⟨s, [], none⟩
  | piece :: rest =>
      match s.applyNamed (pieceName piece) (pieceValue piece) with
      | .error e => ⟨s, [], some e⟩
      | .ok (some s) => s.applyPieces rest
      | .ok none =>
          let outcome := s.applyPieces rest
          { outcome with log := .unknownOption (String.ofList piece) :: outcome.log }

def applyHeader (s : Settings) (source : List Char) : HeaderOutcome :=
  match headerText? source with
  | none => ⟨s, [], none⟩
  | some text => s.applyPieces (headerPieces text)

end Settings
end TapeMachine
