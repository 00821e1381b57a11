import TapeMachine.Cli.Command
import TapeMachine.Yaml.Load

/-!
# A host to run on

The results about the command hold on every host.  This one loads documents with
`Yaml.load`, makes every tape whose cells have an address, and copies every value that
has an end.
-/

namespace TapeMachine

namespace Value

mutual

/-- Whether a value has an end: nothing in it contains itself. -/
def hasEnd : Value -> Bool
  | list items => haveEnds items
  | set items => haveEnds items
  | pairs entries => haveEndsBoth entries
  | dict entries => haveEndsBoth entries
  | endless _ => false
  | _ => true

def haveEnds : List Value -> Bool
  | [] => true
  | v :: rest => hasEnd v && haveEnds rest

def haveEndsBoth : List (Value × Value) -> Bool
  | [] => true
  | (k, v) :: rest => hasEnd k && hasEnd v && haveEndsBoth rest

end

end Value

namespace Cli

/-- The cells that have an address of 47 bits. -/
def addressable : Int :=
  0x800000000000

def outOfMemory : String :=
  "out of memory"

def standardHost : Host where
  load := Yaml.load
  allocate := fun n => if n <= addressable then none else some outOfMemory
  copies := Value.hasEnd

end Cli
end TapeMachine
