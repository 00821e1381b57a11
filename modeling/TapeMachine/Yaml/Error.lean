/-!
# Failures of a document
-/

namespace TapeMachine
namespace Yaml

inductive Error where
  | malformed (problem : String)
  /-- There is no text. -/
  | undecodable
  /-- A scalar does not spell the number or date that its tag promises. -/
  | notSpelled (text : String)
  | notTruth (text : String)
  | notDated (text : String)
  | noDigits
  | tooDeep
  /-- Anything else, by the name of its kind. -/
  | other (kind : String)
  deriving DecidableEq, Repr

end Yaml
end TapeMachine
