/-!
# Tokens

A document is a sequence of tokens.  Besides the marks that are written there
are tokens for the start and end of collections that only indentation shows,
and a `key` in front of every key of a mapping, whether it was marked or not.
-/

namespace TapeMachine
namespace Yaml

/-- A line that speaks about the document that follows. -/
inductive Directive where
  | version (major minor : Nat)
  | shorthand (handle expansion : String)
  /-- Anything else, which has no meaning. -/
  | other (name : String)
  deriving DecidableEq, Repr

inductive Token where
  | directive (d : Directive)
  | documentStart
  | documentEnd
  | streamEnd
  | blockSequenceStart
  | blockMappingStart
  | blockEnd
  | flowSequenceStart
  | flowSequenceEnd
  | flowMappingStart
  | flowMappingEnd
  | blockEntry
  | flowEntry
  | key
  | value
  | alias (name : String)
  | anchor (name : String)
  | tag (handle : Option String) (suffix : String)
  /-- The text of a scalar is given by its code points. -/
  | scalar (points : List Nat) (plain : Bool)
  deriving DecidableEq, Repr, Inhabited

end Yaml
end TapeMachine
