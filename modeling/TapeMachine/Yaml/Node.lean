import TapeMachine.Text.Points
import TapeMachine.Yaml.Lexer
import TapeMachine.Yaml.Schema

/-!
# From tokens to nodes

A document is a tree of nodes.  An anchor names a node, and an alias stands for
the node that was named before.  An alias inside the collection that it stands for has a
node of its own, since the tree would have no end otherwise.

Reading a node takes tokens from the front of the list that is left.  Between
two calls that take no token there is at most one that does, so the number of
tokens bounds the depth of the calls.
-/

namespace TapeMachine
namespace Yaml

inductive Node where
  | scalar (tag : Tag) (points : List Nat)
  | sequence (tag : Tag) (items : List Node)
  | mapping (tag : Tag) (entries : List (Node × Node))
  /-- A sequence or mapping around this place, again. -/
  | again (mapping : Bool)

namespace Node

def tag : Node -> Tag
  | scalar t _ => t
  | sequence t _ => t
  | mapping t _ => t
  | again true => .mapping
  | again false => .sequence

/-- The node where nothing is written. -/
def empty : Node :=
  .scalar .null []

end Node

/-- What is left to read, and what was named so far. -/
structure Reader where
  tokens : List Token
  handles : List (String × String) := [("!", "!"), ("!!", Tag.stem)]
  anchors : List (String × Node) := []

abbrev Reading := StateT Reader (Except Error)

namespace Reading

def peek : Reading Token := do
  return (<- get).tokens.headD .streamEnd

def drop : Reading Unit :=
  modify fun r => { r with tokens := r.tokens.tail }

def drop? (t : Token) : Reading Bool := do
  if (<- peek) = t then
    drop
    return true
  else
    return false

def expect (t : Token) : Reading Unit := do
  if !(<- drop? t) then
    throw (.malformed "a token is out of place")

def resolveAlias (name : String) : Reading Node := do
  match (<- get).anchors.lookup name with
  | some n => return n
  | none => throw (.malformed "an alias is unknown")

def nameNode (name : Option String) (n : Node) : Reading Unit := do
  match name with
  | none => return ()
  | some name => modify fun r => { r with anchors := (name, n) :: r.anchors }

def requireNew (name : Option String) : Reading Unit := do
  match name with
  | none => return ()
  | some name =>
      if ((<- get).anchors.lookup name).isSome then
        throw (.malformed "an anchor is used twice")

def expandTag (handle : Option String) (suffix : String) : Reading String := do
  match handle with
  | none => return suffix
  | some handle =>
      match (<- get).handles.lookup handle with
      | some expansion => return expansion ++ suffix
      | none => throw (.malformed "a tag handle is unknown")

/-- What may be written in front of the content of a node. -/
structure Properties where
  anchor : Option String := none
  tag : Option String := none

/-- Takes an anchor and a tag, in either order. -/
def takeProperties : Reading Properties := do
  match <- peek with
  | .anchor a =>
      drop
      match <- peek with
      | .tag handle suffix =>
          drop
          return { anchor := some a, tag := some (<- expandTag handle suffix) }
      | _ => return { anchor := some a }
  | .tag handle suffix =>
      drop
      let anchor <- match <- peek with
        | .anchor a => do
            drop
            pure (some a)
        | _ => pure none
      return { anchor := anchor, tag := some (<- expandTag handle suffix) }
  | _ => return {}

/-- The tag of a scalar: the given one, or for the mark `!` and for plain
scalars the one that it is spelled like. -/
def scalarTag (tag : Option String) (plain : Bool) (points : List Nat) : Tag :=
  let spelled := ((Text.ofPoints? points).map Tag.ofPlain).getD .text
  match tag with
  | none => if plain then spelled else .text
  | some name => if name == "!" then spelled else Tag.ofName name

def collectionTag (tag : Option String) (usual : Tag) : Tag :=
  match tag with
  | none => usual
  | some name => if name == "!" then usual else Tag.ofName name

inductive Context where
  | flow
  | block
  /-- In a block mapping, where a sequence need not be indented. -/
  | blockOrSequence
  deriving DecidableEq

def endsBlockEntry (t : Token) : Bool :=
  t = .key || t = .value || t = .blockEnd

mutual

def node : (fuel : Nat) -> Context -> Reading Node
  | 0, _ => throw (.malformed "the document is nested too deeply")
  | fuel + 1, context => do
      match <- peek with
      | .alias name =>
          drop
          resolveAlias name
      | _ =>
          let props <- takeProperties
          requireNew props.anchor
          let n <- content fuel context props
          nameNode props.anchor n
          return n

def content : (fuel : Nat) -> Context -> Properties -> Reading Node
  | 0, _, _ => throw (.malformed "the document is nested too deeply")
  | fuel + 1, context, props => do
      match <- peek with
      | .blockEntry =>
          if context = .blockOrSequence then
            nameNode props.anchor (.again false)
            return .sequence (collectionTag props.tag .sequence) (<- looseEntries fuel)
          else
            nothing props
      | .scalar points plain =>
          drop
          return .scalar (scalarTag props.tag plain points) points
      | .flowSequenceStart =>
          drop
          nameNode props.anchor (.again false)
          return .sequence (collectionTag props.tag .sequence) (<- flowItems fuel true)
      | .flowMappingStart =>
          drop
          nameNode props.anchor (.again true)
          return .mapping (collectionTag props.tag .mapping) (<- flowEntries fuel true)
      | .blockSequenceStart =>
          if context = .flow then
            nothing props
          else
            drop
            nameNode props.anchor (.again false)
            return .sequence (collectionTag props.tag .sequence) (<- blockItems fuel)
      | .blockMappingStart =>
          if context = .flow then
            nothing props
          else
            drop
            nameNode props.anchor (.again true)
            return .mapping (collectionTag props.tag .mapping) (<- blockEntries fuel)
      | _ => nothing props

def nothing (props : Properties) : Reading Node := do
  if props.anchor.isSome || props.tag.isSome then
    return .scalar (scalarTag props.tag true []) []
  else
    throw (.malformed "a node is missing")

def blockItems : (fuel : Nat) -> Reading (List Node)
  | 0 => throw (.malformed "the document is nested too deeply")
  | fuel + 1 => do
      if <- drop? .blockEntry then
        let t <- peek
        let item <- if t = .blockEntry || t = .blockEnd then pure Node.empty else node fuel .block
        return item :: (<- blockItems fuel)
      else
        expect .blockEnd
        return []

/-- Reads the items of a sequence that is not indented. -/
def looseEntries : (fuel : Nat) -> Reading (List Node)
  | 0 => throw (.malformed "the document is nested too deeply")
  | fuel + 1 => do
      if <- drop? .blockEntry then
        let t <- peek
        let item <-
          if t = .blockEntry || endsBlockEntry t then pure Node.empty else node fuel .block
        return item :: (<- looseEntries fuel)
      else
        return []

def blockEntries : (fuel : Nat) -> Reading (List (Node × Node))
  | 0 => throw (.malformed "the document is nested too deeply")
  | fuel + 1 => do
      if <- drop? .key then
        let k <-
          if endsBlockEntry (<- peek) then pure Node.empty else node fuel .blockOrSequence
        let v <-
          if <- drop? .value then
            if endsBlockEntry (<- peek) then pure Node.empty else node fuel .blockOrSequence
          else
            pure Node.empty
        return (k, v) :: (<- blockEntries fuel)
      else
        expect .blockEnd
        return []

/-- Reads the items of a sequence between brackets; an item may be a mapping of
one entry without brackets of its own. -/
def flowItems : (fuel : Nat) -> (first : Bool) -> Reading (List Node)
  | 0, _ => throw (.malformed "the document is nested too deeply")
  | fuel + 1, first => do
      if <- drop? .flowSequenceEnd then
        return []
      else
        if !first then
          expect .flowEntry
        if <- drop? .key then
          let entry <- flowEntry fuel .flowSequenceEnd
          return .mapping .mapping [entry] :: (<- flowItems fuel false)
        else if <- drop? .flowSequenceEnd then
          return []
        else
          let item <- node fuel .flow
          return item :: (<- flowItems fuel false)

/-- Reads the entries of a mapping between brackets; a node that is not marked
as a key has no value. -/
def flowEntries : (fuel : Nat) -> (first : Bool) -> Reading (List (Node × Node))
  | 0, _ => throw (.malformed "the document is nested too deeply")
  | fuel + 1, first => do
      if <- drop? .flowMappingEnd then
        return []
      else
        if !first then
          expect .flowEntry
        if <- drop? .key then
          let entry <- flowEntry fuel .flowMappingEnd
          return entry :: (<- flowEntries fuel false)
        else if <- drop? .flowMappingEnd then
          return []
        else
          let k <- node fuel .flow
          return (k, Node.empty) :: (<- flowEntries fuel false)

/-- Reads the entry behind a key mark, inside brackets that `closing` closes. -/
def flowEntry : (fuel : Nat) -> (closing : Token) -> Reading (Node × Node)
  | 0, _ => throw (.malformed "the document is nested too deeply")
  | fuel + 1, closing => do
      let t <- peek
      let k <-
        if t = .value || t = .flowEntry || t = closing then pure Node.empty
        else node fuel .flow
      if <- drop? .value then
        let t <- peek
        if t = .flowEntry || t = closing then
          return (k, Node.empty)
        else
          return (k, <- node fuel .flow)
      else
        return (k, Node.empty)

end

/-!
## Documents
-/

/-- Whether a document may start with a directive that was met after others. -/
def admits (seen : List Directive) (d : Directive) : Bool :=
  match d with
  | .version major _ =>
      major == 1 && !seen.any fun other => match other with
        | .version _ _ => true
        | _ => false
  | .shorthand handle _ =>
      !seen.any fun other => match other with
        | .shorthand h _ => h == handle
        | _ => false
  | .other _ => true

/-- Takes directives; `seen` are those taken before. -/
def takeDirectives : (fuel : Nat) -> (seen : List Directive) -> Reading (List Directive)
  | 0, seen => return seen
  | fuel + 1, seen => do
      match <- peek with
      | .directive d =>
          if admits seen d then
            drop
            takeDirectives fuel (d :: seen)
          else
            throw (.malformed "a directive is out of place")
      | _ => return seen

def shorthands (ds : List Directive) : List (String × String) :=
  ds.filterMap fun d => match d with
    | .shorthand handle expansion => some (handle, expansion)
    | _ => none

def skipDocumentEnds : (fuel : Nat) -> Reading Unit
  | 0 => return ()
  | fuel + 1 => do
      if <- drop? .documentEnd then
        skipDocumentEnds fuel

/-- Whether nothing is written between two marks of a document. -/
def isDocumentMark : Token -> Bool
  | .directive _ => true
  | .documentStart => true
  | .documentEnd => true
  | .streamEnd => true
  | _ => false

def document (fuel : Nat) : Reading (Option Node) := do
  match <- peek with
  | .streamEnd => return none
  | .directive _ | .documentStart =>
      let ds <- takeDirectives fuel []
      expect .documentStart
      modify fun r => { r with handles := shorthands ds ++ r.handles }
      let n <- if isDocumentMark (<- peek) then pure Node.empty else node fuel .block
      finish n
  | _ =>
      let n <- node fuel .block
      finish n
where
  /-- Only marks for the end of the document may follow it. -/
  finish (n : Node) : Reading (Option Node) := do
    skipDocumentEnds fuel
    expect .streamEnd
    return some n

end Reading

def Node.ofChars? (s : List Char) : Except Error (Option Node) := do
  let tokens <- Token.ofChars s
  let (n, _) <- (Reading.document (3 * tokens.size + 3)).run { tokens := tokens.toList }
  return n

end Yaml
end TapeMachine
