import TapeMachine.Yaml.Scalar

/-!
# From characters to tokens

The lexer keeps the indentation of the open blocks, the number of open
brackets, and the places where a key that is not marked as such may have
started.  Such a key is known only when the `:` behind it is met; the `key`
token is then put in front of it.  A key must end on its own line and within
1024 characters.
-/

namespace TapeMachine
namespace Yaml

/-- A place where an unmarked key may have started. -/
structure KeyPlace where
  /-- The number of tokens before it. -/
  tokenNumber : Nat
  /-- Whether a key has to start there. -/
  required : Bool
  index : Nat
  line : Nat
  column : Nat

structure Lexer where
  cursor : Cursor
  tokens : Array Token := #[]
  /-- The number of open brackets. -/
  flowLevel : Nat := 0
  /-- The indentation of the innermost block; `-1` outside of all. -/
  indent : Int := -1
  /-- The indentations of the blocks around it. -/
  outer : List Int := []
  /-- Whether an unmarked key may start here. -/
  keyAllowed : Bool := true
  /-- Where unmarked keys may have started, at most one for each level. -/
  keyPlaces : List (Nat × KeyPlace) := []
  done : Bool := false

namespace Lexer

def maxKeyLength : Nat :=
  1024

/-- Whether brackets surround the position. -/
def inFlow (l : Lexer) : Bool :=
  decide (0 < l.flowLevel)

def push (l : Lexer) (t : Token) : Lexer :=
  { l with tokens := l.tokens.push t }

/-- Moves behind one character and adds a token for it. -/
def mark (l : Lexer) (t : Token) : Lexer :=
  { l with cursor := l.cursor.advance, tokens := l.tokens.push t }

/-!
## Unmarked keys
-/

/-- Whether a place is too far away for a key that starts there. -/
def isStale (l : Lexer) (k : KeyPlace) : Bool :=
  k.line != l.cursor.line || decide (maxKeyLength < l.cursor.index - k.index)

/-- Gives up the places where a key can no longer have started. -/
def dropStaleKeys (l : Lexer) : Except Error Lexer :=
  if l.keyPlaces.any fun (_, k) => l.isStale k && k.required then
    .error (.malformed "a key has no colon")
  else
    .ok { l with keyPlaces := l.keyPlaces.filter fun (_, k) => !l.isStale k }

def dropKey (l : Lexer) : Except Error Lexer :=
  match l.keyPlaces.lookup l.flowLevel with
  | some k =>
      if k.required then .error (.malformed "a key has no colon")
      else .ok { l with keyPlaces := l.keyPlaces.filter fun (level, _) => level != l.flowLevel }
  | none => .ok l

def saveKey (l : Lexer) : Except Error Lexer :=
  if l.keyAllowed then do
    let k : KeyPlace :=
      { tokenNumber := l.tokens.size
        required := !l.inFlow && l.indent == (l.cursor.column : Int)
        index := l.cursor.index
        line := l.cursor.line
        column := l.cursor.column }
    let l <- l.dropKey
    pure { l with keyPlaces := (l.flowLevel, k) :: l.keyPlaces }
  else
    .ok l

/-!
## Blocks
-/

/-- Opens a block at a column unless that column lies inside the open one. -/
def openBlock (l : Lexer) (column : Nat) : Option Lexer :=
  if l.indent < (column : Int) then
    some { l with outer := l.indent :: l.outer, indent := column }
  else
    none

/-- Closes the blocks that are indented by more than a column. -/
def closeBlocks (column : Int) : (outer : List Int) -> (indent : Int) -> List Int × Int × Nat
  | [], indent => ([], indent, 0)
  | next :: outer, indent =>
      if column < indent then
        let (outer, indent, n) := closeBlocks column outer next
        (outer, indent, n + 1)
      else
        (next :: outer, indent, 0)

/-- Closes the blocks that end before a column; brackets keep all blocks open. -/
def unwind (l : Lexer) (column : Int) : Lexer :=
  if l.inFlow then
    l
  else
    let (outer, indent, n) := closeBlocks column l.outer l.indent
    { l with outer := outer, indent := indent, tokens := l.tokens ++ Array.replicate n .blockEnd }

/-!
## Marks
-/

def fetchEnd (l : Lexer) : Except Error Lexer := do
  let l := l.unwind (-1)
  let l <- l.dropKey
  pure { (l.push .streamEnd) with keyAllowed := false, keyPlaces := [], done := true }

def fetchDirective (l : Lexer) : Except Error Lexer := do
  let l <- (l.unwind (-1)).dropKey
  let (t, c) <- takeDirective l.cursor
  pure { (l.push t) with keyAllowed := false, cursor := c }

def fetchDocumentMark (t : Token) (l : Lexer) : Except Error Lexer := do
  let l <- (l.unwind (-1)).dropKey
  pure { (l.push t) with keyAllowed := false, cursor := l.cursor.advanceBy 3 }

def fetchFlowStart (t : Token) (l : Lexer) : Except Error Lexer := do
  let l <- l.saveKey
  pure { (l.mark t) with flowLevel := l.flowLevel + 1, keyAllowed := true }

def fetchFlowEnd (t : Token) (l : Lexer) : Except Error Lexer := do
  if l.inFlow then
    let l <- l.dropKey
    pure { (l.mark t) with flowLevel := l.flowLevel - 1, keyAllowed := false }
  else
    .error (.malformed "a bracket was never opened")

/-- A comma. -/
def fetchFlowEntry (l : Lexer) : Except Error Lexer := do
  let l <- l.dropKey
  pure { (l.mark .flowEntry) with keyAllowed := true }

/-- Opens a block at the cursor unless it is open already. -/
def startBlock (t : Token) (l : Lexer) : Except Error Lexer :=
  if l.inFlow then
    .ok l
  else if l.keyAllowed then
    match l.openBlock l.cursor.column with
    | some l => .ok (l.push t)
    | none => .ok l
  else
    .error (.malformed "a collection cannot start here")

/-- A dash. -/
def fetchBlockEntry (l : Lexer) : Except Error Lexer := do
  let l <- l.startBlock .blockSequenceStart
  let l <- l.dropKey
  pure { (l.mark .blockEntry) with keyAllowed := true }

/-- A question mark. -/
def fetchKey (l : Lexer) : Except Error Lexer := do
  let l <- l.startBlock .blockMappingStart
  let l <- l.dropKey
  pure { (l.mark .key) with keyAllowed := !l.inFlow }

def insertAt (tokens : Array Token) (n : Nat) (new : Array Token) : Array Token :=
  tokens.extract 0 n ++ new ++ tokens.extract n tokens.size

/-- A colon: it ends the key whose start was noted, or follows a marked key. -/
def fetchValue (l : Lexer) : Except Error Lexer := do
  match l.keyPlaces.lookup l.flowLevel with
  | some k =>
      let l := { l with keyPlaces := l.keyPlaces.filter fun (level, _) => level != l.flowLevel }
      let (l, new) :=
        if l.inFlow then
          (l, #[Token.key])
        else
          match l.openBlock k.column with
          | some l => (l, #[.blockMappingStart, .key])
          | none => (l, #[.key])
      let l := { l with tokens := insertAt l.tokens k.tokenNumber new, keyAllowed := false }
      pure (l.mark .value)
  | none =>
      let l <- l.startBlock .blockMappingStart
      let l := { l with keyAllowed := !l.inFlow }
      let l <- l.dropKey
      pure (l.mark .value)

/-!
## Content
-/

def fetchAlias (l : Lexer) : Except Error Lexer := do
  let l <- l.saveKey
  let (name, c) <- takeAnchor l.cursor
  pure { (l.push (.alias name)) with cursor := c, keyAllowed := false }

def fetchAnchor (l : Lexer) : Except Error Lexer := do
  let l <- l.saveKey
  let (name, c) <- takeAnchor l.cursor
  pure { (l.push (.anchor name)) with cursor := c, keyAllowed := false }

def fetchTag (l : Lexer) : Except Error Lexer := do
  let l <- l.saveKey
  let (t, c) <- takeTag l.cursor
  pure { (l.push t) with cursor := c, keyAllowed := false }

def fetchBlockScalar (folded : Bool) (l : Lexer) : Except Error Lexer := do
  let l <- l.dropKey
  let (text, c) <- takeBlock folded l.indent l.cursor
  pure { (l.push (.scalar (text.map Char.toNat) false)) with cursor := c, keyAllowed := true }

def fetchQuoted (double : Bool) (l : Lexer) : Except Error Lexer := do
  let l <- l.saveKey
  let (points, c) <- takeQuoted double l.cursor
  pure { (l.push (.scalar points false)) with cursor := c, keyAllowed := false }

def fetchPlain (l : Lexer) : Except Error Lexer := do
  let l <- l.saveKey
  let plain := takePlain l.inFlow (l.indent + 1) l.cursor
  pure { (l.push (.scalar (plain.text.map Char.toNat) true)) with
    cursor := plain.cursor, keyAllowed := plain.crossesLine }

/-!
## The next token
-/

/-- Skips spaces, comments and line ends; a key may start behind a line end
outside of brackets. -/
def skipToToken : (fuel : Nat) -> Lexer -> Lexer
  | 0, l => l
  | fuel + 1, l =>
      let c := l.cursor.skipSpaces.skipComment
      match c.takeBreak with
      | some (_, c) =>
          skipToToken fuel { l with cursor := c, keyAllowed := l.keyAllowed || !l.inFlow }
      | none => { l with cursor := c }

def startsPlain (l : Lexer) (c : Char) : Bool :=
  let marks := "-?:,[]\x7b\x7d#&*!|>'\"%@`".toList
  !(isSeparator c || marks.contains c) ||
    (!endOr isSeparator (l.cursor.peekAt 1) && (c == '-' || (!l.inFlow && (c == '?' || c == ':'))))

/-- Whether a mark that a separator must follow stands at the cursor; inside
brackets nothing needs to follow it. -/
def marksPair (l : Lexer) : Bool :=
  l.inFlow || endOr isSeparator (l.cursor.peekAt 1)

/-- Reads the token that starts with the character `c` at the cursor. -/
def fetchAt (l : Lexer) (c : Char) : Except Error Lexer :=
  let atStart := l.cursor.column == 0
  if c == '%' && atStart then l.fetchDirective
  else if c == '-' && atStart && l.cursor.atDocumentMark then l.fetchDocumentMark .documentStart
  else if c == '.' && atStart && l.cursor.atDocumentMark then l.fetchDocumentMark .documentEnd
  else if c == '[' then l.fetchFlowStart .flowSequenceStart
  else if c == '\x7b' then l.fetchFlowStart .flowMappingStart
  else if c == ']' then l.fetchFlowEnd .flowSequenceEnd
  else if c == '\x7d' then l.fetchFlowEnd .flowMappingEnd
  else if c == ',' then l.fetchFlowEntry
  else if c == '-' && endOr isSeparator (l.cursor.peekAt 1) then l.fetchBlockEntry
  else if c == '?' && l.marksPair then l.fetchKey
  else if c == ':' && l.marksPair then l.fetchValue
  else if c == '*' then l.fetchAlias
  else if c == '&' then l.fetchAnchor
  else if c == '!' then l.fetchTag
  else if c == '|' && !l.inFlow then l.fetchBlockScalar false
  else if c == '>' && !l.inFlow then l.fetchBlockScalar true
  else if c == '\'' then l.fetchQuoted false
  else if c == '"' then l.fetchQuoted true
  else if l.startsPlain c then l.fetchPlain
  else .error (.malformed "a character cannot start a token")

/-- Reads the next token, closing the blocks that end before it. -/
def fetch (l : Lexer) : Except Error Lexer := do
  let l := l.skipToToken (l.cursor.rest.length + 1)
  let l <- l.dropStaleKeys
  let l := l.unwind l.cursor.column
  match l.cursor.peek with
  | none => l.fetchEnd
  | some c => l.fetchAt c

/-- Reads tokens until the text ends.  Every token takes a character, so the
number of characters bounds the rounds. -/
def fetchAll : (fuel : Nat) -> Lexer -> Except Error (Array Token)
  | 0, l => .ok l.tokens
  | fuel + 1, l => do
      let l <- l.fetch
      if l.done then pure l.tokens else fetchAll fuel l

end Lexer

/-- The tokens of a document.  A byte order mark at its very start is skipped. -/
def Token.ofChars (s : List Char) : Except Error (Array Token) :=
  if s.all isAllowed then
    let start : Cursor := { rest := s }
    let start := if start.sees '\ufeff' then start.advance else start
    Lexer.fetchAll (s.length + 1) { cursor := start }
  else
    .error (.malformed "a character is not allowed")

end Yaml
end TapeMachine
