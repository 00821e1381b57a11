import TapeMachine.Text.Digit
import TapeMachine.Yaml.Cursor
import TapeMachine.Yaml.Error
import TapeMachine.Yaml.Name

/-!
# Written scalars

A scalar is written plain, between quotes, or as an indented block.  Line ends
inside plain and quoted scalars are folded: one line end becomes a space, and of
several the first is dropped.

Every loop here takes at least one character per round, so the number of
characters left bounds the rounds.
-/

namespace TapeMachine
namespace Yaml

/-- The text for a line end followed by further ones. -/
def foldBreaks (first : Char) (more : List Char) : List Char :=
  if first != '\n' then first :: more
  else if more.isEmpty then [' ']
  else more

/-!
## Plain scalars
-/

def endsPlain (flow : Bool) (c : Char) (following : Option Char) : Bool :=
  isSeparator c ||
    (c == ':' && endOr (fun x => isSeparator x || (flow && ",[]\x7b\x7d".toList.contains x)) following) ||
    (flow && ",?[]\x7b\x7d".toList.contains c)

/-- The number of characters of a plain scalar up to its first separator. -/
def plainLength (flow : Bool) : List Char -> Nat
  | [] => 0
  | c :: rest => if endsPlain flow c rest.head? then 0 else plainLength flow rest + 1

/-- The line ends at the start of a text, with spaces anywhere between them;
none when a mark that divides documents follows one of them. -/
def takePlainBreaks : (fuel : Nat) -> Cursor -> Option (List Char) × Cursor
  | 0, c => (some [], c)
  | fuel + 1, c =>
      if c.sees ' ' then
        takePlainBreaks fuel c.advance
      else
        match c.takeBreak with
        | none => (some [], c)
        | some (b, c) =>
            if c.atDocumentMark then
              (none, c)
            else
              let (more, c) := takePlainBreaks fuel c
              (more.map fun more => b :: more, c)

/-- What stands between two pieces of a plain scalar. -/
structure PlainGap where
  /-- The text between the pieces; none when the scalar cannot go on. -/
  text : Option (List Char)
  crossesLine : Bool
  cursor : Cursor

def takePlainGap (c : Cursor) : PlainGap :=
  let (spaces, c) := c.span (· == ' ')
  match c.takeBreak with
  | some (b, c) =>
      if c.atDocumentMark then
        ⟨none, true, c⟩
      else
        match takePlainBreaks c.rest.length c with
        | (some more, c) => ⟨some (foldBreaks b more), true, c⟩
        | (none, c) => ⟨none, true, c⟩
  | none => ⟨if spaces.isEmpty then none else some spaces, false, c⟩

structure Plain where
  text : List Char
  /-- Whether the scalar's last gap crosses a line end. -/
  crossesLine : Bool
  cursor : Cursor

/-- Takes the pieces of a plain scalar; `gap` stands before the next piece. -/
def takePlainPieces (flow : Bool) (indent : Int) :
    (fuel : Nat) -> (text gap : List Char) -> (crossesLine : Bool) -> Cursor -> Plain
  | 0, text, _, crossesLine, c => ⟨text, crossesLine, c⟩
  | fuel + 1, text, gap, crossesLine, c =>
      let n := if c.sees '#' then 0 else plainLength flow c.rest
      if n == 0 then
        ⟨text, crossesLine, c⟩
      else
        let text := text ++ gap ++ c.rest.take n
        let after := takePlainGap (c.advanceBy n)
        match after.text with
        | none => ⟨text, after.crossesLine, after.cursor⟩
        | some gap =>
            if after.cursor.sees '#' || (!flow && decide ((after.cursor.column : Int) < indent)) then
              ⟨text, after.crossesLine, after.cursor⟩
            else
              takePlainPieces flow indent fuel text gap after.crossesLine after.cursor

/-- Takes a plain scalar, whose further lines have at least `indent` columns in
front of them unless brackets surround it. -/
def takePlain (flow : Bool) (indent : Int) (c : Cursor) : Plain :=
  takePlainPieces flow indent c.rest.length [] [] false c

/-!
## Quoted scalars
-/

def escape? : Char -> Option Char
  | '0' => some '\x00'
  | 'a' => some '\x07'
  | 'b' => some '\x08'
  | 't' => some '\t'
  | '\t' => some '\t'
  | 'n' => some '\n'
  | 'v' => some '\x0b'
  | 'f' => some '\x0c'
  | 'r' => some '\r'
  | 'e' => some '\x1b'
  | ' ' => some ' '
  | '"' => some '"'
  | '\\' => some '\\'
  | '/' => some '/'
  | 'N' => some '\x85'
  | '_' => some '\xa0'
  | 'L' => some '\u2028'
  | 'P' => some '\u2029'
  | _ => none

def escapeDigits? : Char -> Option Nat
  | 'x' => some 2
  | 'u' => some 4
  | 'U' => some 8
  | _ => none

/-- Takes a code point written with `n` hexadecimal digits. -/
def takeHexEscape (n : Nat) (c : Cursor) : Except Error (Nat × Cursor) :=
  match (c.rest.take n).mapM Text.hexValue? with
  | some digits =>
      let code := digits.foldl (fun v d => 16 * v + d) 0
      if digits.length != n then
        .error (.malformed "an escape needs more hexadecimal digits")
      else if 0x110000 <= code then
        .error (.notSpelled "an escape spells no code point")
      else
        .ok (code, c.advanceBy n)
  | none => .error (.malformed "an escape needs more hexadecimal digits")

def takeQuotedBreaks : (fuel : Nat) -> Cursor -> Except Error (List Char × Cursor)
  | 0, c => .ok ([], c)
  | fuel + 1, c =>
      if c.atDocumentMark then
        .error (.malformed "a quoted scalar is not closed")
      else
        let c := c.skip fun x => x == ' ' || x == '\t'
        match c.takeBreak with
        | none => .ok ([], c)
        | some (b, c) => do
            let (more, c) <- takeQuotedBreaks fuel c
            pure (b :: more, c)

def takeEscape (c : Cursor) : Except Error (List Nat × Cursor) :=
  match c.peek with
  | none => .error (.malformed "an escape is missing")
  | some x =>
      match escape? x, escapeDigits? x with
      | some y, _ => .ok ([y.toNat], c.advance)
      | none, some n => do
          let (point, c) <- takeHexEscape n c.advance
          pure ([point], c)
      | none, none =>
          if isBreak x then do
            let (breaks, c) <- takeQuotedBreaks c.rest.length c.skipBreak
            pure (breaks.map Char.toNat, c)
          else
            .error (.malformed "an escape is unknown")

def takeQuotedBlanks (c : Cursor) : Except Error (List Char × Cursor) :=
  let (blanks, c) := c.span fun x => x == ' ' || x == '\t'
  match c.peek, c.takeBreak with
  | none, _ => .error (.malformed "a quoted scalar is not closed")
  | some _, some (b, c) => do
      let (more, c) <- takeQuotedBreaks c.rest.length c
      pure (foldBreaks b more, c)
  | some _, none => .ok (blanks, c)

/-- Takes the content of a quoted scalar, as code points, and the quote that closes it. -/
def takeQuotedRest (double : Bool) : (fuel : Nat) -> Cursor -> Except Error (List Nat × Cursor)
  | 0, _ => .error (.malformed "a quoted scalar is not closed")
  | fuel + 1, c =>
      match c.peek with
      | none => .error (.malformed "a quoted scalar is not closed")
      | some x =>
          if !double && x == '\'' && c.peekAt 1 == some '\'' then do
            let (more, c) <- takeQuotedRest double fuel (c.advanceBy 2)
            pure ('\''.toNat :: more, c)
          else if x == (if double then '"' else '\'') then
            .ok ([], c.advance)
          else if double && x == '\\' then do
            let (points, c) <- takeEscape c.advance
            let (more, c) <- takeQuotedRest double fuel c
            pure (points ++ more, c)
          else if isSeparator x then do
            let (text, c) <- takeQuotedBlanks c
            let (more, c) <- takeQuotedRest double fuel c
            pure (text.map Char.toNat ++ more, c)
          else do
            let (more, c) <- takeQuotedRest double fuel c.advance
            pure (x.toNat :: more, c)

def takeQuoted (double : Bool) (c : Cursor) : Except Error (List Nat × Cursor) :=
  takeQuotedRest double c.rest.length c.advance

/-!
## Block scalars
-/

/-- What happens to the line ends at the end of a block scalar. -/
inductive Chomping where
  /-- None is kept. -/
  | strip
  /-- The first is kept. -/
  | clip
  /-- All are kept. -/
  | keep
  deriving DecidableEq, Repr

structure BlockHeader where
  chomping : Chomping := .clip
  /-- The indentation relative to the surrounding block, if it is given. -/
  increment : Option Nat := none

def takeChomping (c : Cursor) : Option Chomping × Cursor :=
  if c.sees '+' then (some .keep, c.advance)
  else if c.sees '-' then (some .strip, c.advance)
  else (none, c)

def takeIncrement (c : Cursor) : Except Error (Option Nat × Cursor) :=
  match c.peek with
  | some d =>
      if d == '0' then .error (.malformed "a block cannot be indented by zero")
      else if d.isDigit then .ok (some (d.toNat - '0'.toNat), c.advance)
      else .ok (none, c)
  | none => .ok (none, c)

/-- Takes the header of a block scalar: the two marks, in either order, and the
rest of the line. -/
def takeBlockHeader (c : Cursor) : Except Error (BlockHeader × Cursor) := do
  let (early, c) := takeChomping c
  let (increment, c) <- takeIncrement c
  let (late, c) :=
    if early.isNone && increment.isSome then takeChomping c else (none, c)
  requireEndOr (fun x => x == ' ' || isBreak x) c
  let c <- endLine c
  pure ({ chomping := (early.or late).getD .clip, increment := increment }, c)

/-- Takes the empty lines at the start of a block scalar and finds the greatest
indentation among them. -/
def takeLeadingBreaks : (fuel : Nat) -> (widest : Nat) -> Cursor -> List Char × Nat × Cursor
  | 0, widest, c => ([], widest, c)
  | fuel + 1, widest, c =>
      if c.sees ' ' then
        let c := c.advance
        takeLeadingBreaks fuel (max widest c.column) c
      else
        match c.takeBreak with
        | none => ([], widest, c)
        | some (b, c) =>
            let (more, widest, c) := takeLeadingBreaks fuel widest c
            (b :: more, widest, c)

/-- Takes empty lines and the indentation of the line that follows. -/
def takeBlockBreaks (indent : Nat) : (fuel : Nat) -> Cursor -> List Char × Cursor
  | 0, c => ([], c.skipIndent indent)
  | fuel + 1, c =>
      let c := c.skipIndent indent
      match c.takeBreak with
      | none => ([], c)
      | some (b, c) =>
          let (more, c) := takeBlockBreaks indent fuel c
          (b :: more, c)

def chomp (chomping : Chomping) (last : Option Char) (breaks : List Char) : List Char :=
  match chomping with
  | .strip => []
  | .clip => last.toList
  | .keep => last.toList ++ breaks

/-- Whether a character keeps its line from being folded. -/
def isIndented (c : Option Char) : Bool :=
  c == some ' ' || c == some '\t'

/-- Takes the lines of a block scalar; `breaks` are the empty lines before the
next one, and `last` ends the previous one. -/
def takeBlockLines (folded : Bool) (chomping : Chomping) (indent : Nat) :
    (fuel : Nat) -> (last : Option Char) -> (breaks : List Char) -> Cursor -> List Char × Cursor
  | 0, last, breaks, c => (chomp chomping last breaks, c)
  | fuel + 1, last, breaks, c =>
      if c.column == indent && c.peek.isSome then
        let first := c.peek
        let (line, c) := c.span fun x => !isBreak x
        let (ending, c) :=
          match c.takeBreak with
          | some (b, c) => (some b, c)
          | none => (none, c)
        let (empties, c) := takeBlockBreaks indent c.rest.length c
        let goesOn := c.column == indent && c.peek.isSome
        let glue :=
          if !goesOn then []
          else if folded && ending == some '\n' && !isIndented first && !isIndented c.peek then
            if empties.isEmpty then [' '] else []
          else ending.toList
        let (more, c) := takeBlockLines folded chomping indent fuel ending empties c
        (breaks ++ line ++ glue ++ more, c)
      else
        (chomp chomping last breaks, c)

/-- Takes a block scalar inside a block that is indented by `outer`. -/
def takeBlock (folded : Bool) (outer : Int) (c : Cursor) : Except Error (List Char × Cursor) := do
  let (header, c) <- takeBlockHeader c.advance
  let least := (max (outer + 1) 1).toNat
  match header.increment with
  | none =>
      let (breaks, widest, c) := takeLeadingBreaks c.rest.length 0 c
      let indent := max least widest
      pure (takeBlockLines folded header.chomping indent (c.rest.length + 1) none breaks c)
  | some n =>
      let indent := least + n - 1
      let (breaks, c) := takeBlockBreaks indent c.rest.length c
      pure (takeBlockLines folded header.chomping indent (c.rest.length + 1) none breaks c)

end Yaml
end TapeMachine
