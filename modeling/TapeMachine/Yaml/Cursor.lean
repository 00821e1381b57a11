/-!
# Reading positions

A cursor stands in front of the characters of a document that are still to be
read.  It counts lines and columns, on which the layout of a document depends;
the byte order mark has no width.
-/

namespace TapeMachine
namespace Yaml

/-!
## Character classes
-/

def isBreak (c : Char) : Bool :=
  c == '\n' || c == '\r' || c == '\x85' || c == '\u2028' || c == '\u2029'

def isSeparator (c : Char) : Bool :=
  c == ' ' || c == '\t' || isBreak c

/-- Whether a document may hold a character at all. -/
def isAllowed (c : Char) : Bool :=
  let n := c.toNat
  n == 0x9 || n == 0xA || n == 0xD || (decide (0x20 <= n) && decide (n <= 0x7E)) ||
    n == 0x85 || (decide (0xA0 <= n) && decide (n <= 0xD7FF)) ||
    (decide (0xE000 <= n) && decide (n <= 0xFFFD)) || decide (0x10000 <= n)

def isNameChar (c : Char) : Bool :=
  c.isAlphanum || c == '-' || c == '_'

/-- Whether the text is at its end or the next character belongs to a class. -/
def endOr (p : Char -> Bool) : Option Char -> Bool
  | none => true
  | some c => p c

/-!
## Cursors
-/

structure Cursor where
  rest : List Char
  index : Nat := 0
  line : Nat := 0
  column : Nat := 0
  deriving Repr, Inhabited

namespace Cursor

def peek (c : Cursor) : Option Char :=
  c.rest.head?

/-- The character `n` places behind the next one. -/
def peekAt (c : Cursor) (n : Nat) : Option Char :=
  c.rest[n]?

def sees (c : Cursor) (x : Char) : Bool :=
  c.peek == some x

def advance (c : Cursor) : Cursor :=
  match c.rest with
  | [] => c
  | x :: rest =>
      let endsLine := isBreak x && !(x == '\r' && rest.head? == some '\n')
      if endsLine then
        { rest := rest, index := c.index + 1, line := c.line + 1, column := 0 }
      else if x == '\ufeff' then
        { c with rest := rest, index := c.index + 1 }
      else
        { c with rest := rest, index := c.index + 1, column := c.column + 1 }

/-- Moves behind the next `n` characters. -/
def advanceBy (c : Cursor) : Nat -> Cursor
  | 0 => c
  | n + 1 => c.advance.advanceBy n

def span (c : Cursor) (p : Char -> Bool) : List Char × Cursor :=
  let taken := c.rest.takeWhile p
  (taken, c.advanceBy taken.length)

def skip (c : Cursor) (p : Char -> Bool) : Cursor :=
  (c.span p).2

def skipSpaces (c : Cursor) : Cursor :=
  c.skip (· == ' ')

def skipIndent (c : Cursor) (column : Nat) : Cursor :=
  c.advanceBy (min (column - c.column) (c.rest.takeWhile (· == ' ')).length)

def skipLine (c : Cursor) : Cursor :=
  c.skip fun x => !isBreak x

def skipComment (c : Cursor) : Cursor :=
  if c.sees '#' then c.skipLine else c

/-- Takes one line end; all but the line and paragraph separators are read as a
line feed. -/
def takeBreak (c : Cursor) : Option (Char × Cursor) :=
  match c.rest with
  | '\r' :: '\n' :: _ => some ('\n', c.advance.advance)
  | x :: _ =>
      if x == '\u2028' || x == '\u2029' then some (x, c.advance)
      else if isBreak x then some ('\n', c.advance)
      else none
  | [] => none

def skipBreak (c : Cursor) : Cursor :=
  match c.takeBreak with
  | some (_, c) => c
  | none => c

/-- Whether a line that divides documents starts here. -/
def atDocumentMark (c : Cursor) : Bool :=
  match c.rest with
  | '-' :: '-' :: '-' :: rest => endOr isSeparator rest.head?
  | '.' :: '.' :: '.' :: rest => endOr isSeparator rest.head?
  | _ => false

end Cursor
end Yaml
end TapeMachine
