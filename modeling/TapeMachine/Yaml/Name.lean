import TapeMachine.Text.Digit
import TapeMachine.Text.Utf8
import TapeMachine.Yaml.Cursor
import TapeMachine.Yaml.Error
import TapeMachine.Yaml.Token

/-!
# Names in a document

Anchors, aliases, tags and directives are named by short runs of characters
that must be divided from what follows.
-/

namespace TapeMachine
namespace Yaml

def takeName (c : Cursor) : Except Error (String × Cursor) :=
  match c.span isNameChar with
  | ([], _) => .error (.malformed "a name is missing")
  | (name, c) => .ok (String.ofList name, c)

/-- Fails unless the text is at its end or the next character belongs to a
class. -/
def requireEndOr (p : Char -> Bool) (c : Cursor) : Except Error Unit :=
  if endOr p c.peek then .ok () else .error (.malformed "a separator is missing")

def endsAnchor (c : Char) : Bool :=
  isSeparator c || "?:,]\x7d%@`".toList.contains c

def takeAnchor (c : Cursor) : Except Error (String × Cursor) := do
  let (name, c) <- takeName c.advance
  requireEndOr endsAnchor c
  pure (name, c)

/-!
## Tags
-/

def isTagChar (c : Char) : Bool :=
  c.isAlphanum || "-;/?:@&=+$,_.!~*'()[]%".toList.contains c

/-- Takes bytes written as percent escapes. -/
def takeEscapedBytes : (fuel : Nat) -> Cursor -> Except Error (List UInt8 × Cursor)
  | 0, c => .ok ([], c)
  | fuel + 1, c =>
      match c.rest with
      | '%' :: a :: b :: _ =>
          match Text.hexValue? a, Text.hexValue? b with
          | some x, some y => do
              let (bytes, c) <- takeEscapedBytes fuel (c.advanceBy 3)
              pure (UInt8.ofNat (16 * x + y) :: bytes, c)
          | _, _ => .error (.malformed "an escape needs two hexadecimal digits")
      | '%' :: _ => .error (.malformed "an escape needs two hexadecimal digits")
      | _ => .ok ([], c)

/-- Takes the parts of a tag's name: plain characters and percent escapes. -/
def takeTagParts : (fuel : Nat) -> Cursor -> Except Error (List Char × Cursor)
  | 0, c => .ok ([], c)
  | fuel + 1, c =>
      if c.sees '%' then do
        let (bytes, c) <- takeEscapedBytes c.rest.length c
        match Text.decode? bytes with
        | some chars =>
            let (more, c) <- takeTagParts fuel c
            pure (chars ++ more, c)
        | none => .error (.malformed "an escape spells no character")
      else
        match c.span fun x => isTagChar x && x != '%' with
        | ([], _) => .ok ([], c)
        | (chars, c) => do
            let (more, c) <- takeTagParts fuel c
            pure (chars ++ more, c)

def takeTagName (c : Cursor) : Except Error (String × Cursor) := do
  let (name, after) <- takeTagParts c.rest.length c
  if after.index == c.index then
    .error (.malformed "a tag is missing")
  else
    pure (String.ofList name, after)

/-- Takes a handle: `!`, `!!` or `!name!`. -/
def takeHandle (c : Cursor) : Except Error (String × Cursor) :=
  match c.rest with
  | '!' :: ' ' :: _ => .ok ("!", c.advance)
  | '!' :: _ =>
      let (name, after) := c.advance.span isNameChar
      if after.sees '!' then
        .ok (String.ofList ('!' :: name ++ ['!']), after.advance)
      else
        .error (.malformed "a tag handle is not closed")
  | _ => .error (.malformed "a tag handle is missing")

/-- Whether a second `!` stands before the next space or line end. -/
def hasHandle (c : Cursor) : Bool :=
  (c.advance.rest.takeWhile fun x => !(x == ' ' || isBreak x)).contains '!'

def takeTag (c : Cursor) : Except Error (Token × Cursor) := do
  let (handle, suffix, after) <-
    if c.peekAt 1 == some '<' then do
      let (name, after) <- takeTagName (c.advanceBy 2)
      if after.sees '>' then
        pure (none, name, after.advance)
      else
        .error (.malformed "a tag is not closed")
    else if endOr isSeparator (c.peekAt 1) then
      pure (none, "!", c.advance)
    else if hasHandle c then do
      let (handle, after) <- takeHandle c
      let (name, after) <- takeTagName after
      pure (some handle, name, after)
    else do
      let (name, after) <- takeTagName c.advance
      pure (some "!", name, after)
  requireEndOr (fun x => x == ' ' || isBreak x) after
  pure (.tag handle suffix, after)

/-!
## Directives
-/

def endsDirectiveWord (c : Char) : Bool :=
  c == ' ' || isBreak c

def takeNumber (c : Cursor) : Except Error (Nat × Cursor) :=
  match c.span Char.isDigit with
  | ([], _) => .error (.malformed "a number is missing")
  | (digits, c) => .ok (digits.foldl (fun n d => 10 * n + (d.toNat - '0'.toNat)) 0, c)

/-- Takes a version such as `1.1`. -/
def takeVersion (c : Cursor) : Except Error (Directive × Cursor) := do
  let (major, c) <- takeNumber c.skipSpaces
  if c.sees '.' then
    let (minor, c) <- takeNumber c.advance
    requireEndOr endsDirectiveWord c
    pure (.version major minor, c)
  else
    .error (.malformed "a version needs a point")

/-- Takes a tag shorthand: a handle and what it stands for. -/
def takeShorthand (c : Cursor) : Except Error (Directive × Cursor) := do
  let (handle, c) <- takeHandle c.skipSpaces
  if c.sees ' ' then
    let (expansion, c) <- takeTagName c.skipSpaces
    requireEndOr endsDirectiveWord c
    pure (.shorthand handle expansion, c)
  else
    .error (.malformed "a handle needs an expansion")

/-- Skips the rest of a line, which may hold a comment only. -/
def endLine (c : Cursor) : Except Error Cursor :=
  let c := c.skipSpaces.skipComment
  if endOr isBreak c.peek then .ok c.skipBreak
  else .error (.malformed "the line should end here")

def takeDirective (c : Cursor) : Except Error (Token × Cursor) := do
  let (name, c) <- takeName c.advance
  requireEndOr endsDirectiveWord c
  let (d, c) <-
    if name == "YAML" then takeVersion c
    else if name == "TAG" then takeShorthand c
    else pure (.other name, c.skipLine)
  let c <- endLine c
  pure (.directive d, c)

end Yaml
end TapeMachine
