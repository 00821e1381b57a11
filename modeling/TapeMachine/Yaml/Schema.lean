import TapeMachine.Calendar
import TapeMachine.Text.Blank

/-!
# Plain scalars

A plain scalar stands for null, a truth value, a number or a date when it is
spelled like one, and for its text otherwise.  The spellings follow version 1.1
of the format: several words for the truth values, octal numbers with a leading
zero, and numbers in base sixty with colons.
-/

namespace TapeMachine
namespace Yaml

inductive Tag where
  | null
  | bool
  | int
  | float
  | timestamp
  | text
  | binary
  | sequence
  | mapping
  | set
  | orderedPairs
  | pairs
  /-- The key whose value is merged into a mapping. -/
  | merge
  /-- The key for the value of a mapping itself. -/
  | default
  /-- A tag without a meaning. -/
  | unknown (name : String)
  deriving DecidableEq, Repr

namespace Tag

/-- What the names of the known tags start with. -/
def stem : String :=
  "tag:yaml.org,2002:"

def named : List (String × Tag) :=
  [("null", .null), ("bool", .bool), ("int", .int), ("float", .float),
    ("timestamp", .timestamp), ("str", .text), ("binary", .binary), ("seq", .sequence),
    ("map", .mapping), ("set", .set), ("omap", .orderedPairs), ("pairs", .pairs),
    ("merge", .merge), ("value", .default)]

def isScalar : Tag -> Bool
  | null => true
  | bool => true
  | int => true
  | float => true
  | timestamp => true
  | text => true
  | binary => true
  | _ => false

def ofName (name : String) : Tag :=
  match named.find? fun (short, _) => stem ++ short == name with
  | some (_, t) => t
  | none => .unknown name

end Tag

/-!
## Spellings
-/

def nullWords : List String :=
  ["", "~", "null", "Null", "NULL"]

def trueWords : List String :=
  ["yes", "Yes", "YES", "true", "True", "TRUE", "on", "On", "ON"]

def falseWords : List String :=
  ["no", "No", "NO", "false", "False", "FALSE", "off", "Off", "OFF"]

def dropSign : List Char -> List Char
  | '-' :: rest => rest
  | '+' :: rest => rest
  | s => s

/-- Whether a text is not empty and has characters of a class only. -/
def isRunOf (p : Char -> Bool) (s : List Char) : Bool :=
  !s.isEmpty && s.all p

def isDigitOrBar (c : Char) : Bool :=
  c.isDigit || c == '_'

/-- Whether a text starts with a digit and goes on with digits and underscores. -/
def isWhole : List Char -> Bool
  | c :: rest => c.isDigit && rest.all isDigitOrBar
  | [] => false

/-- Whether a text is a number below sixty of one or two digits. -/
def isSixtieth : List Char -> Bool
  | [a] => a.isDigit
  | [a, b] => '0' <= a && a <= '5' && b.isDigit
  | _ => false

/-- Whether a text is a whole number followed by colons and numbers below sixty. -/
def isBaseSixty (first : List Char -> Bool) (s : List Char) : Bool :=
  match Text.splitAt ':' s with
  | head :: piece :: pieces => first head && (piece :: pieces).all isSixtieth
  | _ => false

def isWholeNonzero (s : List Char) : Bool :=
  isWhole s && s.head? != some '0'

def isIntText (s : List Char) : Bool :=
  let body := dropSign s
  match body with
  | '0' :: 'b' :: rest => isRunOf (fun c => c == '0' || c == '1' || c == '_') rest
  | '0' :: 'x' :: rest =>
      isRunOf
        (fun c => isDigitOrBar c || ('a' <= c && c <= 'f') || ('A' <= c && c <= 'F')) rest
  | ['0'] => true
  | '0' :: rest => isRunOf (fun c => ('0' <= c && c <= '7') || c == '_') rest
  | _ => isWholeNonzero body || isBaseSixty isWholeNonzero body

/-- Whether a text is empty or an exponent, whose sign is required. -/
def isExponentText : List Char -> Bool
  | [] => true
  | e :: sign :: digits =>
      (e == 'e' || e == 'E') && (sign == '-' || sign == '+') && isRunOf Char.isDigit digits
  | _ => false

/-- Whether a text is the fraction behind a point, with an optional exponent. -/
def isFraction (s : List Char) : Bool :=
  isExponentText (s.dropWhile isDigitOrBar)

def isFloatText (s : List Char) : Bool :=
  let body := dropSign s
  let before := body.takeWhile (· != '.')
  match body.dropWhile (· != '.') with
  | '.' :: after =>
      let word := String.ofList after
      if before.isEmpty then
        (["inf", "Inf", "INF"].contains word) ||
          (body.length == s.length &&
            (["nan", "NaN", "NAN"].contains word || (isWhole (after.take 1) && isFraction after)))
      else
        (isWhole before && isFraction after) ||
          (isBaseSixty isWhole before && after.all isDigitOrBar)
  | _ => false

/-!
## Dates and moments
-/

/-- Takes a number of at least `least` and at most `most` digits. -/
def takeDigits (least most : Nat) (s : List Char) : Option (Nat × List Char) :=
  let digits := (s.take most).takeWhile Char.isDigit
  if digits.length < least then none
  else some (digits.foldl (fun n d => 10 * n + (d.toNat - '0'.toNat)) 0, s.drop digits.length)

def takeMark (mark : Char) : List Char -> Option (List Char)
  | c :: rest => if c == mark then some rest else none
  | [] => none

def isGap (c : Char) : Bool :=
  c == ' ' || c == '\t'

def takeTimeMark : List Char -> Option (List Char)
  | c :: rest =>
      if c == 'T' || c == 't' then some rest
      else if isGap c then some (rest.dropWhile isGap)
      else none
  | [] => none

/-- Takes the fraction of a second, in millionths; further digits have no meaning. -/
def takeMicros : List Char -> Nat × List Char
  | '.' :: rest =>
      let digits := rest.takeWhile Char.isDigit
      let six := (digits ++ List.replicate 6 '0').take 6
      (six.foldl (fun n d => 10 * n + (d.toNat - '0'.toNat)) 0, rest.drop digits.length)
  | s => (0, s)

/-- Takes the rest of a time of day: nothing, or an offset. -/
def takeOffset (s : List Char) : Option (Option Int) :=
  if s.isEmpty then
    some none
  else
    match s.dropWhile isGap with
    | ['Z'] => some (some 0)
    | sign :: rest => do
        let (hours, rest) <- takeDigits 1 2 rest
        let (minutes, rest) <- match takeMark ':' rest with
          | some rest => takeDigits 2 2 rest
          | none => some (0, rest)
        let offset : Int := hours * 60 + minutes
        if !rest.isEmpty then none
        else if sign == '+' then some (some offset)
        else if sign == '-' then some (some (-offset))
        else none
    | [] => none

/-- A spelled date, with or without a time of day. -/
inductive Stamp where
  | date (year month day : Nat)
  | moment (m : Moment)

/-- Reads a date, with or without a time of day.  The numbers need not make sense. -/
def Stamp.read? (s : List Char) : Option Stamp := do
  let (year, s) <- takeDigits 4 4 s
  let s <- takeMark '-' s
  let (month, s) <- takeDigits 1 2 s
  let s <- takeMark '-' s
  let (day, s) <- takeDigits 1 2 s
  if s.isEmpty then
    pure (.date year month day)
  else
    let s <- takeTimeMark s
    let (hour, s) <- takeDigits 1 2 s
    let s <- takeMark ':' s
    let (minute, s) <- takeDigits 2 2 s
    let s <- takeMark ':' s
    let (second, s) <- takeDigits 2 2 s
    let (micro, s) := takeMicros s
    let offset <- takeOffset s
    pure (.moment ⟨year, month, day, hour, minute, second, micro, offset⟩)

/-- Whether a text is spelled like a date or moment; a date alone has two digits for
month and day. -/
def isStampText (s : List Char) : Bool :=
  match Stamp.read? s with
  | some (.date _ _ _) => s.length == 10
  | some (.moment _) => true
  | none => false

def Tag.ofPlain (s : List Char) : Tag :=
  let word := String.ofList s
  if nullWords.contains word then .null
  else if trueWords.contains word || falseWords.contains word then .bool
  else if isFloatText s then .float
  else if isIntText s then .int
  else if word == "<<" then .merge
  else if isStampText s then .timestamp
  else if word == "=" then .default
  else .text

end Yaml
end TapeMachine
