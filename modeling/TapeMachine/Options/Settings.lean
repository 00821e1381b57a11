import TapeMachine.Error

/-!
# Settings

A run is governed by five settings: the size of the tape and four flags.  Their
values are kept as they were given; a flag that is toggled becomes a truth
value.
-/

namespace TapeMachine

inductive Flag where
  | wrapBuffer
  | binaryInput
  | rawInput
  | realtimeInput
  deriving DecidableEq, Repr

structure Settings where
  tapeSize : Value
  /-- Whether the pointer goes round at the ends of the tape. -/
  wrapBuffer : Value := .bool false
  /-- Whether input bytes are spelled in hexadecimal. -/
  binaryInput : Value := .bool false
  /-- Whether comments stay in the program. -/
  rawInput : Value := .bool false
  /-- Whether every key is a byte of input. -/
  realtimeInput : Value := .bool false
  deriving Inhabited

namespace Settings

def flag (s : Settings) : Flag -> Value
  | .wrapBuffer => s.wrapBuffer
  | .binaryInput => s.binaryInput
  | .rawInput => s.rawInput
  | .realtimeInput => s.realtimeInput

def setFlag (s : Settings) (f : Flag) (v : Value) : Settings :=
  match f with
  | .wrapBuffer => { s with wrapBuffer := v }
  | .binaryInput => { s with binaryInput := v }
  | .rawInput => { s with rawInput := v }
  | .realtimeInput => { s with realtimeInput := v }

def toggle (s : Settings) (f : Flag) : Settings :=
  s.setFlag f (.bool (!(s.flag f).truthy))

def toggleTimes (s : Settings) (f : Flag) : Nat -> Settings
  | 0 => s
  | n + 1 => (s.toggle f).toggleTimes f n

/-- Changes the size of the tape, whatever the value; an interpreter checks it
when it makes its tape. -/
def setTapeSize (s : Settings) (v : Value) : Settings :=
  { s with tapeSize := v }

def stripsComments (s : Settings) : Bool :=
  !s.rawInput.truthy

theorem flag_setFlag (s : Settings) (f : Flag) (v : Value) : (s.setFlag f v).flag f = v := by
  cases f <;> rfl

theorem flag_setFlag_of_ne (s : Settings) {f g : Flag} (h : f ≠ g) (v : Value) :
    (s.setFlag f v).flag g = s.flag g := by
  cases f <;> cases g <;> first | rfl | exact absurd rfl h

theorem tapeSize_setFlag (s : Settings) (f : Flag) (v : Value) :
    (s.setFlag f v).tapeSize = s.tapeSize := by
  cases f <;> rfl

/-!
## The size from the environment
-/

def defaultTapeSize : Int :=
  30000

/-- The size of the tape that an environment variable gives. -/
def sizeFromVariable (sizeText : Option String) : Except Error Int :=
  match sizeText with
  | none => .ok defaultTapeSize
  | some text =>
      match Number.readInt? text.toList with
      | some n => .ok n
      | none => .error (.configuration (.sizeVariable text))

/-- The settings when nothing but the environment gives any. -/
def initial (sizeText : Option String) : Except Error Settings := do
  let size <- sizeFromVariable sizeText
  pure { tapeSize := .int size }

/-!
## Settings as entries
-/

def toEntries (s : Settings) : List (String × Value) :=
  [("tape_size", s.tapeSize), ("wrap_buffer", s.wrapBuffer), ("binary_input", s.binaryInput),
    ("raw_input", s.rawInput), ("realtime_input", s.realtimeInput)]

def toDict (s : Settings) : Value :=
  .dict (s.toEntries.map fun (name, v) => (.text name, v))

def write? (s : Settings) : Option String :=
  if s.toDict.isWritable then some s.toDict.write else none

def names : List String :=
  ["tape_size", "wrap_buffer", "binary_input", "raw_input", "realtime_input"]

def isName : Value -> Bool
  | .text s => names.contains s
  | _ => false

/-- The exact value of a number, as a fraction with its sign.  An infinite
number has the denominator zero. -/
def fraction : Value -> Int × Nat
  | .bool b => (if b then 1 else 0, 1)
  | .int n => (n, 1)
  | .float (.finite negative m e) =>
      let (num, den) := Number.Binary64.magnitude m e
      (Number.signed negative num, den)
  | .float (.infinite negative) => (Number.signed negative 1, 0)
  | _ => (0, 0)

def numberLess (a b : Value) : Bool :=
  let (m, d) := fraction a
  let (n, e) := fraction b
  decide (m * (e : Int) < n * (d : Int)) || (d == 0 && e == 0 && decide (m < n))

/-- The least of several numbers, the first of them in a tie. -/
def least (v : Value) : List Value -> Value
  | [] => v
  | w :: rest => least (if numberLess w v then w else v) rest

/-- The failure of naming options by these values, of which none is known.
Names are listed in the order of their code points.  Values that are no texts
cannot be listed: the least of them is blamed, if they have an order.  What is not a
number has no place among numbers, and does not count there unless it comes first. -/
def unknownNames (v : Value) (rest : List Value) : Error :=
  let all := v :: rest
  let names := all.filterMap Value.points?
  if names.length == all.length then
    .configuration (.unknownOptions (names.mergeSort fun a b => !List.lex b a))
  else if all.all Value.isNumber then
    .nameNotText (least v rest).kind
  else if all.all fun w => w.isComparable v then
    .nameNotText v.kind
  else
    .namesUnordered

/-- The last value that entries give to a name. -/
def lookup? (entries : List (Value × Value)) (name : String) : Option Value :=
  (entries.reverse.find? fun (k, _) => k == .text name).map fun (_, v) => v

/-- The settings that a mapping gives.  Unknown names are refused before the
environment is asked for a size. -/
def ofEntries (sizeText : Option String) (entries : List (Value × Value)) :
    Except Error Settings :=
  match (entries.map fun (k, _) => k).filter fun k => !isName k with
  | v :: rest => .error (unknownNames v rest)
  | [] => do
      let size <- match lookup? entries "tape_size" with
        | some v => pure v
        | none => do
            let n <- sizeFromVariable sizeText
            pure (.int n)
      let off : Value := .bool false
      pure
        { tapeSize := size
          wrapBuffer := (lookup? entries "wrap_buffer").getD off
          binaryInput := (lookup? entries "binary_input").getD off
          rawInput := (lookup? entries "raw_input").getD off
          realtimeInput := (lookup? entries "realtime_input").getD off }

def beq (s t : Settings) : Bool :=
  s.toDict == t.toDict

/-- Whether the settings come back when they are given by name again. -/
def survives (sizeText : Option String) (s : Settings) : Bool :=
  match ofEntries sizeText (s.toEntries.map fun (name, v) => (.text name, v)) with
  | .ok t => s.beq t
  | .error _ => false

end Settings
end TapeMachine
