import TapeMachine.Calendar
import TapeMachine.Number.DecimalText
import TapeMachine.Text.Points

/-!
# Setting values

The value of a setting can be any value that an options document can hold.  It
is kept as it was given; what matters to the machine is whether it counts as
true and, for the size of the tape, whether it is an integer.
-/

namespace TapeMachine

/-- A value of an options document.  Mappings keep their entries in the order
in which their keys were first met. -/
inductive Value where
  | null
  | bool (b : Bool)
  | int (n : Int)
  | float (x : Number.Binary64)
  | text (s : String)
  /-- A text with surrogates in it. -/
  | broken (t : Text.Broken)
  | list (items : List Value)
  | pairs (entries : List (Value × Value))
  | dict (entries : List (Value × Value))
  | date (year month day : Nat)
  | moment (m : Moment)
  | bytes (content : List UInt8)
  | set (items : List Value)
  /-- A mapping or a list within itself. -/
  | endless (mapping : Bool)
  deriving Inhabited

namespace Value

/-- Whether a value counts as true: everything does except null, false, the
zeros and whatever is empty. -/
def truthy : Value -> Bool
  | null => false
  | bool b => b
  | int n => n != 0
  | float x => !x.isZero
  | text s => !s.isEmpty
  | list items => !items.isEmpty
  | pairs entries => !entries.isEmpty
  | dict entries => !entries.isEmpty
  | bytes content => !content.isEmpty
  | set items => !items.isEmpty
  | _ => true

def kind : Value -> String
  | null => "NoneType"
  | bool _ => "bool"
  | int _ => "int"
  | float _ => "float"
  | text _ => "str"
  | broken _ => "str"
  | list _ => "list"
  | pairs _ => "list"
  | dict _ => "dict"
  | date _ _ _ => "datetime.date"
  | moment _ => "datetime.datetime"
  | bytes _ => "bytes"
  | set _ => "set"
  | endless mapping => if mapping then "dict" else "list"

/-!
## Equality
-/

mutual

/-- Whether two values have the same kind and the same content. -/
def beq : Value -> Value -> Bool
  | null, null => true
  | bool a, bool b => a == b
  | int a, int b => a == b
  | float a, float b => a == b
  | text a, text b => a == b
  | broken a, broken b => a == b
  | list a, list b => beqItems a b
  | pairs a, pairs b => beqEntries a b
  | dict a, dict b => beqEntries a b
  | date y m d, date y' m' d' => y == y' && m == m' && d == d'
  | moment m, moment m' => m.same m'
  | bytes a, bytes b => a == b
  | set a, set b => beqItems a b
  | endless a, endless b => a == b
  | _, _ => false

def beqItems : List Value -> List Value -> Bool
  | [], [] => true
  | a :: as, b :: bs => beq a b && beqItems as bs
  | _, _ => false

def beqEntries : List (Value × Value) -> List (Value × Value) -> Bool
  | [], [] => true
  | (a, b) :: as, (a', b') :: bs => beq a a' && beq b b' && beqEntries as bs
  | _, _ => false

end

instance : BEq Value :=
  ⟨beq⟩

/-!
## Written form
-/

mutual

def write : Value -> String
  | null => "None"
  | bool b => if b then "True" else "False"
  | int n => toString n
  | float x => x.write
  | text s => Text.quote s
  | broken t => Text.quotePoints t.points
  | list items => "[" ++ writeItems items ++ "]"
  | pairs entries => "[" ++ writePairs entries ++ "]"
  | dict entries => "\x7b" ++ writeEntries entries ++ "\x7d"
  | date year month day =>
      "datetime.date(" ++ toString year ++ ", " ++ toString month ++ ", " ++ toString day ++ ")"
  | moment m => m.write
  | bytes content => Text.quoteBytes content
  | set items => if items.isEmpty then "set()" else "\x7b" ++ writeItems items ++ "\x7d"
  | endless mapping => if mapping then "\x7b...\x7d" else "[...]"

def writeItems : List Value -> String
  | [] => ""
  | [v] => write v
  | v :: rest => write v ++ ", " ++ writeItems rest

def writeEntries : List (Value × Value) -> String
  | [] => ""
  | [(k, v)] => write k ++ ": " ++ write v
  | (k, v) :: rest => write k ++ ": " ++ write v ++ ", " ++ writeEntries rest

def writePairs : List (Value × Value) -> String
  | [] => ""
  | [(k, v)] => "(" ++ write k ++ ", " ++ write v ++ ")"
  | (k, v) :: rest => "(" ++ write k ++ ", " ++ write v ++ "), " ++ writePairs rest

end

mutual

/-- Whether a value has a written form: no integer in it may have more digits than an
integer that is read. -/
def isWritable : Value -> Bool
  | int n => decide (n.natAbs < 10 ^ Number.maxDigits)
  | list items => areWritable items
  | set items => areWritable items
  | pairs entries => haveWritable entries
  | dict entries => haveWritable entries
  | _ => true

def areWritable : List Value -> Bool
  | [] => true
  | v :: rest => isWritable v && areWritable rest

def haveWritable : List (Value × Value) -> Bool
  | [] => true
  | (k, v) :: rest => isWritable k && isWritable v && haveWritable rest

end

/-!
## Integers
-/

inductive IntegerFailure where
  /-- The value is no number and no text that spells one. -/
  | unreadable
  | infinite
  deriving DecidableEq, Repr

/-- The integer that a value stands for: numbers lose their fraction, and texts
are read. -/
def toInt : Value -> Except IntegerFailure Int
  | bool b => .ok (if b then 1 else 0)
  | int n => .ok n
  | float (.finite negative m e) => .ok (Number.Binary64.truncate negative m e)
  | float (.infinite _) => .error .infinite
  | text s =>
      match Number.readInt? s.toList with
      | some n => .ok n
      | none => .error .unreadable
  | bytes content =>
      match Number.readInt? (content.map fun b => Char.ofNat b.toNat) with
      | some n => .ok n
      | none => .error .unreadable
  | _ => .error .unreadable

/-- The integer that a value is; truth values count as zero and one. -/
def asInt? : Value -> Option Int
  | bool b => some (if b then 1 else 0)
  | int n => some n
  | _ => none

/-!
## Keys
-/

def isKey : Value -> Bool
  | list _ => false
  | pairs _ => false
  | dict _ => false
  | set _ => false
  | endless _ => false
  | _ => true

/-- Whether two keys name the same entry: numbers are compared by value,
whatever their kind. -/
def sameKey : Value -> Value -> Bool
  | float x, float y => x.equals y
  | float x, k =>
      match k.asInt? with
      | some n => x.equalsInt n
      | none => false
  | k, float x =>
      match k.asInt? with
      | some n => x.equalsInt n
      | none => false
  | a, b =>
      match a.asInt?, b.asInt? with
      | some m, some n => m == n
      | none, none => a == b
      | _, _ => false

def points? : Value -> Option (List Nat)
  | text s => some (Text.points s)
  | broken t => some t.points
  | _ => none

def isNumber : Value -> Bool
  | bool _ => true
  | int _ => true
  | float _ => true
  | _ => false

/-- Whether two keys have an order: they are numbers, or of one kind, and of two moments
both or none must name their offset. -/
def isComparable : Value -> Value -> Bool
  | moment m, moment m' => m.hasOffset == m'.hasOffset
  | a, b => (a.isNumber && b.isNumber) || a.kind == b.kind

/-- Puts an entry into a mapping: the value of a known key is replaced in
place, and a new key goes to the end. -/
def insertEntry (key value : Value) : List (Value × Value) -> List (Value × Value)
  | [] => [(key, value)]
  | (k, v) :: rest =>
      if k.sameKey key then (k, value) :: rest else (k, v) :: insertEntry key value rest

end Value
end TapeMachine
