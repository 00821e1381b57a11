import TapeMachine.Files.Store
import TapeMachine.Text.Base64
import TapeMachine.Value
import TapeMachine.Yaml.Node

/-!
# From nodes to values

The tag of a node says what value it stands for.  In a mapping a later entry
replaces an earlier one with the same key, and the entries of a merged mapping
come before all of its own.
-/

namespace TapeMachine
namespace Yaml

/-!
## Scalars
-/

def sexagesimalInt? (s : List Char) : Option Int := do
  let parts <- (Text.splitAt ':' s).mapM Number.readInt?
  pure (parts.foldl (fun n part => n * 60 + part) 0)

def unsignedInt (s : List Char) : Except Error Int :=
  let read? : Option Int :=
    match s with
    | '0' :: 'b' :: rest => Number.readBase? 2 rest
    | '0' :: 'x' :: rest => Number.readBase? 16 rest
    | '0' :: _ => Number.readBase? 8 s
    | _ => if s.contains ':' then sexagesimalInt? s else Number.readInt? s
  match s, read? with
  | [], _ => .error .noDigits
  | _, some n => .ok n
  | _, none => .error (.notSpelled (String.ofList s))

/-- The integer that a scalar spells; underscores have no meaning. -/
def intOf (s : List Char) : Except Error Value := do
  let body := s.filter (· != '_')
  let n <- unsignedInt (dropSign body)
  pure (.int (if body.head? == some '-' then -n else n))

/-- The number that a text spells in base sixty; each part is weighed by a power
of sixty and added to those behind it. -/
def sexagesimalFloat? (s : List Char) : Option Number.Binary64 := do
  let parts <- (Text.splitAt ':' s).mapM Number.Binary64.read?
  let (sum, _) := parts.reverse.foldl
    (fun (sum, weight) part => (sum.addMagnitudes (part.mulNat weight), weight * 60))
    (Number.Binary64.zero false, 1)
  pure sum

/-- The floating point number that a scalar spells; underscores and case have no
meaning. -/
def floatOf (s : List Char) : Except Error Value := do
  let all := (s.filter (· != '_')).map Char.toLower
  let body := dropSign all
  let negative := all.head? == some '-'
  let read? : Option Number.Binary64 :=
    if body == ['.', 'i', 'n', 'f'] then some (.infinite false)
    else if body == ['.', 'n', 'a', 'n'] then some .nan
    else if body.contains ':' then sexagesimalFloat? body
    else Number.Binary64.read? body
  match all, read? with
  | [], _ => .error .noDigits
  | _, some x => .ok (.float (if negative then x.negate else x))
  | _, none => .error (.notSpelled (String.ofList s))

/-- The truth value that a scalar names, in any case. -/
def boolOf (s : List Char) : Except Error Value :=
  let word := String.ofList (s.map Char.toLower)
  if trueWords.contains word then .ok (.bool true)
  else if falseWords.contains word then .ok (.bool false)
  else .error (.notTruth word)

def dateOf (s : List Char) : Except Error Value :=
  match Stamp.read? s with
  | none => .error (.notDated (String.ofList s))
  | some (.date year month day) =>
      if Calendar.hasDate year month day then .ok (.date year month day)
      else .error (.notSpelled (String.ofList s))
  | some (.moment m) =>
      if m.isValid then .ok (.moment m) else .error (.notSpelled (String.ofList s))

def bytesOf (s : List Char) : Except Error Value :=
  match s.all fun c => c.toNat < 0x80, Text.base64? s with
  | true, some content => .ok (.bytes content)
  | _, _ => .error (.malformed "bytes are not spelled in base 64")

def textOf (points : List Nat) : Value :=
  if h : points.any Text.isSurrogate = true then .broken ⟨points, h⟩
  else .text (String.ofList (points.map Char.ofNat))

/-- The characters of code points; in the place of a surrogate stands one that no number,
date or word is spelled with. -/
def spelling (points : List Nat) : List Char :=
  points.map fun n => if Text.isSurrogate n then '\ufffd' else Char.ofNat n

def scalarValue (tag : Tag) (points : List Nat) : Except Error Value :=
  match tag with
  | .null => .ok .null
  | .bool => boolOf (spelling points)
  | .int => intOf (spelling points)
  | .float => floatOf (spelling points)
  | .timestamp => dateOf (spelling points)
  | .text => .ok (textOf points)
  | .binary => bytesOf (spelling points)
  | _ => .error (.malformed "a scalar has no value of its tag")

/-!
## Collections
-/

/-- The mapping of a list of entries; a later entry replaces an earlier one with
the same key. -/
def mappingOf (entries : List (Value × Value)) : List (Value × Value) :=
  entries.foldl (fun es (k, v) => Value.insertEntry k v es) []

def entriesValue (tag : Tag) (entries : List (Value × Value)) : Except Error Value :=
  match tag with
  | .mapping => .ok (.dict (mappingOf entries))
  | .set => .ok (.set ((mappingOf entries).map fun (k, _) => k))
  | _ => .error (.malformed "a mapping has no value of its tag")

mutual

/-- The text of a scalar, or of the entry of a mapping that stands for its own value. -/
def ownPoints? : Node -> Option (List Nat)
  | .scalar _ points => some points
  | .mapping _ entries => defaultPoints? entries
  | _ => none

def defaultPoints? : List (Node × Node) -> Option (List Nat)
  | [] => none
  | (k, v) :: rest => if k.tag = .default then ownPoints? v else defaultPoints? rest

end

/-- The key that the mark for a mapping's own value is. -/
def defaultKey : Node -> Except Error Value
  | .scalar _ points => .ok (textOf points)
  | _ => .error (.malformed "a collection cannot be a key")

mutual

def Node.value : Node -> Except Error Value
  | .scalar tag points => scalarValue tag points
  | .again mapping => .ok (.endless mapping)
  | .sequence tag items =>
      if tag = .orderedPairs || tag = .pairs then do
        let entries <- pairValues items
        pure (.pairs entries)
      else do
        let values <- itemValues items
        if tag = .sequence then pure (.list values)
        else .error (.malformed "a sequence has no value of its tag")
  | .mapping tag entries =>
      if tag.isScalar then
        match defaultPoints? entries with
        | some points => scalarValue tag points
        | none => .error (.malformed "a mapping has no value of its own")
      else do
        let (merged, own) <- entryValues entries
        entriesValue tag (merged ++ own)

def itemValues : List Node -> Except Error (List Value)
  | [] => .ok []
  | n :: rest => do
      let v <- n.value
      let vs <- itemValues rest
      pure (v :: vs)

/-- The pairs of a sequence of mappings of one entry each. -/
def pairValues : List Node -> Except Error (List (Value × Value))
  | [] => .ok []
  | .mapping _ [(k, v)] :: rest => do
      let key <- k.value
      let value <- v.value
      let more <- pairValues rest
      pure ((key, value) :: more)
  | _ :: _ => .error (.malformed "a pair is a mapping of one entry")

/-- The entries that a mapping merges and the entries of its own.  The mark for a
mapping's own value is an ordinary key. -/
def entryValues : List (Node × Node) ->
    Except Error (List (Value × Value) × List (Value × Value))
  | [] => .ok ([], [])
  | (k, v) :: rest => do
      if k.tag = .merge then
        let first <- mergedValues v
        let (merged, own) <- entryValues rest
        pure (first ++ merged, own)
      else
        let key <- if k.tag = .default then defaultKey k else k.value
        if key.isKey then
          let value <- v.value
          let (merged, own) <- entryValues rest
          pure (merged, (key, value) :: own)
        else
          .error (.malformed "a collection cannot be a key")

/-- The entries of a mapping, or of the mappings of a sequence with the last one
first. -/
def mergedValues : Node -> Except Error (List (Value × Value))
  | .scalar _ _ => .error (.malformed "a scalar cannot be merged")
  | .again _ => .error (.malformed "a mapping cannot be merged into itself")
  | .mapping _ entries => do
      let (merged, own) <- entryValues entries
      pure (merged ++ own)
  | .sequence _ items => mergedItems items

/-- The entries of several mappings, those of the last one first. -/
def mergedItems : List Node -> Except Error (List (Value × Value))
  | [] => .ok []
  | .mapping _ entries :: rest => do
      let (merged, own) <- entryValues entries
      let more <- mergedItems rest
      pure (more ++ merged ++ own)
  | _ :: _ => .error (.malformed "only mappings can be merged")

end

/-- The value of the only document in a text; the value of no document is
null. -/
def loadText (s : List Char) : Except Error Value := do
  match <- Node.ofChars? s with
  | some n => n.value
  | none => pure .null

def load (content : List UInt8) : Except Error Value :=
  match Files.Store.textOf? content with
  | some text => loadText text
  | none => .error .undecodable

end Yaml
end TapeMachine
