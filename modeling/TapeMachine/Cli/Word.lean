import TapeMachine.Cli.Switch
import TapeMachine.Text.Digit

/-!
# Words of the command line

Before anything is acted on, every argument is sorted into operands and
switches.  A long name may be abbreviated as long as it is unique, a switch may
carry text of its own behind an equals sign or behind its letter, and a dash
that starts a negative number or a text with spaces makes no switch.  Behind
the first `--` there are only operands.
-/

namespace TapeMachine
namespace Cli

inductive Word where
  | operand (text : String)
  /-- The first `--`. -/
  | divider
  | switch (s : Switch) (byLetter : Bool) (own : Option String)
  /-- Something like a switch that is none. -/
  | unknown (text : String)
  deriving DecidableEq, Repr

/-- Splits an argument at its first equals sign. -/
def cutEquals (arg : List Char) : List Char × Option (List Char) :=
  match arg.dropWhile (· != '=') with
  | [] => (arg, none)
  | _ :: own => (arg.takeWhile (· != '='), some own)

/-- Whether an argument is spelled like a negative number: a dash, then digits,
or digits around a point; a line feed at its end does not count. -/
def isNegativeNumber (arg : List Char) : Bool :=
  let arg := if arg.getLast? == some '\n' then arg.dropLast else arg
  match arg with
  | '-' :: body =>
      let whole := body.takeWhile Text.isDigit
      match body.drop whole.length with
      | [] => !whole.isEmpty
      | '.' :: fraction => !fraction.isEmpty && fraction.all Text.isDigit
      | _ => false
  | _ => false

/-- Sorts an argument that starts with a dash and is no full name. -/
def Word.ofPartial (arg : String) : Except String Word :=
  let (name, own) := cutEquals arg.toList
  let own := own.map String.ofList
  let rest : Word :=
    if isNegativeNumber arg.toList || arg.toList.contains ' ' then .operand arg
    else .unknown arg
  match arg.toList with
  | '-' :: '-' :: _ =>
      match Switch.abbreviated (String.ofList name) with
      | [] => .ok rest
      | [s] => .ok (.switch s false own)
      | several =>
          .error ("ambiguous option: " ++ arg ++ " could match " ++
            ", ".intercalate (several.map Switch.long))
  | '-' :: c :: text =>
      match Switch.ofLetter? c with
      | some s => .ok (.switch s true (some (String.ofList text)))
      | none => .ok rest
  | _ => .ok (.operand arg)

def isShortName (name : String) : Bool :=
  name.length == 2

/-- Sorts an argument in front of the first `--`. -/
def Word.ofArgument (arg : String) : Except String Word :=
  if arg.toList.head? != some '-' then
    .ok (.operand arg)
  else
    match Switch.ofName? arg with
    | some s => .ok (.switch s (isShortName arg) none)
    | none =>
        let (name, own) := cutEquals arg.toList
        let name := String.ofList name
        match Switch.ofName? name, own with
        | some s, some own => .ok (.switch s (isShortName name) (some (String.ofList own)))
        | _, _ => Word.ofPartial arg

/-- Sorts all arguments; the failure is the complaint about the first ambiguous
one. -/
def Word.ofArguments : List String -> Except String (List Word)
  | [] => .ok []
  | arg :: rest =>
      if arg == "--" then
        .ok (.divider :: rest.map .operand)
      else do
        let word <- Word.ofArgument arg
        let words <- Word.ofArguments rest
        pure (word :: words)

end Cli
end TapeMachine
