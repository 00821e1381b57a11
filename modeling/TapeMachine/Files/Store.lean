import TapeMachine.Files.Path
import TapeMachine.Text.Newline
import TapeMachine.Text.Quoted
import TapeMachine.Text.Utf8

/-!
# Files

A store holds the files that a program can see, each under the components of
its path from the root, and knows the working directory.  A directory exists
when it was made or when something lies below it.  Whatever stands at a path, the
system may refuse to let the program use it.
-/

namespace TapeMachine
namespace Files

inductive Entry where
  | file (content : List UInt8)
  | directory
  deriving DecidableEq, Repr

inductive Cause where
  | missing
  | isDirectory
  | notDirectory
  /-- Any other cause, such as a missing permission. -/
  | other (number : Nat) (words : String)
  deriving DecidableEq, Repr

namespace Cause

def number : Cause -> Nat
  | missing => 2
  | isDirectory => 21
  | notDirectory => 20
  | other n _ => n

def words : Cause -> String
  | missing => "No such file or directory"
  | isDirectory => "Is a directory"
  | notDirectory => "Not a directory"
  | other _ words => words

/-- Whether a cause only says that nothing stands at a path.  The numbers are those of a
bad descriptor and of a chain of links without an end. -/
def saysAbsent : Cause -> Bool
  | missing => true
  | isDirectory => false
  | notDirectory => true
  | other n _ => n == 9 || n == 40

end Cause

structure Failure where
  cause : Cause
  path : String
  deriving DecidableEq, Repr

def Failure.message (f : Failure) : String :=
  "[Errno " ++ toString f.cause.number ++ "] " ++ f.cause.words ++ ": " ++ Text.quote f.path

/-- What a program wants of a path. -/
inductive Use where
  | look
  | read
  | write
  deriving DecidableEq, Repr

/-- Files and directories by the components of their paths from the root. -/
structure Store where
  entries : List (List String × Entry) := []
  /-- The working directory, from which relative paths start. -/
  directory : List String := []
  /-- Which uses the system refuses, and why. -/
  refusal : Use -> Path -> Option Cause := fun _ _ => none
  deriving Inhabited

namespace Store

/-- What stands at a place. -/
def at? (store : Store) (parts : List String) : Option Entry :=
  match store.entries.lookup parts with
  | some entry => some entry
  | none =>
      if parts.isPrefixOf store.directory ||
          store.entries.any fun (other, _) => parts.isPrefixOf other then
        some .directory
      else
        none

/-- Follows components from a place; every place that is passed must be a
directory, and nothing lies above the root. -/
def walk (store : Store) (place : List String) : List String -> Except Cause (List String)
  | [] => .ok place
  | part :: rest =>
      match store.at? place with
      | some .directory =>
          walk store (if part == ".." then place.dropLast else place ++ [part]) rest
      | some (.file _) => .error .notDirectory
      | none => .error .missing

/-- The place that a path leads to; what stands there is not looked at. -/
def locate (store : Store) (p : Path) : Except Cause (List String) :=
  store.walk (if p.isAbsolute then [] else store.directory) p.parts

/-- Fails if the system refuses a use of a path. -/
def allow (store : Store) (use : Use) (p : Path) : Except Cause Unit :=
  match store.refusal use p with
  | some cause => .error cause
  | none => .ok ()

def find (store : Store) (p : Path) : Except Cause Entry := do
  store.allow .look p
  let place <- store.locate p
  match store.at? place with
  | some entry => .ok entry
  | none => .error .missing

/-- Whether a path leads to something.  A look that is refused answers the question only
if the cause says so. -/
def contains (store : Store) (p : Path) : Except Failure Bool :=
  if p.hasNull then
    .ok false
  else
    match store.find p with
    | .ok _ => .ok true
    | .error cause => if cause.saysAbsent then .ok false else .error ⟨cause, p.toString⟩

def read (store : Store) (p : Path) : Except Failure (List UInt8) :=
  match store.find p with
  | .ok (.file content) =>
      match store.allow .read p with
      | .ok () => .ok content
      | .error cause => .error ⟨cause, p.toString⟩
  | .ok .directory => .error ⟨.isDirectory, p.toString⟩
  | .error cause => .error ⟨cause, p.toString⟩

def put (store : Store) (parts : List String) (entry : Entry) : Store :=
  { store with
    entries := (parts, entry) :: store.entries.filter fun (other, _) => other != parts }

/-- The absolute form of a path: every `..` is removed together with the
component before it, without looking at any directory. -/
def absolute (store : Store) (p : Path) : Path :=
  let parts := if p.isAbsolute then p.parts else store.directory ++ p.parts
  { root := if p.isAbsolute then p.root else "/", parts := Path.collapse [] parts }

/-- Finds where a file can be written: its directory must exist, no directory may stand
in its place, and the system must allow it. -/
def writable (store : Store) (p : Path) : Except Failure (List String) :=
  match store.locate p with
  | .error cause => .error ⟨cause, p.toString⟩
  | .ok place =>
      match store.at? place, store.allow .write p with
      | some .directory, _ => .error ⟨.isDirectory, p.toString⟩
      | _, .ok () => .ok place
      | _, .error cause => .error ⟨cause, p.toString⟩

/-- Reads bytes as text: UTF-8 with every line end as a line feed. -/
def textOf? (content : List UInt8) : Option (List Char) :=
  (Text.decode? content).map Text.unifyNewlines

end Store
end Files
end TapeMachine
