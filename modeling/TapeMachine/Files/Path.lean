import TapeMachine.Text.Blank

/-!
# Paths

A path is written with slashes.  Its canonical form has no doubled or trailing
slash and no `.` component; `..` is kept, since what it means depends on the
directories it passes.  Exactly two leading slashes are a root of their own.
-/

namespace TapeMachine

structure Path where
  /-- The leading slashes: none, one or two. -/
  root : String
  parts : List String
  deriving DecidableEq, Repr, Inhabited

namespace Path

/-- The components of a written path, without empty ones and `.`. -/
def components (s : String) : List String :=
  ((Text.splitAt '/' s.toList).map String.ofList).filter fun part => part != "" && part != "."

/-- The leading slashes that a written path keeps. -/
def rootOf (s : String) : String :=
  match s.toList with
  | '/' :: '/' :: '/' :: _ => "/"
  | '/' :: '/' :: _ => "//"
  | '/' :: _ => "/"
  | _ => ""

def ofString (s : String) : Path :=
  { root := rootOf s, parts := components s }

def isAbsolute (p : Path) : Bool :=
  p.root != ""

/-- The canonical written form; the path without components is `.`. -/
def toString (p : Path) : String :=
  if p.root == "" && p.parts.isEmpty then "." else p.root ++ "/".intercalate p.parts

def hasNull (p : Path) : Bool :=
  p.parts.any fun part => part.toList.contains '\x00'

/-- Removes every `..` together with the component before it, without looking
at any directory. -/
def collapse (above : List String) : List String -> List String
  | [] => above.reverse
  | part :: rest =>
      if part == ".." then collapse above.tail rest else collapse (part :: above) rest

end Path
end TapeMachine
