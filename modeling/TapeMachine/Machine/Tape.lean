/-!
# Tapes

A tape is a row of at least one cell, each of which holds a byte.  A position
counts from the left end when it is not negative and from the right end
otherwise, so `-1` is the last cell; a position that reaches beyond either end
has no cell.
-/

namespace TapeMachine

structure Tape where
  cells : Array UInt8
  size_pos : 0 < cells.size

namespace Tape

def size (t : Tape) : Nat :=
  t.cells.size

/-- The tape of `n + 1` zeros. -/
def blank (n : Nat) : Tape :=
  ⟨Array.replicate (n + 1) 0, by simp⟩

/-- The cell of a position, counted from the left end. -/
def locate? (t : Tape) (p : Int) : Option (Fin t.cells.size) :=
  if h : 0 <= p ∧ p < t.cells.size then
    some ⟨p.toNat, by omega⟩
  else if h : -(t.cells.size : Int) <= p ∧ p < 0 then
    some ⟨(p + t.cells.size).toNat, by omega⟩
  else
    none

def get (t : Tape) (i : Fin t.cells.size) : UInt8 :=
  t.cells[i]

def set (t : Tape) (i : Fin t.cells.size) (v : UInt8) : Tape :=
  ⟨t.cells.set i v, by simpa using t.size_pos⟩

def read? (t : Tape) (p : Int) : Option UInt8 :=
  (t.locate? p).map t.get

def write? (t : Tape) (p : Int) (v : UInt8) : Option Tape :=
  (t.locate? p).map fun i => t.set i v

def clear (t : Tape) : Tape :=
  ⟨Array.replicate t.cells.size 0, by simpa using t.size_pos⟩

def nonzero (t : Tape) : List (Nat × UInt8) :=
  (t.cells.foldl
    (fun (i, found) v => (i + 1, if v == 0 then found else (i, v) :: found))
    ((0 : Nat), ([] : List (Nat × UInt8)))).2.reverse

theorem size_blank (n : Nat) : (blank n).size = n + 1 := by
  simp [blank, size]

theorem size_set (t : Tape) (i : Fin t.cells.size) (v : UInt8) : (t.set i v).size = t.size := by
  simp [set, size]

theorem size_clear (t : Tape) : t.clear.size = t.size := by
  simp [clear, size]

end Tape
end TapeMachine
