import TapeMachine.Proofs.Machine.Exchange
import TapeMachine.Proofs.Machine.Ring

/-!
# Cell and pointer arithmetic

Increments and decrements lead to and fro along a cycle of 256 memories.  Moves of
a pointer that goes round do so along a cycle of as many memories as the tape has
cells.  How far a stretch of them leads is its net count, so two stretches with
congruent net counts may be exchanged within any program.
-/

namespace TapeMachine

/-!
## Cycles
-/

/-- The text has no characters but these two. -/
def Over (up down : Char) (w : List Char) : Prop :=
  forall c, c ∈ w -> c = up ∨ c = down

/-- How much more often the first character occurs than the second. -/
def netCount (up down : Char) (w : List Char) : Int :=
  (w.count up : Int) - w.count down

/-- The one character leads on along a cycle of memories, the other leads back. -/
structure Cycle (setup : Setup) (up down : Char) (period : Int) (go : Int -> Memory) : Prop where
  onward : forall k, effect setup up (go k) = .next (go (k + 1))
  back : forall k, effect setup down (go k) = .next (go (k - 1))
  round : forall k l, k % period = l % period -> go k = go l

theorem netCount_up {up down : Char} (hne : up ≠ down) (w : List Char) :
    netCount up down (up :: w) = 1 + netCount up down w := by
  unfold netCount
  rw [List.count_cons_self, List.count_cons_of_ne hne]
  omega

theorem netCount_down {up down : Char} (hne : up ≠ down) (w : List Char) :
    netCount up down (down :: w) = -1 + netCount up down w := by
  unfold netCount
  rw [List.count_cons_self, List.count_cons_of_ne hne.symm]
  omega

/-- A stretch leads as far along the cycle as its net count says. -/
theorem Cycle.leads {setup : Setup} {up down : Char} {period : Int} {go : Int -> Memory}
    (h : Cycle setup up down period go) (hne : up ≠ down) {w : List Char}
    (hw : Over up down w) (k : Int) : Leads setup w (go k) (go (k + netCount up down w)) := by
  induction w generalizing k with
  | nil =>
      rw [netCount, List.count_nil, List.count_nil, Int.sub_self, Int.add_zero]
      exact Leads.nil
  | cons c w ih =>
      have hrest : Over up down w := by
        intro c' hc'
        exact hw c' (List.mem_cons_of_mem c hc')
      rcases hw c List.mem_cons_self with rfl | rfl
      · rw [netCount_up hne, ← Int.add_assoc]
        exact Leads.cons (h.onward k) (ih hrest (k + 1))
      · rw [netCount_down hne, ← Int.add_assoc]
        exact Leads.cons (h.back k) (ih hrest (k - 1))

theorem Over.plain (a b : Action) {w : List Char} (h : Over a.toChar b.toChar w) : Plain w := by
  intro bracket hbracket
  rcases h _ hbracket with hsame | hsame
  · exact a.toChar_ne_bracket bracket hsame.symm
  · exact b.toChar_ne_bracket bracket hsame.symm

theorem Over.isInstruction (a b : Action) {w : List Char} (h : Over a.toChar b.toChar w) :
    forall c, c ∈ w -> isInstruction c = true := by
  intro c hc
  rcases h c hc with rfl | rfl
  · cases a <;> rfl
  · cases b <;> rfl

theorem exchangeable_of_cycle {setup : Setup} {a b : Action} {period : Int} {w w' : List Char}
    (hne : a.toChar ≠ b.toChar)
    (hcycle : forall m : Memory, m.OnTape setup ->
      exists go, Cycle setup a.toChar b.toChar period go ∧ go 0 = m)
    (hw : Over a.toChar b.toChar w) (hw' : Over a.toChar b.toChar w')
    (hnet : netCount a.toChar b.toChar w % period = netCount a.toChar b.toChar w' % period) :
    Exchangeable setup w w' := by
  refine ⟨hw.plain a b, hw'.plain a b, ?_⟩
  intro m hm
  rcases hcycle m hm with ⟨go, hgo, rfl⟩
  -- Both stretches start at the same point of one cycle and end at the same point.
  have hleads := hgo.leads hne hw 0
  have hleads' := hgo.leads hne hw' 0
  rw [Int.zero_add] at hleads hleads'
  rw [← hgo.round _ _ hnet] at hleads'
  exact ⟨go (netCount a.toChar b.toChar w), hleads, hleads'⟩

/-!
## The cell
-/

namespace Tape

theorem write?_write? {t t' : Tape} {p : Int} {u : UInt8} (hleft : 0 ≤ p) (hright : p < t.size)
    (h : t.write? p u = some t') (v : UInt8) : t'.write? p v = t.write? p v := by
  rcases write?_of_inside hleft hright u with ⟨t₁, hwrite₁, hsize₁, hread₁⟩
  rw [h] at hwrite₁
  cases hwrite₁
  have hright' : p < t'.size := by rwa [hsize₁]
  rcases write?_of_inside hleft hright v with ⟨t₂, hwrite₂, hsize₂, hread₂⟩
  rcases write?_of_inside hleft hright' v with ⟨t₃, hwrite₃, hsize₃, hread₃⟩
  rw [hsize₁] at hsize₃ hread₃
  rw [hwrite₂, hwrite₃]
  congr 1
  apply eq_of_read?
  · rw [hsize₂, hsize₃]
  · intro q hq hq'
    rw [hsize₃] at hq'
    rw [hread₃ q hq hq', hread₂ q hq hq', hread₁ q hq hq']
    split <;> rfl

theorem write?_read? {t : Tape} {p : Int} {v : UInt8} (hleft : 0 ≤ p) (hright : p < t.size)
    (h : t.read? p = some v) : t.write? p v = some t := by
  rcases write?_of_inside hleft hright v with ⟨t', hwrite, hsize, hread⟩
  rw [hwrite]
  congr 1
  apply eq_of_read? hsize
  intro q hq hq'
  rw [hsize] at hq'
  rw [hread q hq hq']
  split
  · rename_i hsame
    rw [hsame, h]
  · rfl

end Tape

namespace Memory

theorem OnTape.store?_store? {setup : Setup} {m m' : Memory} {u : UInt8} (h : m.OnTape setup)
    (hstore : m.store? u = some m') (v : UInt8) : m'.store? v = m.store? v := by
  rcases Option.map_eq_some_iff.mp hstore with ⟨t, hwrite, rfl⟩
  unfold Memory.store?
  rw [Tape.write?_write? h.left h.right hwrite v]

theorem OnTape.store?_cell? {setup : Setup} {m : Memory} {v : UInt8} (h : m.OnTape setup)
    (hcell : m.cell? = some v) : m.store? v = some m := by
  unfold Memory.store?
  rw [Tape.write?_read? h.left h.right hcell]
  rfl

end Memory

theorem ofInt_eq_of_emod_eq {k l : Int} (h : k % 256 = l % 256) :
    UInt8.ofInt k = UInt8.ofInt l := by
  change UInt8.ofNat (k % 256).toNat = UInt8.ofNat (l % 256).toNat
  rw [h]

/-- Increments and decrements of a cell go round after 256 of them. -/
theorem cycle_cell {setup : Setup} {m : Memory} (hm : m.OnTape setup) :
    exists go, Cycle setup Action.increment.toChar Action.decrement.toChar 256 go ∧
      go 0 = m := by
  rcases hm.exists_cell? with ⟨v, hv⟩
  rcases Memory.cell?_eq_some_iff.mp hv with ⟨i, hi, _⟩
  have hstored : forall u, m.store? u = some { m with tape := m.tape.set i u } :=
    Memory.store?_of_locate? hi
  -- The memories of the cycle differ in one cell only, and each store there
  -- forgets the stores before it.
  have hagain : forall u u', Memory.store? { m with tape := m.tape.set i u } u' =
      some { m with tape := m.tape.set i u' } := by
    intro u u'
    rw [hm.store?_store? (hstored u), hstored]
  refine ⟨fun k => { m with tape := m.tape.set i (v + UInt8.ofInt k) }, ⟨?_, ?_, ?_⟩, ?_⟩
  · intro k
    rw [UInt8.ofInt_add, UInt8.ofInt_one, ← UInt8.add_assoc]
    exact (Performs.increment (Memory.cell?_of_store? (hstored _)) (hagain _ _)).effect_eq
  · intro k
    rw [Int.sub_eq_add_neg, UInt8.ofInt_add, UInt8.ofInt_neg_one, ← UInt8.add_assoc,
      ← UInt8.sub_eq_add_neg]
    exact (Performs.decrement (Memory.cell?_of_store? (hstored _)) (hagain _ _)).effect_eq
  · intro k l h
    rw [ofInt_eq_of_emod_eq h]
  · have hzero : v + UInt8.ofInt 0 = v := UInt8.add_zero v
    have hsame := hm.store?_cell? hv
    rw [hstored] at hsame
    simp only [hzero]
    exact Option.some.inj hsame

/-!
## The pointer
-/

/-- Moves of a pointer that goes round come back after as many as there are cells. -/
theorem cycle_pointer {setup : Setup} (hwrap : setup.wrap = true) {m : Memory}
    (hm : m.OnTape setup) :
    exists go, Cycle setup Action.right.toChar Action.left.toChar setup.limit go ∧
      go 0 = m := by
  have hon : forall k : Int,
      Memory.OnTape setup { m with pointer := (m.pointer + k) % m.tape.size } := by
    intro k
    rcases m.tape.round_inside (m.pointer + k) with ⟨hleft, hright⟩
    exact ⟨hm.limit, hleft, hright⟩
  refine ⟨fun k => { m with pointer := (m.pointer + k) % m.tape.size }, ⟨?_, ?_, ?_⟩, ?_⟩
  · intro k
    rw [effect_right_of_wrap hwrap (hon k)]
    simp only [Int.emod_add_emod, Int.add_assoc]
  · intro k
    rw [effect_left_of_wrap hwrap (hon k)]
    simp only [Int.emod_sub_emod, Int.add_sub_assoc]
  · intro k l h
    rw [hm.limit] at h
    rw [← Int.add_emod_emod, h, Int.add_emod_emod]
  · simp only [Int.add_zero, Int.emod_eq_of_lt hm.left hm.right]

/-!
## Runs of an interpreter
-/

namespace Interpreter

/-- A stretch of increments and decrements within any program may be exchanged for
one whose net count is congruent modulo 256, and with a pointer that goes round a
stretch of moves for one whose net count is congruent modulo the size of the tape.
The brackets behind the stretch move by the difference of the lengths. -/
theorem run_exchange_arithmetic (allocate : Allocator) (settings : Settings)
    (made : Interpreter) (a b : List Char) (input : Input) (hmade : make allocate settings = .ok made) :
    (forall w w', Over '+' '-' w -> Over '+' '-' w' ->
      netCount '+' '-' w % 256 = netCount '+' '-' w' % 256 ->
      made.RunsAlike (placeAcross (settings.tokens a).size w.length w'.length)
        (a ++ w ++ b) (a ++ w' ++ b) input) ∧
    (settings.wrapBuffer.truthy = true -> forall size, settings.tapeSize = .int size ->
      forall w w', Over '>' '<' w -> Over '>' '<' w' ->
      netCount '>' '<' w % size = netCount '>' '<' w' % size ->
      made.RunsAlike (placeAcross (settings.tokens a).size w.length w'.length)
        (a ++ w ++ b) (a ++ w' ++ b) input) := by
  rcases setup?_of_make hmade with ⟨setup, hsetup, hlimit, hwrap⟩
  have hstart := start_onTape hmade hlimit input
  have hsettings := settings_of_make hmade
  rw [← hsettings]
  constructor
  · intro w w' hw hw' hnet
    have hexchange : Exchangeable setup w w' :=
      exchangeable_of_cycle (a := .increment) (b := .decrement) (by decide)
        (fun m hm => cycle_cell hm) hw hw' hnet
    exact runsAlike_of_exchangeable hsetup hstart hexchange
      (hw.isInstruction .increment .decrement) (hw'.isInstruction .increment .decrement) a b
  · intro hround size hsize w w' hw hw' hnet
    have hperiod : size = setup.limit := by
      rw [hsettings, (of_make hmade).2] at hsize
      rw [hlimit]
      exact (Value.int.inj hsize).symm
    rw [hsettings, ← hwrap] at hround
    rw [hperiod] at hnet
    have hexchange : Exchangeable setup w w' :=
      exchangeable_of_cycle (a := .right) (b := .left) (by decide)
        (fun m hm => cycle_pointer hround hm) hw hw' hnet
    exact runsAlike_of_exchangeable hsetup hstart hexchange
      (hw.isInstruction .right .left) (hw'.isInstruction .right .left) a b

/-- One decrement is as good as 255 increments, and one move to the left as two to
the right on a tape of three cells, before a closing bracket without a partner. -/
theorem run_exchange_arithmetic_three :
    let settings : Settings := { tapeSize := .int 3, wrapBuffer := .bool true }
    let made : Interpreter := { settings := settings, tape := Tape.blank 2 }
    let a := "a+[".toList
    let b := ".]]".toList
    let input := Input.ofString ""
    make (fun _ => none) settings = .ok made ∧ settings.wrapBuffer.truthy = true ∧
      made.RunsAlike (placeAcross 2 1 255) (a ++ ['-'] ++ b)
        (a ++ List.replicate 255 '+' ++ b) input ∧
      made.RunsAlike (placeAcross 2 1 2) (a ++ ['<'] ++ b) (a ++ ['>', '>'] ++ b) input := by
  intro settings made a b input
  have hmade : make (fun _ => none) settings = .ok made := rfl
  have hround : settings.wrapBuffer.truthy = true := by decide
  rcases run_exchange_arithmetic _ settings made a b input hmade with ⟨hcell, hpointer⟩
  have hdown : Over '+' '-' ['-'] := fun c hc => Or.inr (List.mem_singleton.mp hc)
  have hup : Over '+' '-' (List.replicate 255 '+') :=
    fun c hc => Or.inl (List.eq_of_mem_replicate hc)
  have hnet : netCount '+' '-' ['-'] % 256 = netCount '+' '-' (List.replicate 255 '+') % 256 := by
    rw [netCount, netCount, List.count_replicate, List.count_replicate]
    decide
  have hleft : Over '>' '<' ['<'] := fun c hc => Or.inr (List.mem_singleton.mp hc)
  have hright : Over '>' '<' ['>', '>'] :=
    fun c hc => Or.inl (List.eq_of_mem_replicate (n := 2) hc)
  have hcells := hcell _ _ hdown hup hnet
  rw [List.length_replicate] at hcells
  exact ⟨hmade, hround, hcells, hpointer hround 3 rfl _ _ hleft hright (by decide)⟩

end Interpreter

end TapeMachine
