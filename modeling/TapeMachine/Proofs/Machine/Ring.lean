import TapeMachine.Proofs.Machine.Lockstep

/-!
# The tape as a ring

Where the pointer goes round, no cell of the tape is the first and none is the
last.  When the tape is rotated and the pointer with it, a program does the same
as before, and what it leaves is what it left before, rotated.  The two machines
are in lockstep although they go round at different moments.
-/

namespace TapeMachine

/-!
## Rotated tapes
-/

/-- Going on by `k` from `p` leads round to `i` exactly when going back by `k`
from `i` leads round to `p`. -/
theorem round_eq_iff {p i k size : Int} (hp : 0 ≤ p) (hp' : p < size) (hi : 0 ≤ i)
    (hi' : i < size) : (p + k) % size = i <-> (i - k) % size = p := by
  constructor
  · intro h
    rw [← h, Int.emod_sub_emod, Int.add_sub_cancel, Int.emod_eq_of_lt hp hp']
  · intro h
    rw [← h, Int.emod_add_emod, Int.sub_add_cancel, Int.emod_eq_of_lt hi hi']

namespace Tape

theorem round_inside (t : Tape) (p : Int) : 0 ≤ p % t.size ∧ p % t.size < t.size := by
  have hsize : (0 : Int) < t.size := Int.natCast_pos.mpr t.size_pos
  exact ⟨Int.emod_nonneg p (Int.ne_of_gt hsize), Int.emod_lt_of_pos p hsize⟩

/-- The cell at a position counted round the tape. -/
def around (t : Tape) (p : Int) : Fin t.cells.size :=
  ⟨(p % t.cells.size).toNat, (Int.toNat_lt (t.round_inside p).1).mpr (t.round_inside p).2⟩

/-- The tape with every cell moved by `k` to the right, round its end. -/
def rotate (k : Int) (t : Tape) : Tape :=
  ⟨Array.ofFn fun i : Fin t.cells.size => t.get (t.around (i - k)), by simpa using t.size_pos⟩

example : (rotate 1 ⟨#[1, 2, 3, 4], by decide⟩).cells = #[4, 1, 2, 3] := by decide

theorem size_rotate (k : Int) (t : Tape) : (t.rotate k).size = t.size := by
  simp [rotate, size]

/-- A cell of the rotated tape is the one `k` cells to its left, round the start. -/
theorem read?_rotate (k : Int) {t : Tape} {q : Int} (hleft : 0 ≤ q) (hright : q < t.size) :
    (t.rotate k).read? q = t.read? ((q - k) % t.size) := by
  rcases t.round_inside (q - k) with ⟨hleft', hright'⟩
  have hinside : q.toNat < t.cells.size := (Int.toNat_lt hleft).mpr hright
  have hsource : ((q - k) % t.size).toNat < t.cells.size := (Int.toNat_lt hleft').mpr hright'
  rw [read?_of_inside hleft (by rwa [size_rotate]), read?_of_inside hleft' hright', rotate,
    Array.getElem?_ofFn, dif_pos hinside, Array.getElem?_eq_getElem hsource]
  simp only [get, around, Int.toNat_of_nonneg hleft]
  rfl

theorem write?_rotate (k : Int) {t : Tape} {p : Int} (hleft : 0 ≤ p) (hright : p < t.size)
    (v : UInt8) :
    (t.rotate k).write? ((p + k) % t.size) v = (t.write? p v).map (rotate k) := by
  rcases t.round_inside (p + k) with ⟨hleft', hright'⟩
  have hinside : (p + k) % t.size < (t.rotate k).size := by rwa [size_rotate]
  rcases write?_of_inside hleft hright v with ⟨t₁, hwrite, hsize, hread⟩
  rcases write?_of_inside hleft' hinside v with ⟨t₂, hwrite', hsize', hread'⟩
  rw [size_rotate] at hsize' hread'
  rw [hwrite, hwrite', Option.map_some]
  congr 1
  apply eq_of_read?
  · rw [size_rotate, hsize, hsize']
  · intro q hq hq'
    rw [hsize'] at hq'
    rcases t.round_inside (q - k) with ⟨hback, hback'⟩
    have hq₁ : q < t₁.size := by rwa [hsize]
    rw [hread' q hq hq', read?_rotate k hq hq', read?_rotate k hq hq₁, hsize,
      hread _ hback hback']
    -- The stored cell is the one whose source was stored in.
    have hsame : q = (p + k) % t.size <-> (q - k) % t.size = p := by
      rw [eq_comm]
      exact round_eq_iff hleft hright hq hq'
    simp only [hsame]

end Tape

/-!
## Going round

On a tape whose size is the limit, a move is a step round the ring wherever the
pointer stands.
-/

theorem effect_left_of_wrap {setup : Setup} {m : Memory} (hwrap : setup.wrap = true)
    (h : m.OnTape setup) :
    effect setup Action.left.toChar m =
      .next { m with pointer := (m.pointer - 1) % m.tape.size } := by
  have hlimit := h.limit
  have hleft := h.left
  have hright := h.right
  by_cases hpos : 0 < m.pointer
  · have hround : (m.pointer - 1) % m.tape.size = m.pointer - 1 :=
      Int.emod_eq_of_lt (by omega) (by omega)
    rw [(Performs.left hpos).effect_eq, hround]
  · have hround : (m.pointer - 1) % m.tape.size = setup.limit - 1 := by
      rw [← Int.add_emod_right, Int.emod_eq_of_lt (by omega) (by omega)]
      omega
    rw [(Performs.leftRound (Int.not_lt.mp hpos) hwrap).effect_eq, hround]

theorem effect_right_of_wrap {setup : Setup} {m : Memory} (hwrap : setup.wrap = true)
    (h : m.OnTape setup) :
    effect setup Action.right.toChar m =
      .next { m with pointer := (m.pointer + 1) % m.tape.size } := by
  have hlimit := h.limit
  have hleft := h.left
  have hright := h.right
  by_cases hroom : m.pointer < setup.limit - 1
  · have hround : (m.pointer + 1) % m.tape.size = m.pointer + 1 :=
      Int.emod_eq_of_lt (by omega) (by omega)
    rw [(Performs.right hroom).effect_eq, hround]
  · have hlast : m.pointer + 1 = m.tape.size := by omega
    have hround : (m.pointer + 1) % m.tape.size = 0 := by
      rw [hlast, Int.emod_self]
    rw [(Performs.rightRound (Int.not_lt.mp hroom) hwrap).effect_eq, hround]

/-!
## Lockstep
-/

/-- The tape rotated by `k`, and the pointer with it. -/
def rotation (k : Int) : Reshape where
  tape := Tape.rotate k
  pointer := fun size p => (p + k) % size

namespace Memory

theorem OnTape.reshape_rotation {setup : Setup} {m : Memory} (h : m.OnTape setup) (k : Int) :
    (m.reshape (rotation k)).OnTape setup := by
  have hsize : (m.reshape (rotation k)).tape.size = m.tape.size := m.tape.size_rotate k
  rcases m.tape.round_inside (m.pointer + k) with ⟨hleft, hright⟩
  constructor
  · rw [hsize]
    exact h.limit
  · exact hleft
  · rw [hsize]
    exact hright

theorem OnTape.cell?_rotation {setup : Setup} {m : Memory} (h : m.OnTape setup) (k : Int) :
    (m.reshape (rotation k)).cell? = m.cell? := by
  rcases m.tape.round_inside (m.pointer + k) with ⟨hleft, hright⟩
  have hback : ((m.pointer + k) % m.tape.size - k) % m.tape.size = m.pointer :=
    (round_eq_iff h.left h.right hleft hright).mp rfl
  change (m.tape.rotate k).read? ((m.pointer + k) % m.tape.size) = m.tape.read? m.pointer
  rw [Tape.read?_rotate k hleft hright, hback]

theorem OnTape.store?_rotation {setup : Setup} {m : Memory} (h : m.OnTape setup) (k : Int)
    (v : UInt8) :
    (m.reshape (rotation k)).store? v = (m.store? v).map (Memory.reshape (rotation k)) := by
  have hwrite := Tape.write?_rotate k h.left h.right v
  rcases Tape.write?_of_inside h.left h.right v with ⟨t, ht, hsize, _⟩
  rw [ht, Option.map_some] at hwrite
  change ((m.tape.rotate k).write? ((m.pointer + k) % m.tape.size) v).map _ = _
  rw [hwrite, Memory.store?, ht]
  simp [reshape, rotation, hsize]

end Memory

theorem lockstep_rotation {setup : Setup} (hwrap : setup.wrap = true) (k : Int) :
    Lockstep setup setup (Memory.OnTape setup) (fun _ => False) (rotation k) := by
  apply lockstep_of_onTape rfl
  · intro m hm
    exact hm.cell?_rotation k
  · intro m hm
    exact hm.store?_rotation k
  · intro a m hmove hm _
    have hm' := hm.reshape_rotation k
    have hsize : (m.reshape (rotation k)).tape.size = m.tape.size := m.tape.size_rotate k
    rcases hmove with rfl | rfl
    · rw [effect_left_of_wrap hwrap hm, effect_left_of_wrap hwrap hm', hsize]
      have hcomm : m.pointer + k - 1 = m.pointer - 1 + k := by omega
      have hround : ((m.pointer + k) % m.tape.size - 1) % m.tape.size =
          ((m.pointer - 1) % m.tape.size + k) % m.tape.size := by
        rw [Int.emod_sub_emod, Int.emod_add_emod, hcomm]
      simp only [Effect.reshape, Memory.reshape, rotation, hround]
    · rw [effect_right_of_wrap hwrap hm, effect_right_of_wrap hwrap hm', hsize]
      have hround : ((m.pointer + k) % m.tape.size + 1) % m.tape.size =
          ((m.pointer + 1) % m.tape.size + k) % m.tape.size := by
        rw [Int.emod_add_emod, Int.emod_add_emod, Int.add_right_comm]
      simp only [Effect.reshape, Memory.reshape, rotation, hround]

/-- A pointer that goes round is never at fault. -/
theorem fault_of_wrap {setup : Setup} {code : Tokens} {n : Nat} {s t : State} {e : Fault}
    (hwrap : setup.wrap = true) (h : steps setup code n s = .faulted e t) (b : Int) :
    e ≠ .underflow b ∧ e ≠ .overflow b := by
  rcases step_of_steps_faulted h with ⟨s', hstep⟩
  cases stepsTo_of_step hstep with
  | unmatched _ _ _ =>
      exact ⟨Fault.noConfusion, Fault.noConfusion⟩
  | fault _ heffect =>
      cases does_of_effect heffect with
      | outside _ =>
          exact ⟨Fault.noConfusion, Fault.noConfusion⟩
      | fails hfails =>
          cases hfails with
          | left _ hstops =>
              rw [hwrap] at hstops
              cases hstops
          | right _ hstops =>
              rw [hwrap] at hstops
              cases hstops
          | _ =>
              exact ⟨Fault.noConfusion, Fault.noConfusion⟩

/-!
## Runs of an interpreter
-/

namespace Interpreter

/-- The interpreter with its tape rotated by `k`, and the pointer with it. -/
def rotate (k : Int) (itp : Interpreter) : Interpreter :=
  { itp with tape := itp.tape.rotate k, pointer := (itp.pointer + k) % itp.tape.size }

/-- With the pointer going round, the tape is a ring.  The run from a rotated
tape and pointer is at every moment the run from the tape and pointer themselves,
rotated: it is at the same place in the program after the same output and input,
and it ends, if it does, after as many steps and with the same fault, which is
never that of the pointer. -/
theorem run_rotate (itp : Interpreter) (setup : Setup) (k : Int) (source : List Char)
    (input : Input) (hsetup : itp.settings.setup? = some setup) (hwrap : setup.wrap = true)
    (hlimit : setup.limit = itp.tape.size) (hleft : 0 ≤ itp.pointer)
    (hright : itp.pointer < itp.tape.size) :
    (forall n, (itp.rotate k).moment? source input n =
      (itp.moment? source input n).map (Step.reshape (rotation k))) ∧
    (forall fuel, RunsRelated (RunReport.Reshaped (rotation k)) (itp.run fuel source input)
      ((itp.rotate k).run fuel source input)) ∧
    forall fuel r b, itp.run fuel source input = .ok (some r) ->
      r.result ≠ .error (.underflow b) ∧ r.result ≠ .error (.overflow b) := by
  have hstart : (itp.start input).memory.OnTape setup := ⟨hlimit, hleft, hright⟩
  have hsetup' : (itp.rotate k).settings.setup? = some setup := hsetup
  have hsteps : forall n,
      steps setup (itp.settings.tokens source) n ((itp.rotate k).start input) =
        (steps setup (itp.settings.tokens source) n (itp.start input)).reshape (rotation k) := by
    intro n
    apply (lockstep_rotation hwrap k).steps_eq hstart
    cases steps setup (itp.settings.tokens source) n (itp.start input) <;> exact id
  refine ⟨?_, ?_, ?_⟩
  · intro n
    rw [moment?_eq_steps hsetup, moment?_eq_steps hsetup', Option.map_some]
    congr 1
    exact hsteps n
  · intro fuel
    exact runsRelated_of_steps hsetup hsetup' rfl (hsteps fuel)
  · intro fuel r b hrun
    constructor
    · intro hresult
      rcases steps_of_run_error hsetup hrun hresult with ⟨s, hfault⟩
      exact (fault_of_wrap hwrap hfault b).1 rfl
    · intro hresult
      rcases steps_of_run_error hsetup hrun hresult with ⟨s, hfault⟩
      exact (fault_of_wrap hwrap hfault b).2 rfl

/-- Of three cells the pointer is at the last; rotated by one, it is at the first. -/
theorem run_rotate_three :
    let itp : Interpreter :=
      { settings := { tapeSize := .int 3, wrapBuffer := .bool true }
        tape := ⟨#[5, 0, 7], by decide⟩
        pointer := 2 }
    let setup : Setup := { limit := 3, wrap := true, mode := .line }
    let source := "[.>+<<]".toList
    let input := Input.ofString ""
    itp.settings.setup? = some setup ∧ setup.wrap = true ∧ setup.limit = itp.tape.size ∧
      0 ≤ itp.pointer ∧ itp.pointer < itp.tape.size ∧ (itp.rotate 1).pointer = 0 ∧
      (forall n, (itp.rotate 1).moment? source input n =
        (itp.moment? source input n).map (Step.reshape (rotation 1))) ∧
      (forall fuel, RunsRelated (RunReport.Reshaped (rotation 1)) (itp.run fuel source input)
        ((itp.rotate 1).run fuel source input)) ∧
      forall fuel r b, itp.run fuel source input = .ok (some r) ->
        r.result ≠ .error (.underflow b) ∧ r.result ≠ .error (.overflow b) := by
  intro itp setup source input
  have hsetup : itp.settings.setup? = some setup := rfl
  have hleft : 0 ≤ itp.pointer := by decide
  have hright : itp.pointer < itp.tape.size := by decide
  have hmoved : (itp.rotate 1).pointer = 0 := by decide
  exact ⟨hsetup, rfl, rfl, hleft, hright, hmoved,
    run_rotate itp setup 1 source input hsetup rfl rfl hleft hright⟩

end Interpreter

end TapeMachine
