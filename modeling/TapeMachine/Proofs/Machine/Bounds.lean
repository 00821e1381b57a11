import TapeMachine.Proofs.Machine.JumpTable

/-!
# Where the pointer can stand

A run takes the limit of the pointer from the settings of the moment, while the
tape keeps the size it was made with.  From position zero the pointer stays
between zero and the limit, or, when the limit is not positive, at zero and at
the position that going round to the left leads to.  A negative position is
counted from the right end of the tape, so the limits for which no program
leaves the tape are those from `1 - size` to `size`, and all smaller ones when
the pointer does not go round.
-/

namespace TapeMachine

/-!
## Positions on a tape
-/

namespace Tape

theorem locate?_eq_none_iff {t : Tape} {p : Int} :
    t.locate? p = none <-> p < -(t.size : Int) ∨ (t.size : Int) ≤ p := by
  unfold locate? size
  constructor
  · intro h
    split at h
    · cases h
    · split at h
      · cases h
      · omega
  · intro h
    rw [dif_neg (by omega), dif_neg (by omega)]

theorem read?_set {t : Tape} {p : Int} {i : Fin t.cells.size} (h : t.locate? p = some i)
    (v : UInt8) : (t.set i v).read? p = some v := by
  have hsize : (t.set i v).cells.size = t.cells.size := size_set t i v
  unfold read? locate?
  unfold locate? at h
  by_cases hleft : 0 ≤ p ∧ p < t.cells.size
  · rw [dif_pos hleft] at h
    cases h
    rw [dif_pos (by omega)]
    simp [get, set]
  · rw [dif_neg hleft] at h
    by_cases hright : -(t.cells.size : Int) ≤ p ∧ p < 0
    · rw [dif_pos hright] at h
      cases h
      rw [dif_neg (by omega), dif_pos (by omega)]
      simp [get, set]
    · rw [dif_neg hright] at h
      cases h

theorem read?_of_inside {t : Tape} {p : Int} (hleft : 0 ≤ p) (hright : p < t.size) :
    t.read? p = t.cells[p.toNat]? := by
  have hinside : p.toNat < t.cells.size := (Int.toNat_lt hleft).mpr hright
  rw [read?, locate?, dif_pos ⟨hleft, hright⟩, Array.getElem?_eq_getElem hinside]
  rfl

/-- Tapes of the same size with the same cells are the same. -/
theorem eq_of_read? {t t' : Tape} (hsize : t.size = t'.size)
    (hread : forall p : Int, 0 ≤ p -> p < t.size -> t.read? p = t'.read? p) : t = t' := by
  have hcells : t.cells = t'.cells := by
    apply Array.ext_getElem?
    intro i
    by_cases hi : i < t.size
    · have hleft : (0 : Int) ≤ i := Int.natCast_nonneg i
      have hright : (i : Int) < t.size := Int.ofNat_lt.mpr hi
      have hright' : (i : Int) < t'.size := by rwa [← hsize]
      have h := hread i hleft hright
      rwa [read?_of_inside hleft hright, read?_of_inside hleft hright'] at h
    · have hout : t.cells.size ≤ i := Nat.not_lt.mp hi
      have hout' : t'.cells.size ≤ i := by
        change t.cells.size = t'.cells.size at hsize
        rwa [← hsize]
      rw [Array.getElem?_eq_none hout, Array.getElem?_eq_none hout']
  cases t
  cases t'
  cases hcells
  rfl

/-- Storing in a cell of the tape succeeds and changes that cell only. -/
theorem write?_of_inside {t : Tape} {p : Int} (hleft : 0 ≤ p) (hright : p < t.size)
    (v : UInt8) :
    exists t', t.write? p v = some t' ∧ t'.size = t.size ∧
      forall q : Int, 0 ≤ q -> q < t.size ->
        t'.read? q = if q = p then some v else t.read? q := by
  have hinside : p.toNat < t.cells.size := (Int.toNat_lt hleft).mpr hright
  refine ⟨t.set ⟨p.toNat, hinside⟩ v, ?_, size_set t _ v, ?_⟩
  · rw [write?, locate?, dif_pos ⟨hleft, hright⟩]
    rfl
  · intro q hq hq'
    have hsame : p.toNat = q.toNat <-> q = p := by omega
    have hset : q < (t.set ⟨p.toNat, hinside⟩ v).size := by rwa [size_set]
    rw [read?_of_inside hq hset, read?_of_inside hq hq', set, Array.getElem?_set]
    simp only [hsame]

end Tape

namespace Memory

theorem cell?_of_store? {m m' : Memory} {v : UInt8} (h : m.store? v = some m') :
    m'.cell? = some v := by
  rcases store?_eq_some_iff.mp h with ⟨i, hi, rfl⟩
  exact Tape.read?_set hi v

end Memory

/-!
## The bounds

The pointer comes below zero only by going round to the left under a limit that
is not positive, and then stands just below that limit until it moves again.
-/

/-- A memory within the bounds of a run: the pointer is below the limit or, when
no position is, at zero or just below the limit; cells hold bytes, and what is
written has the code points of bytes. -/
structure Memory.Bounded (setup : Setup) (m : Memory) : Prop where
  inside : 1 ≤ setup.limit -> 0 ≤ m.pointer ∧ m.pointer < setup.limit
  atEnds : setup.limit ≤ 0 ->
    m.pointer = 0 ∨ (setup.wrap = true ∧ m.pointer = setup.limit - 1)
  cells : forall i, (m.tape.get i).toNat ≤ 255
  written : forall c, c ∈ m.output.toList -> c.toNat ≤ 255

theorem Tape.get_le (t : Tape) (i : Fin t.cells.size) : (t.get i).toNat ≤ 255 := by
  exact Nat.le_of_lt_succ (t.get i).toNat_lt

theorem toNat_charOfByte (b : UInt8) : (charOfByte b).toNat = b.toNat := by
  have hlt : b.toNat < 256 := b.toNat_lt
  have hvalid : b.toNat.isValidChar := Or.inl (by omega)
  rw [charOfByte, Char.ofNat, dif_pos hvalid]
  rfl

namespace Memory

theorem Bounded.of_pointer_zero {setup : Setup} {m : Memory} (hpointer : m.pointer = 0)
    (hwritten : forall c, c ∈ m.output.toList -> c.toNat ≤ 255) : m.Bounded setup where
  inside := by
    intro hlimit
    omega
  atEnds := by
    intro _
    exact Or.inl hpointer
  cells := m.tape.get_le
  written := hwritten

/-- The bounds of a memory do not depend on its cells and its input. -/
theorem Bounded.of_same {setup : Setup} {m m' : Memory} (h : m.Bounded setup)
    (hpointer : m'.pointer = m.pointer) (houtput : m'.output = m.output) :
    m'.Bounded setup where
  inside := by
    rw [hpointer]
    exact h.inside
  atEnds := by
    rw [hpointer]
    exact h.atEnds
  cells := m'.tape.get_le
  written := by
    rw [houtput]
    exact h.written

theorem Bounded.store? {setup : Setup} {m m' : Memory} {v : UInt8} (h : m.Bounded setup)
    (hstore : m.store? v = some m') : m'.Bounded setup := by
  rcases store?_eq_some_iff.mp hstore with ⟨i, _, rfl⟩
  exact h.of_same rfl rfl

theorem Bounded.performs {setup : Setup} {a : Action} {m m' : Memory}
    (hperforms : Performs setup a m m') (h : m.Bounded setup) : m'.Bounded setup := by
  cases hperforms with
  | left hpos =>
      refine ⟨?_, ?_, m.tape.get_le, h.written⟩
      · intro hlimit
        have hinside := h.inside hlimit
        change 0 ≤ m.pointer - 1 ∧ m.pointer - 1 < setup.limit
        omega
      · -- No position under such a limit is positive.
        intro hlimit
        have hends := h.atEnds hlimit
        omega
  | leftRound hle hwrap =>
      refine ⟨?_, ?_, m.tape.get_le, h.written⟩
      · intro hlimit
        change 0 ≤ setup.limit - 1 ∧ setup.limit - 1 < setup.limit
        omega
      · intro _
        exact Or.inr ⟨hwrap, rfl⟩
  | right hroom =>
      refine ⟨?_, ?_, m.tape.get_le, h.written⟩
      · intro hlimit
        have hinside := h.inside hlimit
        change 0 ≤ m.pointer + 1 ∧ m.pointer + 1 < setup.limit
        omega
      · -- Neither position is below the last one, so there is no room to move.
        intro hlimit
        have hends := h.atEnds hlimit
        omega
  | rightRound hle hwrap =>
      exact Bounded.of_pointer_zero rfl h.written
  | increment _ hstore =>
      exact h.store? hstore
  | decrement _ hstore =>
      exact h.store? hstore
  | @write _ v hcell =>
      refine ⟨h.inside, h.atEnds, m.tape.get_le, ?_⟩
      intro c hc
      rw [String.toList_push, List.mem_append, List.mem_singleton] at hc
      rcases hc with hc | rfl
      · exact h.written c hc
      · rw [toNat_charOfByte]
        exact Nat.le_of_lt_succ v.toNat_lt
  | @read _ _ _ input _ hstore =>
      have hread : Memory.Bounded setup { m with input := input } := h.of_same rfl rfl
      exact hread.store? hstore

theorem Bounded.fails {setup : Setup} {a : Action} {m m' : Memory} {f : Fault}
    (hfails : Fails setup a m f m') (h : m.Bounded setup) : m'.Bounded setup := by
  cases hfails <;> exact h.of_same rfl rfl

end Memory

theorem steps_bounded {setup : Setup} (code : Tokens) (n : Nat) {s : State}
    (hs : s.memory.Bounded setup) : (steps setup code n s).state.memory.Bounded setup := by
  apply steps_keep_memory (Memory.Bounded setup)
  · intro a m m' hperforms
    exact Memory.Bounded.performs hperforms
  · intro a m f m' hfails
    exact Memory.Bounded.fails hfails
  · exact hs

/-!
## On the tape

While the limit is the size of the tape, the pointer does not leave the cells,
whether or not it goes round.
-/

/-- The pointer stands at a cell of the tape, and the limit is its size. -/
structure Memory.OnTape (setup : Setup) (m : Memory) : Prop where
  limit : setup.limit = m.tape.size
  left : 0 ≤ m.pointer
  right : m.pointer < m.tape.size

namespace Memory

theorem OnTape.of_same {setup : Setup} {m m' : Memory} (h : m.OnTape setup)
    (hpointer : m'.pointer = m.pointer) (hsize : m'.tape.size = m.tape.size) :
    m'.OnTape setup := by
  constructor
  · rw [hsize]
    exact h.limit
  · rw [hpointer]
    exact h.left
  · rw [hpointer, hsize]
    exact h.right

theorem OnTape.store? {setup : Setup} {m m' : Memory} {v : UInt8} (h : m.OnTape setup)
    (hstore : m.store? v = some m') : m'.OnTape setup := by
  rcases store?_eq_some_iff.mp hstore with ⟨i, _, rfl⟩
  exact h.of_same rfl (Tape.size_set m.tape i v)

theorem OnTape.performs {setup : Setup} {a : Action} {m m' : Memory}
    (hperforms : Performs setup a m m') (h : m.OnTape setup) : m'.OnTape setup := by
  have hlimit := h.limit
  have hleft := h.left
  have hright := h.right
  cases hperforms with
  | left hpos =>
      refine ⟨h.limit, ?_, ?_⟩
      · exact Int.sub_nonneg_of_le hpos
      · exact Int.lt_trans (Int.sub_lt_self _ (by decide)) h.right
  | leftRound _ _ =>
      refine ⟨h.limit, ?_, ?_⟩
      · change 0 ≤ setup.limit - 1
        omega
      · change setup.limit - 1 < m.tape.size
        omega
  | right hroom =>
      refine ⟨h.limit, ?_, ?_⟩
      · exact Int.le_add_one h.left
      · change m.pointer + 1 < m.tape.size
        omega
  | rightRound _ _ =>
      refine ⟨h.limit, Int.le_refl 0, ?_⟩
      exact Int.lt_of_le_of_lt h.left h.right
  | increment _ hstore =>
      exact h.store? hstore
  | decrement _ hstore =>
      exact h.store? hstore
  | write _ =>
      exact h.of_same rfl rfl
  | @read _ _ _ input _ hstore =>
      have hread : Memory.OnTape setup { m with input := input } := h.of_same rfl rfl
      exact hread.store? hstore

theorem OnTape.fails {setup : Setup} {a : Action} {m m' : Memory} {f : Fault}
    (hfails : Fails setup a m f m') (h : m.OnTape setup) : m'.OnTape setup := by
  cases hfails <;> exact h.of_same rfl rfl

theorem OnTape.exists_cell? {setup : Setup} {m : Memory} (h : m.OnTape setup) :
    exists v, m.cell? = some v := by
  have hinside : m.pointer.toNat < m.tape.cells.size := by
    have hright : m.pointer < m.tape.cells.size := h.right
    have hleft := h.left
    omega
  refine ⟨m.tape.cells[m.pointer.toNat], ?_⟩
  rw [cell?, Tape.read?_of_inside h.left h.right, Array.getElem?_eq_getElem hinside]

end Memory

theorem steps_onTape {setup : Setup} (code : Tokens) (n : Nat) {s : State}
    (hs : s.memory.OnTape setup) : (steps setup code n s).state.memory.OnTape setup := by
  apply steps_keep_memory (Memory.OnTape setup)
  · intro a m m' hperforms
    exact Memory.OnTape.performs hperforms
  · intro a m f m' hfails
    exact Memory.OnTape.fails hfails
  · exact hs

theorem onTape_of_running {setup : Setup} {code : Tokens} {n : Nat} {s t : State}
    (hs : s.memory.OnTape setup) (h : steps setup code n s = .running t) :
    t.memory.OnTape setup := by
  have hkept := steps_onTape code n hs
  rwa [h] at hkept

/-!
## Requests for a byte

A request puts a number into a cell.  The number is taken from the input as it
stands there, before it becomes a byte.
-/

/-- The number that a line spells with one or two hexadecimal digits. -/
def hexNumber? : List Char -> Option Nat
  | [a] => Text.hexValue? a
  | [a, b] => do
      let x <- Text.hexValue? a
      let y <- Text.hexValue? b
      pure (16 * x + y)
  | _ => none

/-- The low eight bits of the code point of the first character, zero if there
is none. -/
def leadingNumber : List Char -> Nat
  | [] => 0
  | c :: _ => c.toNat % 256

/-- The number that a request for a byte finds in the input. -/
def Input.number? (mode : InputMode) (input : Input) : Option Nat :=
  match mode with
  | .key => some (leadingNumber input.rest)
  | .hexLine => hexNumber? (Text.trim (Text.cutLine input.rest).1)
  | .line => some (leadingNumber (Text.cutLine input.rest).1)

theorem Text.hexValue?_lt {c : Char} {x : Nat} (h : Text.hexValue? c = some x) : x < 16 := by
  unfold Text.hexValue? at h
  simp only [Bool.and_eq_true, decide_eq_true_eq, Char.le_def, UInt32.le_iff_toNat_le] at h
  change (if 48 ≤ c.toNat ∧ c.toNat ≤ 57 then some (c.toNat - 48)
    else if 97 ≤ c.toNat ∧ c.toNat ≤ 102 then some (c.toNat - 97 + 10)
    else if 65 ≤ c.toNat ∧ c.toNat ≤ 70 then some (c.toNat - 65 + 10) else none) = some x at h
  split at h
  · cases h
    omega
  · split at h
    · cases h
      omega
    · split at h
      · cases h
        omega
      · cases h

/-- A spelled byte is the spelled number, without a remainder. -/
theorem hexNumber?_of_hexByte? {token : List Char} {v : UInt8} (h : hexByte? token = some v) :
    hexNumber? token = some v.toNat := by
  unfold hexByte? at h
  split at h
  · rename_i a
    rcases Option.bind_eq_some_iff.mp h with ⟨x, hx, hv⟩
    have hx16 := Text.hexValue?_lt hx
    have hlt : x < 256 := by omega
    cases hv
    rw [hexNumber?, hx, UInt8.toNat_ofNat_of_lt' hlt]
  · rename_i a b
    rcases Option.bind_eq_some_iff.mp h with ⟨x, hx, hrest⟩
    rcases Option.bind_eq_some_iff.mp hrest with ⟨y, hy, hv⟩
    have hx16 := Text.hexValue?_lt hx
    have hy16 := Text.hexValue?_lt hy
    have hlt : 16 * x + y < 256 := by omega
    cases hv
    rw [hexNumber?, hx, hy, UInt8.toNat_ofNat_of_lt' hlt]
    rfl
  · cases h

theorem Input.number?_of_takeByte {mode : InputMode} {input rest : Input} {v : UInt8}
    (h : input.takeByte mode = (.ok v, rest)) : input.number? mode = some v.toNat := by
  cases mode with
  | key =>
      cases hrest : input.rest with
      | nil =>
          simp only [takeByte, takeKey, hrest] at h
          cases h
          simp only [number?, hrest]
          rfl
      | cons c cs =>
          simp only [takeByte, takeKey, hrest] at h
          cases h
          simp only [number?, hrest]
          rfl
  | hexLine =>
      simp only [takeByte, takeLine] at h
      split at h
      · rename_i b hb
        cases h
        exact hexNumber?_of_hexByte? hb
      · cases h
  | line =>
      cases hline : (Text.cutLine input.rest).1 with
      | nil =>
          simp only [takeByte, takeLine, hline] at h
          cases h
          simp only [number?, hline]
          rfl
      | cons c cs =>
          simp only [takeByte, takeLine, hline] at h
          cases h
          simp only [number?, hline]
          rfl

theorem cell?_of_step_read {setup : Setup} {code : Tokens} {s t : State}
    (htoken : code[s.index]? = some ',') (h : step setup code s = .running t) :
    exists v, t.memory.cell? = some v ∧ s.input.number? setup.mode = some v.toNat := by
  rw [← s.stateAt_memory] at h
  rcases performs_or_fails setup .read s.memory with ⟨m, hperforms⟩ | ⟨f, m, hfails⟩
  · rw [step_of_next htoken hperforms.effect_eq] at h
    cases h
    cases hperforms with
    | read hbyte hstore =>
        exact ⟨_, Memory.cell?_of_store? hstore, Input.number?_of_takeByte hbyte⟩
  · rw [step_of_fault htoken hfails.effect_eq] at h
    cases h

/-!
## Leaving the tape
-/

theorem Fails.cell?_eq_none {setup : Setup} {a : Action} {m m' : Memory} {f : Fault} {p : Int}
    {size : Nat} (h : Fails setup a m f m') (hf : f = .outOfTape p size) : m'.cell? = none := by
  cases h with
  | left _ _ =>
      cases hf
  | right _ _ =>
      cases hf
  | increment hcell =>
      exact hcell
  | decrement hcell =>
      exact hcell
  | write hcell =>
      exact hcell
  | read _ =>
      cases hf
  | readOutside _ hcell =>
      exact hcell

theorem cell?_of_step_outOfTape {setup : Setup} {code : Tokens} {s t : State} {p : Int}
    {size : Nat} (h : step setup code s = .faulted (.outOfTape p size) t) :
    t.memory.cell? = none := by
  cases stepsTo_of_step h with
  | fault _ heffect =>
      cases does_of_effect heffect with
      | fails hfails =>
          exact hfails.cell?_eq_none rfl
      | outside hcell =>
          exact hcell

/-- Within the bounds there is a cell at the pointer, for a limit that the size
of the tape admits. -/
theorem Memory.Bounded.cell?_ne_none {setup : Setup} {m : Memory} (h : m.Bounded setup)
    (hlimit : setup.limit ≤ m.tape.size)
    (hround : setup.wrap = true -> 1 - (m.tape.size : Int) ≤ setup.limit) :
    m.cell? ≠ none := by
  intro hcell
  have hsize : 0 < m.tape.size := m.tape.size_pos
  have houtside := Tape.locate?_eq_none_iff.mp (Memory.cell?_eq_none_iff.mp hcell)
  by_cases hpos : 1 ≤ setup.limit
  · have hinside := h.inside hpos
    omega
  · rcases h.atEnds (by omega) with hzero | ⟨hwrap, hbelow⟩
    · omega
    · have hreach := hround hwrap
      omega

namespace Interpreter

/-- The run of a program on an input ends with the pointer outside the tape. -/
def LeavesTape (itp : Interpreter) (source : List Char) (input : Input) : Prop :=
  exists fuel r p size,
    itp.run fuel source input = .ok (some r) ∧ r.result = .error (.outOfTape p size)

theorem start_bounded {itp : Interpreter} (setup : Setup) (hstart : itp.pointer = 0)
    (input : Input) : (itp.start input).memory.Bounded setup := by
  apply Memory.Bounded.of_pointer_zero hstart
  intro c hc
  cases hc

theorem not_leavesTape {itp : Interpreter} {setup : Setup}
    (hsetup : itp.settings.setup? = some setup) (hstart : itp.pointer = 0)
    (hlimit : setup.limit ≤ itp.tape.size)
    (hround : setup.wrap = true -> 1 - (itp.tape.size : Int) ≤ setup.limit)
    (source : List Char) (input : Input) : ¬ itp.LeavesTape source input := by
  intro h
  rcases h with ⟨fuel, r, p, size, hrun, hresult⟩
  rcases scanning_of_run hrun with ⟨setup', ⟨t, fault⟩, known, hsetup', hend, rfl⟩
  rw [hsetup] at hsetup'
  cases hsetup'
  cases fault with
  | none =>
      cases hresult
  | some f =>
      cases hresult
      have hsteps := steps_of_scanning_fault hend
      rcases step_of_steps_faulted hsteps with ⟨s, hstep⟩
      have hlast :=
        steps_bounded (itp.settings.tokens source) fuel (start_bounded setup hstart input)
      have hsize := steps_tape_size setup (itp.settings.tokens source) fuel (itp.start input)
      rw [hsteps] at hlast hsize
      change t.tape.size = itp.tape.size at hsize
      rw [← hsize] at hlimit hround
      exact hlast.cell?_ne_none hlimit hround (cell?_of_step_outOfTape hstep)

theorem leavesTape_of_steps {itp : Interpreter} {setup : Setup} {source : List Char}
    {input : Input} {n i k : Nat} {m : Memory} (hsetup : itp.settings.setup? = some setup)
    (hsteps : steps setup (itp.settings.tokens source) n (itp.start input) =
      .running (m.stateAt i k))
    (htoken : (itp.settings.tokens source)[i]? = some '+') (hcell : m.cell? = none) :
    itp.LeavesTape source input := by
  have heffect : effect setup '+' m = .fault m.outside m := (Fails.increment hcell).effect_eq
  have hend : scanning setup (itp.settings.tokens source) (n + 1) (itp.start input) =
      some ⟨m.stateAt i k, some m.outside⟩ := by
    rw [scanning_of_steps hsteps, scanning, step_of_fault htoken heffect]
  rcases run_of_scanning hsetup hend with ⟨known, hrun⟩
  exact ⟨n + 1, _, m.pointer, m.tape.size, hrun, rfl⟩

theorem tokens_of_instructions (settings : Settings) {source : List Char}
    (h : forall c, c ∈ source -> isInstruction c = true) :
    settings.tokens source = source.toArray := by
  unfold Settings.tokens
  split
  · rw [stripComments, List.filter_eq_self.mpr h]
  · rfl

/-- The program that moves to the right by the size of the tape and changes the
cell there. -/
def outward (size : Nat) : List Char :=
  List.replicate size '>' ++ ['+']

theorem tokens_outward (settings : Settings) (size : Nat) :
    settings.tokens (outward size) = (outward size).toArray := by
  apply tokens_of_instructions
  intro c hc
  rcases List.mem_append.mp hc with hmove | hlast
  · rw [(List.mem_replicate.mp hmove).2]
    rfl
  · rw [List.mem_singleton.mp hlast]
    rfl

/-- Below the limit the pointer moves to the right freely. -/
theorem steps_right {setup : Setup} {code : Tokens} (m : Memory) (k : Nat)
    (hmoves : forall j, j < k -> code[j]? = some '>') (hlimit : m.pointer + k < setup.limit) :
    steps setup code k (m.stateAt 0 0) =
      .running (Memory.stateAt { m with pointer := m.pointer + k } k k) := by
  induction k with
  | zero =>
      simp [steps_zero]
  | succ k ih =>
      have hreached := ih (fun j hj => hmoves j (by omega)) (by omega)
      have hroom : m.pointer + k < setup.limit - 1 := by omega
      have hmove := (Performs.right (m := { m with pointer := m.pointer + k }) hroom).effect_eq
      rw [steps_add, hreached]
      rw [Step.andThen, steps_one, step_of_next (hmoves k (by omega)) hmove, Int.add_assoc]
      rfl

theorem leavesTape_outward {itp : Interpreter} {setup : Setup}
    (hsetup : itp.settings.setup? = some setup) (hstart : itp.pointer = 0)
    (hlimit : (itp.tape.size : Int) < setup.limit) (input : Input) :
    itp.LeavesTape (outward itp.tape.size) input := by
  have htokens := tokens_outward itp.settings itp.tape.size
  have hmoves : forall j, j < itp.tape.size ->
      (itp.settings.tokens (outward itp.tape.size))[j]? = some '>' := by
    intro j hj
    rw [htokens]
    simp [outward, List.getElem?_append, hj]
  have hlast : (itp.settings.tokens (outward itp.tape.size))[itp.tape.size]? = some '+' := by
    rw [htokens]
    simp [outward]
  have hreach : itp.pointer + itp.tape.size < setup.limit := by omega
  have hsteps := steps_right (itp.start input).memory itp.tape.size hmoves hreach
  apply leavesTape_of_steps hsetup hsteps hlast
  rw [Memory.cell?_eq_none_iff, Tape.locate?_eq_none_iff]
  change itp.pointer + itp.tape.size < -(itp.tape.size : Int) ∨
    (itp.tape.size : Int) ≤ itp.pointer + itp.tape.size
  omega

theorem leavesTape_round {itp : Interpreter} {setup : Setup}
    (hsetup : itp.settings.setup? = some setup) (hstart : itp.pointer = 0)
    (hwrap : setup.wrap = true) (hlimit : setup.limit < 1 - (itp.tape.size : Int))
    (input : Input) : itp.LeavesTape ['<', '+'] input := by
  have htokens : itp.settings.tokens ['<', '+'] = #['<', '+'] := by
    apply tokens_of_instructions
    intro c hc
    simp only [List.mem_cons, List.not_mem_nil, or_false] at hc
    rcases hc with rfl | rfl <;> rfl
  have hperforms : Performs setup .left (itp.start input).memory
      { (itp.start input).memory with pointer := setup.limit - 1 } :=
    Performs.leftRound (Int.le_of_eq hstart) hwrap
  have hsteps : steps setup (itp.settings.tokens ['<', '+']) 1 (itp.start input) =
      .running (Memory.stateAt
        { (itp.start input).memory with pointer := setup.limit - 1 } 1 1) := by
    rw [htokens, steps_one]
    exact step_of_next rfl hperforms.effect_eq 0
  apply leavesTape_of_steps hsetup hsteps
  · rw [htokens]
    rfl
  · rw [Memory.cell?_eq_none_iff, Tape.locate?_eq_none_iff]
    change setup.limit - 1 < -(itp.tape.size : Int) ∨ (itp.tape.size : Int) ≤ setup.limit - 1
    omega

/-!
## The life of an interpreter

Whatever happens to an interpreter after it was made, its tape keeps its size.
-/

/-- What can become of an interpreter: programs are run on it, its settings are
changed, and its tape and pointer are set from outside. -/
inductive Becomes (made : Interpreter) : Interpreter -> Prop where
  | made : Becomes made made
  | run {itp : Interpreter} {fuel : Nat} {source : List Char} {input : Input} {r : RunReport} :
      Becomes made itp ->
      itp.run fuel source input = .ok (some r) ->
      Becomes made r.after
  | configure {itp : Interpreter} (settings : Settings) :
      Becomes made itp ->
      Becomes made { itp with settings := settings }
  | poke {itp itp' : Interpreter} {position : Int} {v : UInt8} :
      Becomes made itp ->
      itp.poke position v = .ok itp' ->
      Becomes made itp'
  | setPointer {itp : Interpreter} (position : Int) :
      Becomes made itp ->
      Becomes made (itp.setPointer position)
  | reset {itp : Interpreter} :
      Becomes made itp ->
      Becomes made itp.reset

theorem after_run {itp : Interpreter} {fuel : Nat} {source : List Char} {input : Input}
    {r : RunReport} (h : itp.run fuel source input = .ok (some r)) :
    r.after.pointer = 0 ∧ r.after.tape.size = itp.tape.size := by
  rcases scanning_of_run h with ⟨setup, e, known, hsetup, hend, rfl⟩
  refine ⟨rfl, ?_⟩
  have hsize := steps_tape_size setup (itp.settings.tokens source) fuel (itp.start input)
  rw [steps_state_of_scanning hend] at hsize
  exact (Tape.size_clear e.state.tape).trans hsize

theorem Becomes.tape_size {made itp : Interpreter} (h : made.Becomes itp) :
    itp.tape.size = made.tape.size := by
  induction h with
  | made =>
      rfl
  | run _ hrun ih =>
      exact (after_run hrun).2.trans ih
  | configure settings _ ih =>
      exact ih
  | @poke itp itp' position v _ hpoke ih =>
      unfold Interpreter.poke at hpoke
      cases hwrite : itp.tape.write? position v with
      | none =>
          rw [hwrite] at hpoke
          cases hpoke
      | some tape =>
          rw [hwrite] at hpoke
          cases hpoke
          rcases Option.map_eq_some_iff.mp hwrite with ⟨i, _, rfl⟩
          exact (Tape.size_set itp.tape i v).trans ih
  | setPointer position _ ih =>
      exact ih
  | @reset itp _ ih =>
      exact (Tape.size_clear itp.tape).trans ih

variable {allocate : Allocator}

/-- A new interpreter stands at zero on a tape of the size in its settings. -/
theorem of_make {settings : Settings} {made : Interpreter} (h : make allocate settings = .ok made) :
    made.pointer = 0 ∧ settings.tapeSize = .int made.tape.size := by
  unfold make at h
  cases htape : Tape.ofSetting allocate settings.tapeSize with
  | error e =>
      rw [htape] at h
      cases h
  | ok tape =>
      rw [htape] at h
      cases h
      refine ⟨rfl, ?_⟩
      unfold Tape.ofSetting at htape
      split at htape
      · rename_i n hn
        split at htape
        · cases htape
        · split at htape
          · cases htape
          · cases htape
            rw [hn, Tape.size_blank]
            congr 1
            omega
      · cases htape

/-- The limit is the size of the tape as long as the size setting is the one
that the tape was made with. -/
theorem limit_eq_tape_size {settings : Settings} {made itp : Interpreter} {setup : Setup}
    (hmade : make allocate settings = .ok made) (hlife : made.Becomes itp)
    (hsame : itp.settings.tapeSize = settings.tapeSize)
    (hsetup : itp.settings.setup? = some setup) : setup.limit = itp.tape.size := by
  unfold Settings.setup? at hsetup
  rw [hsame, (of_make hmade).2, ← hlife.tape_size] at hsetup
  cases hsetup
  rfl

theorem blank_of_ofSetting {v : Value} {t : Tape} (h : Tape.ofSetting allocate v = .ok t) :
    exists n, t = Tape.blank n := by
  unfold Tape.ofSetting at h
  split at h
  · split at h
    · cases h
    · split at h
      · cases h
      · cases h
        exact ⟨_, rfl⟩
  · cases h

theorem make_eq_ok_iff {settings : Settings} {made : Interpreter} :
    make allocate settings = .ok made <->
      Tape.ofSetting allocate settings.tapeSize = .ok made.tape ∧
        made = { settings := settings, tape := made.tape } := by
  unfold make
  cases Tape.ofSetting allocate settings.tapeSize with
  | error e =>
      constructor
      · intro h
        cases h
      · intro h
        cases h.1
  | ok tape =>
      constructor
      · intro h
        cases h
        exact ⟨rfl, rfl⟩
      · intro h
        rcases h with ⟨htape, hmade⟩
        cases htape
        rw [hmade]
        rfl

theorem settings_of_make {settings : Settings} {made : Interpreter}
    (h : make allocate settings = .ok made) : made.settings = settings := by
  exact congrArg Interpreter.settings (make_eq_ok_iff.mp h).2

/-- The setup of the runs of a new interpreter. -/
theorem setup?_of_make {settings : Settings} {made : Interpreter}
    (h : make allocate settings = .ok made) :
    exists setup, made.settings.setup? = some setup ∧ setup.limit = made.tape.size ∧
      setup.wrap = settings.wrapBuffer.truthy := by
  rw [settings_of_make h, Settings.setup?, (of_make h).2]
  exact ⟨_, rfl, rfl, rfl⟩

theorem start_onTape {settings : Settings} {made : Interpreter} {setup : Setup}
    (h : make allocate settings = .ok made) (hlimit : setup.limit = made.tape.size) (input : Input) :
    (made.start input).memory.OnTape setup := by
  have hpointer := (of_make h).1
  have hsize := made.tape.size_pos
  refine ⟨hlimit, ?_, ?_⟩
  · exact Int.le_of_eq hpointer.symm
  · change made.pointer < made.tape.cells.size
    omega

/-- The bounds of a run that starts at zero.  At every moment the pointer is
below the limit, or at one of two positions when the limit is not positive;
cells and written characters are bytes, and a cell that was read into holds the
number in the input.  Some program leaves the tape exactly when the limit is
above the size of the tape, or so far below zero that going round passes its
left end; so none does while the size setting is the one that the tape was made
with.  A new interpreter starts at zero, and so does every run after another. -/
theorem bounded_and_leavesTape_iff {itp : Interpreter} {setup : Setup}
    (hsetup : itp.settings.setup? = some setup) (hstart : itp.pointer = 0) :
    (forall source input n, exists now,
        itp.moment? source input n = some now ∧ now.state.memory.Bounded setup) ∧
      (forall source input n s t,
        itp.moment? source input n = some (.running s) ->
        (itp.settings.tokens source)[s.index]? = some ',' ->
        itp.moment? source input (n + 1) = some (.running t) ->
        exists v, t.memory.cell? = some v ∧ s.input.number? setup.mode = some v.toNat) ∧
      ((exists source input, itp.LeavesTape source input) <->
        (itp.tape.size : Int) < setup.limit ∨
          (setup.limit < 1 - (itp.tape.size : Int) ∧ setup.wrap = true)) ∧
      (forall allocate settings made,
        make allocate settings = .ok made ->
        made.pointer = 0 ∧
          (made.Becomes itp ->
            itp.settings.tapeSize = settings.tapeSize ->
            forall source input, ¬ itp.LeavesTape source input)) ∧
      (forall fuel source input r,
        itp.run fuel source input = .ok (some r) -> r.after.pointer = 0) := by
  refine ⟨?_, ?_, ?_, ?_, ?_⟩
  · intro source input n
    refine ⟨_, moment?_eq_steps hsetup source input n, ?_⟩
    exact steps_bounded _ n (start_bounded setup hstart input)
  · intro source input n s t hs htoken ht
    rw [moment?_eq_steps hsetup] at hs ht
    have hstep := Option.some.inj ht
    rw [steps_add, Option.some.inj hs, Step.andThen, steps_one] at hstep
    exact cell?_of_step_read htoken hstep
  · constructor
    · intro h
      rcases h with ⟨source, input, hleaves⟩
      by_cases habove : (itp.tape.size : Int) < setup.limit
      · exact Or.inl habove
      · refine Or.inr ?_
        by_cases hround : setup.wrap = true -> 1 - (itp.tape.size : Int) ≤ setup.limit
        · exact absurd hleaves
            (not_leavesTape hsetup hstart (Int.not_lt.mp habove) hround source input)
        · rcases Classical.not_imp.mp hround with ⟨hwrap, hbelow⟩
          exact ⟨Int.not_le.mp hbelow, hwrap⟩
    · intro h
      rcases h with habove | ⟨hbelow, hwrap⟩
      · exact ⟨_, default, leavesTape_outward hsetup hstart habove default⟩
      · exact ⟨_, default, leavesTape_round hsetup hstart hwrap hbelow default⟩
  · intro allocate settings made hmade
    refine ⟨(of_make hmade).1, ?_⟩
    intro hlife hsame source input
    have hlimit := limit_eq_tape_size hmade hlife hsame hsetup
    have hsize : 0 < itp.tape.size := itp.tape.size_pos
    apply not_leavesTape hsetup hstart
    · omega
    · intro _
      omega
  · intro fuel source input r hrun
    exact (after_run hrun).1

/-- A tape of three cells under a limit of minus three, with the pointer going
round: one step to the left leads to position minus four, outside the tape. -/
theorem leavesTape_below_three :
    Settings.setup? { tapeSize := .int (-3), wrapBuffer := .bool true } =
        some ⟨-3, true, .line⟩ ∧
      exists source input, LeavesTape
        { settings := { tapeSize := .int (-3), wrapBuffer := .bool true }
          tape := Tape.blank 2
          pointer := 0 } source input := by
  refine ⟨rfl, ?_⟩
  exact (bounded_and_leavesTape_iff rfl rfl).2.2.1.mpr (Or.inr ⟨by decide, rfl⟩)

end Interpreter

end TapeMachine
