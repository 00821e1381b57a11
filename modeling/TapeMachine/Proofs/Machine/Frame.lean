import TapeMachine.Proofs.Machine.Reading

/-!
# The cells that a run depends on

Instructions other than the two moves access the cell at the pointer, and no token
accesses any other cell.  The cells that a run never accesses keep their values, and
these values do not matter: on a tape that differs in such cells only, the run goes
the same way.  Which cells these are is known only from the run itself, so the two
runs are kept in step by the invariant that their tapes agree on all the cells that
the first one will ever access.
-/

namespace TapeMachine

/-!
## Tapes that agree on some cells
-/

namespace Tape

/-- The number of the cell at a position.  It depends on the size of the tape only. -/
def place? (t : Tape) (p : Int) : Option Nat :=
  (t.locate? p).map Fin.val

theorem place?_of_size {t t' : Tape} (hsize : t'.size = t.size) (p : Int) :
    t'.place? p = t.place? p := by
  have hcells : t'.cells.size = t.cells.size := hsize
  unfold place? locate?
  by_cases hleft : 0 ≤ p ∧ p < t.cells.size
  · rw [dif_pos hleft, dif_pos (by rwa [hcells])]
    rfl
  · rw [dif_neg hleft, dif_neg (by rwa [hcells])]
    by_cases hright : -(t.cells.size : Int) ≤ p ∧ p < 0
    · rw [dif_pos hright, dif_pos (by rwa [hcells])]
      simp only [Option.map_some, hcells]
    · rw [dif_neg hright, dif_neg (by rwa [hcells])]
      rfl

theorem read?_eq_bind (t : Tape) (p : Int) :
    t.read? p = (t.place? p).bind fun i => t.cells[i]? := by
  unfold read? place?
  cases t.locate? p with
  | none =>
      rfl
  | some i =>
      exact (Array.getElem?_eq_getElem i.isLt).symm

/-- Storing changes one cell. -/
theorem cells_of_write? {t u : Tape} {p : Int} {v : UInt8} (h : t.write? p v = some u) :
    exists i, t.place? p = some i ∧ u.size = t.size ∧
      forall j, u.cells[j]? = if i = j then some v else t.cells[j]? := by
  rcases Option.map_eq_some_iff.mp h with ⟨i, hi, rfl⟩
  refine ⟨i.val, congrArg (Option.map Fin.val) hi, size_set t i v, ?_⟩
  intro j
  exact Array.getElem?_set i.isLt

/-- Two tapes of one size with the same values in the cells with the property `A`. -/
structure AgreesOn (A : Nat -> Prop) (t t' : Tape) : Prop where
  size : t'.size = t.size
  cells : forall i, A i -> t'.cells[i]? = t.cells[i]?

namespace AgreesOn

variable {A : Nat -> Prop} {t t' : Tape} {p : Int}

theorem read?_eq (h : t.AgreesOn A t') (hp : forall i, t.place? p = some i -> A i) :
    t'.read? p = t.read? p := by
  rw [read?_eq_bind, read?_eq_bind, place?_of_size h.size]
  cases hplace : t.place? p with
  | none =>
      rfl
  | some i =>
      exact h.cells i (hp i hplace)

theorem write? {u : Tape} {v : UInt8} (h : t.AgreesOn A t') (hwrite : t.write? p v = some u) :
    exists u', t'.write? p v = some u' ∧ u.AgreesOn A u' := by
  rcases cells_of_write? hwrite with ⟨i, hi, hsize, hcells⟩
  have hi' : t'.place? p = some i := by
    rw [place?_of_size h.size, hi]
  rcases Option.map_eq_some_iff.mp hi' with ⟨k, hk, _⟩
  have hwrite' : t'.write? p v = some (t'.set k v) := congrArg (Option.map _) hk
  rcases cells_of_write? hwrite' with ⟨j, hj, hsize', hcells'⟩
  rw [hi'] at hj
  cases hj
  refine ⟨_, hwrite', hsize'.trans (h.size.trans hsize.symm), ?_⟩
  intro j hA
  rw [hcells, hcells', h.cells j hA]

end AgreesOn

end Tape

/-!
## Tokens
-/

/-- A token accesses a cell: it is an instruction that uses the cell at the pointer.
A request that is refused has not come to the cell. -/
inductive Accesses (mode : InputMode) : Char -> Memory -> Nat -> Prop where
  | cell {c : Char} {m : Memory} {i : Nat} :
      c ∈ ['+', '-', '.', '[', ']'] ->
      m.tape.place? m.pointer = some i ->
      Accesses mode c m i
  | byte {m : Memory} {v : UInt8} {input : Input} {i : Nat} :
      m.input.takeByte mode = (.ok v, input) ->
      m.tape.place? m.pointer = some i ->
      Accesses mode ',' m i

theorem Accesses.uses_cell {mode : InputMode} {c : Char} {m : Memory} {i : Nat}
    (h : Accesses mode c m i) :
    c ∈ ['+', '-', '.', ',', '[', ']'] ∧ m.tape.place? m.pointer = some i := by
  cases h with
  | cell hc hi =>
      have hmore : ['+', '-', '.', '[', ']'] ⊆ ['+', '-', '.', ',', '[', ']'] := by decide
      exact ⟨hmore hc, hi⟩
  | byte _ hi =>
      exact ⟨by decide, hi⟩

theorem Accesses.bracket {mode : InputMode} {m : Memory} {i : Nat} (b : Bracket)
    (hi : m.tape.place? m.pointer = some i) : Accesses mode b.toChar m i := by
  cases b <;> exact Accesses.cell (by decide) hi

def Memory.withTape (t : Tape) (m : Memory) : Memory :=
  { m with tape := t }

section

variable {setup : Setup} {c : Char} {m m' : Memory} {i : Nat}

theorem Memory.cells_of_store? {v : UInt8} (h : m.store? v = some m')
    (hi : m.tape.place? m.pointer ≠ some i) : m'.tape.cells[i]? = m.tape.cells[i]? := by
  rcases Option.map_eq_some_iff.mp h with ⟨u, hwrite, rfl⟩
  rcases Tape.cells_of_write? hwrite with ⟨k, hk, _, hcells⟩
  have hne : k ≠ i := by
    rintro rfl
    exact hi hk
  exact (hcells i).trans (if_neg hne)

/-- An instruction leaves the cells that it does not access. -/
theorem Performs.cells_eq {a : Action} (h : Performs setup a m m')
    (hi : ¬ Accesses setup.mode a.toChar m i) : m'.tape.cells[i]? = m.tape.cells[i]? := by
  cases h with
  | increment _ hstore =>
      exact Memory.cells_of_store? hstore fun hk => hi (Accesses.cell (by decide) hk)
  | decrement _ hstore =>
      exact Memory.cells_of_store? hstore fun hk => hi (Accesses.cell (by decide) hk)
  | read hbyte hstore =>
      have hkeeps := Memory.cells_of_store? (i := i) hstore
      exact hkeeps fun hk => hi (Accesses.byte hbyte hk)
  | _ =>
      rfl

theorem Fails.tape_eq {a : Action} {f : Fault} (h : Fails setup a m f m') :
    m'.tape = m.tape := by
  cases h <;> rfl

end

/-- Two effects that differ in the tape only, and there in cells without the property
`A` only. -/
inductive Effect.Framed (A : Nat -> Prop) : Effect -> Effect -> Prop where
  | next {m : Memory} {t : Tape} :
      m.tape.AgreesOn A t ->
      Framed A (.next m) (.next (m.withTape t))
  | jump {b : Bracket} :
      Framed A (.jump b) (.jump b)
  | fault {f : Fault} {m : Memory} {t : Tape} :
      m.tape.AgreesOn A t ->
      Framed A (.fault f m) (.fault f (m.withTape t))

section

variable {setup : Setup} {c : Char} {m m' : Memory} {A : Nat -> Prop} {t : Tape}
variable (h : m.tape.AgreesOn A t)
include h

theorem Memory.outside_withTape : (m.withTape t).outside = m.outside := by
  show Fault.outOfTape m.pointer t.size = _
  rw [h.size]
  rfl

theorem Memory.cell?_withTape (hA : forall i, m.tape.place? m.pointer = some i -> A i) :
    (m.withTape t).cell? = m.cell? := h.read?_eq hA

theorem Memory.cell?_withTape_eq_none (hcell : m.cell? = none) : (m.withTape t).cell? = none := by
  have hplace : m.tape.place? m.pointer = none :=
    Option.map_eq_none_iff.mpr (Memory.cell?_eq_none_iff.mp hcell)
  rw [cell?_withTape h, hcell]
  rw [hplace]
  nofun

theorem Memory.store?_withTape {v : UInt8} (hstore : m.store? v = some m') :
    exists t', (m.withTape t).store? v = some (m'.withTape t') ∧ m'.tape.AgreesOn A t' := by
  rcases Option.map_eq_some_iff.mp hstore with ⟨u, hwrite, rfl⟩
  rcases h.write? hwrite with ⟨u', hwrite', hagrees⟩
  exact ⟨u', congrArg (Option.map _) hwrite', hagrees⟩

theorem Performs.framed {a : Action} (hperforms : Performs setup a m m')
    (hA : forall i, Accesses setup.mode a.toChar m i -> A i) :
    exists t', Performs setup a (m.withTape t) (m'.withTape t') ∧ m'.tape.AgreesOn A t' := by
  have hcell : a.toChar ∈ ['+', '-', '.', '[', ']'] -> (m.withTape t).cell? = m.cell? := by
    intro hc
    exact Memory.cell?_withTape h fun i hi => hA i (Accesses.cell hc hi)
  cases hperforms with
  | left hpos =>
      exact ⟨t, Performs.left hpos, h⟩
  | leftRound hend hwrap =>
      exact ⟨t, Performs.leftRound hend hwrap, h⟩
  | right hroom =>
      exact ⟨t, Performs.right hroom, h⟩
  | rightRound hend hwrap =>
      exact ⟨t, Performs.rightRound hend hwrap, h⟩
  | increment hv hstore =>
      rcases Memory.store?_withTape h hstore with ⟨t', hstore', hagrees⟩
      exact ⟨t', Performs.increment ((hcell (by decide)).trans hv) hstore', hagrees⟩
  | decrement hv hstore =>
      rcases Memory.store?_withTape h hstore with ⟨t', hstore', hagrees⟩
      exact ⟨t', Performs.decrement ((hcell (by decide)).trans hv) hstore', hagrees⟩
  | write hv =>
      exact ⟨t, Performs.write ((hcell (by decide)).trans hv), h⟩
  | @read _ _ v input hbyte hstore =>
      rcases Memory.store?_withTape (m := { m with input := input }) h hstore with
        ⟨t', hstore', hagrees⟩
      exact ⟨t', Performs.read hbyte hstore', hagrees⟩

theorem Fails.framed {a : Action} {f : Fault} (hfails : Fails setup a m f m') :
    Fails setup a (m.withTape t) f (m'.withTape t) := by
  have houtside := Memory.outside_withTape h
  have hnone : m.cell? = none -> (m.withTape t).cell? = none :=
    Memory.cell?_withTape_eq_none h
  cases hfails with
  | left hend hwrap =>
      exact Fails.left hend hwrap
  | right hend hwrap =>
      exact Fails.right hend hwrap
  | increment hcell =>
      rw [← houtside]
      exact Fails.increment (hnone hcell)
  | decrement hcell =>
      rw [← houtside]
      exact Fails.decrement (hnone hcell)
  | write hcell =>
      rw [← houtside]
      exact Fails.write (hnone hcell)
  | read hbyte =>
      exact Fails.read hbyte
  | readOutside hbyte hcell =>
      rw [← houtside]
      exact Fails.readOutside hbyte (hnone hcell)

/-- A token has the same effect on both tapes when they agree on the cell that it
accesses. -/
theorem effect_framed (hA : forall i, Accesses setup.mode c m i -> A i) :
    (effect setup c m).Framed A (effect setup c (m.withTape t)) := by
  generalize heffect : effect setup c m = result
  cases does_of_effect heffect with
  | comment hcomment =>
      rw [effect_comment setup hcomment]
      exact Effect.Framed.next h
  | performs hperforms =>
      rcases Performs.framed h hperforms hA with ⟨t', hperforms', hagrees⟩
      rw [hperforms'.effect_eq]
      exact Effect.Framed.next hagrees
  | fails hfails =>
      rw [(Fails.framed h hfails).effect_eq]
      apply Effect.Framed.fault
      rw [hfails.tape_eq]
      exact h
  | outside hcell =>
      rw [effect_bracket, Memory.cell?_withTape_eq_none h hcell, ← Memory.outside_withTape h]
      exact Effect.Framed.fault h
  | @stays b _ v hcell hstays =>
      rw [effect_bracket, Memory.cell?_withTape h fun i hi => hA i (Accesses.bracket b hi), hcell]
      simp only [hstays]
      exact Effect.Framed.next h
  | @jumps b _ v hcell hjumps =>
      rw [effect_bracket, Memory.cell?_withTape h fun i hi => hA i (Accesses.bracket b hi), hcell]
      simp only [hjumps]
      exact Effect.Framed.jump

end

/-!
## Steps
-/

def State.withTape (t : Tape) (s : State) : State :=
  { s with tape := t }

def Step.withTape (t : Tape) : Step -> Step
  | running s => .running (s.withTape t)
  | finished s => .finished (s.withTape t)
  | faulted f s => .faulted f (s.withTape t)

theorem Memory.withTape_stateAt (t : Tape) (m : Memory) (i n : Nat) :
    (m.stateAt i n).withTape t = (m.withTape t).stateAt i n := rfl

/-- The next token of a running machine accesses a cell. -/
def Step.Accesses (mode : InputMode) (code : Tokens) (i : Nat) : Step -> Prop
  | running s => exists c, code[s.index]? = some c ∧ TapeMachine.Accesses mode c s.memory i
  | finished _ => False
  | faulted _ _ => False

section

variable {setup : Setup} {code : Tokens}

theorem step_cells_eq {s : State} {i : Nat}
    (hi : ¬ (Step.running s).Accesses setup.mode code i) :
    (step setup code s).state.tape.cells[i]? = s.tape.cells[i]? := by
  cases hresult : step setup code s with
  | finished t =>
      cases stepsTo_of_step hresult
      rfl
  | running t =>
      cases stepsTo_of_step hresult with
      | jump _ _ _ =>
          rfl
      | next hc heffect =>
          cases does_of_effect heffect with
          | performs hperforms =>
              exact hperforms.cells_eq fun haccess => hi ⟨_, hc, haccess⟩
          | _ =>
              rfl
  | faulted f t =>
      cases stepsTo_of_step hresult with
      | unmatched _ _ _ =>
          rfl
      | fault _ heffect =>
          cases does_of_effect heffect with
          | fails hfails =>
              exact congrArg (fun tape : Tape => tape.cells[i]?) hfails.tape_eq
          | outside _ =>
              rfl

theorem step_framed {A : Nat -> Prop} {s : State} {t : Tape} (h : s.tape.AgreesOn A t)
    (hA : forall i, (Step.running s).Accesses setup.mode code i -> A i) :
    exists t', step setup code (s.withTape t) = (step setup code s).withTape t' ∧
      (step setup code s).state.tape.AgreesOn A t' := by
  rw [← s.stateAt_memory, Memory.withTape_stateAt]
  cases htoken : code[s.index]? with
  | none =>
      have hend : code.size ≤ s.index := Array.getElem?_eq_none_iff.mp htoken
      rw [step_of_end hend, step_of_end hend]
      exact ⟨t, rfl, h⟩
  | some c =>
      have hframed : (effect setup c s.memory).Framed A (effect setup c (s.memory.withTape t)) :=
        effect_framed h fun i haccess => hA i ⟨c, htoken, haccess⟩
      generalize heffect : effect setup c s.memory = result at hframed
      generalize heffect' : effect setup c (s.memory.withTape t) = result' at hframed
      cases hframed with
      | next hagrees =>
          rw [step_of_next htoken heffect, step_of_next htoken heffect']
          exact ⟨_, rfl, hagrees⟩
      | fault hagrees =>
          rw [step_of_fault htoken heffect, step_of_fault htoken heffect']
          exact ⟨_, rfl, hagrees⟩
      | jump =>
          rw [step_of_jump htoken heffect, step_of_jump htoken heffect']
          refine ⟨t, ?_, ?_⟩
          · cases code.partner? _ s.index <;> rfl
          · cases code.partner? _ s.index <;> exact h

/-- A cell that no token accesses keeps its value. -/
theorem steps_cells_eq {s : State} {i : Nat}
    (hi : forall n, ¬ (steps setup code n s).Accesses setup.mode code i) (n : Nat) :
    (steps setup code n s).state.tape.cells[i]? = s.tape.cells[i]? := by
  induction n with
  | zero =>
      rfl
  | succ n ih =>
      rw [steps_succ_last]
      have hn := hi n
      cases hresult : steps setup code n s with
      | running u =>
          rw [hresult] at hn ih
          exact (step_cells_eq hn).trans ih
      | finished u =>
          rw [hresult] at ih
          exact ih
      | faulted f u =>
          rw [hresult] at ih
          exact ih

/-- Two runs stay in step on tapes that agree on all cells that the first one
accesses. -/
theorem steps_framed {A : Nat -> Prop} {s : State} {t : Tape} (h : s.tape.AgreesOn A t)
    (hA : forall n i, (steps setup code n s).Accesses setup.mode code i -> A i) (n : Nat) :
    exists t', steps setup code n (s.withTape t) = (steps setup code n s).withTape t' ∧
      (steps setup code n s).state.tape.AgreesOn A t' := by
  induction n with
  | zero =>
      exact ⟨t, rfl, h⟩
  | succ n ih =>
      rcases ih with ⟨t', hsame, hagrees⟩
      have hn := hA n
      rw [steps_succ_last, steps_succ_last, hsame]
      cases hresult : steps setup code n s with
      | running u =>
          rw [hresult] at hn hagrees
          exact step_framed hagrees hn
      | finished u =>
          rw [hresult] at hagrees
          exact ⟨t', rfl, hagrees⟩
      | faulted f u =>
          rw [hresult] at hagrees
          exact ⟨t', rfl, hagrees⟩

end

theorem Accesses.withTape {mode : InputMode} {c : Char} {m : Memory} {i : Nat} {t : Tape}
    (h : Accesses mode c m i) (hsize : t.size = m.tape.size) :
    Accesses mode c (m.withTape t) i := by
  have hplace : t.place? m.pointer = m.tape.place? m.pointer :=
    Tape.place?_of_size hsize m.pointer
  cases h with
  | cell hc hi =>
      exact Accesses.cell hc (hplace.trans hi)
  | byte hbyte hi =>
      exact Accesses.byte hbyte (hplace.trans hi)

/-- What a machine accesses depends on the size of its tape only. -/
theorem Step.accesses_withTape {mode : InputMode} {code : Tokens} {now : Step} {t : Tape}
    (hsize : t.size = now.state.tape.size) (i : Nat) :
    (now.withTape t).Accesses mode code i <-> now.Accesses mode code i := by
  cases now with
  | running s =>
      constructor
      · intro h
        rcases h with ⟨c, hc, haccess⟩
        exact ⟨c, hc, haccess.withTape (t := s.tape) hsize.symm⟩
      · intro h
        rcases h with ⟨c, hc, haccess⟩
        exact ⟨c, hc, haccess.withTape hsize⟩
  | finished s =>
      exact Iff.rfl
  | faulted f s =>
      exact Iff.rfl

/-!
## Runs
-/

def Ending.withTape (t : Tape) (e : Ending) : Ending :=
  ⟨e.state.withTape t, e.fault⟩

theorem Step.ending?_withTape (t : Tape) (result : Step) :
    (result.withTape t).ending? = result.ending?.map (Ending.withTape t) := by
  cases result <;> rfl

/-- The report with another tape before the interpreter was cleared. -/
def RunReport.withTape (t : Tape) (r : RunReport) : RunReport :=
  { r with before := { r.before with tape := t } }

theorem Tape.clear_of_size {t t' : Tape} (hsize : t'.size = t.size) : t'.clear = t.clear := by
  have hcells : t'.cells.size = t.cells.size := hsize
  exact (Tape.mk.injEq _ _ _ _).mpr (by rw [hcells])

namespace Interpreter

def withTape (t : Tape) (itp : Interpreter) : Interpreter :=
  { itp with tape := t }

/-- Some token of the run accesses a cell. -/
def Accesses (itp : Interpreter) (source : List Char) (input : Input) (i : Nat) : Prop :=
  exists n now, itp.moment? source input n = some now ∧
    now.Accesses itp.settings.inputMode (itp.settings.tokens source) i

section

variable {itp : Interpreter} (hsetup : itp.settings.setup? = none)
include hsetup

theorem moment?_eq_none (source : List Char) (input : Input) (n : Nat) :
    itp.moment? source input n = none := congrArg (Option.map _) hsetup

theorem run_eq_error (source : List Char) (input : Input) (fuel : Nat) :
    itp.run fuel source input = .error .limitNotInteger := by
  rw [run, hsetup]

theorem not_accesses (source : List Char) (input : Input) (i : Nat) :
    ¬ itp.Accesses source input i := by
  rintro ⟨n, now, hnow, _⟩
  rw [moment?_eq_none hsetup] at hnow
  cases hnow

end

theorem forget_report_withTape (itp : Interpreter) (tape : Tape) (first : Log.Entry) {e : Ending}
    {t : Tape} (known known' : JumpTable) (hsize : t.size = e.state.tape.size) :
    ((itp.withTape tape).report first (e.withTape t) known').forget =
      (itp.report first e known).forget.withTape t := by
  have hclear : (e.withTape t).state.tape.clear = e.state.tape.clear := Tape.clear_of_size hsize
  simp only [report, reset, RunReport.forget, hclear]
  rfl

section

variable {itp : Interpreter} {setup : Setup} (hsetup : itp.settings.setup? = some setup)
variable (source : List Char) (input : Input)
include hsetup

theorem accesses_iff_steps (i : Nat) :
    itp.Accesses source input i <-> exists n,
      (steps setup (itp.settings.tokens source) n (itp.start input)).Accesses setup.mode
        (itp.settings.tokens source) i := by
  unfold Accesses
  rw [Settings.mode_of_setup? hsetup]
  simp only [moment?_eq_steps hsetup, Option.some.injEq, exists_eq_left']

theorem cells_of_moment? (i : Nat) (hi : ¬ itp.Accesses source input i) (n : Nat) :
    (steps setup (itp.settings.tokens source) n (itp.start input)).state.tape.cells[i]? =
      itp.tape.cells[i]? := by
  apply steps_cells_eq
  intro k haccess
  exact hi ((accesses_iff_steps hsetup source input i).mpr ⟨k, haccess⟩)

theorem tape_of_run {fuel : Nat} {r : RunReport}
    (hrun : itp.run fuel source input = .ok (some r)) :
    (steps setup (itp.settings.tokens source) fuel (itp.start input)).state.tape =
      r.before.tape := by
  rcases scanning_of_run hrun with ⟨setup', e, known, hsetup', hend, rfl⟩
  rw [hsetup] at hsetup'
  cases hsetup'
  exact congrArg State.tape (steps_state_of_scanning hend)

theorem steps_withTape {tape : Tape}
    (h : itp.tape.AgreesOn (itp.Accesses source input) tape) (n : Nat) :
    exists t, steps setup (itp.settings.tokens source) n ((itp.withTape tape).start input) =
        (steps setup (itp.settings.tokens source) n (itp.start input)).withTape t ∧
      (steps setup (itp.settings.tokens source) n (itp.start input)).state.tape.AgreesOn
        (itp.Accesses source input) t := by
  apply steps_framed (s := itp.start input) h
  intro k i haccess
  exact (accesses_iff_steps hsetup source input i).mpr ⟨k, haccess⟩

theorem accesses_withTape {tape : Tape}
    (h : itp.tape.AgreesOn (itp.Accesses source input) tape) (i : Nat) :
    (itp.withTape tape).Accesses source input i <-> itp.Accesses source input i := by
  have hsetup' : (itp.withTape tape).settings.setup? = some setup := hsetup
  rw [accesses_iff_steps hsetup, accesses_iff_steps hsetup']
  apply exists_congr
  intro n
  rcases steps_withTape hsetup source input h n with ⟨t, hsame, hagrees⟩
  show (steps setup (itp.settings.tokens source) n _).Accesses _ (itp.settings.tokens source) i <-> _
  rw [hsame]
  exact Step.accesses_withTape hagrees.size i

theorem run_withTape {tape t : Tape} {n : Nat}
    (hsame : steps setup (itp.settings.tokens source) n ((itp.withTape tape).start input) =
      (steps setup (itp.settings.tokens source) n (itp.start input)).withTape t)
    (hsize : t.size =
      (steps setup (itp.settings.tokens source) n (itp.start input)).state.tape.size) :
    ((itp.withTape tape).run n source input).map (Option.map RunReport.forget) =
      (itp.run n source input).map (Option.map fun r => r.forget.withTape t) := by
  have hsetup' : (itp.withTape tape).settings.setup? = some setup := hsetup
  have hend' := congrArg Step.ending? hsame
  rw [Step.ending?_withTape, ← scanning_eq_ending?, ← scanning_eq_ending?] at hend'
  cases hend : scanning setup (itp.settings.tokens source) n (itp.start input) with
  | none =>
      rw [hend] at hend'
      rw [(run_eq_none_iff hsetup).mpr hend, (run_eq_none_iff hsetup').mpr hend']
      rfl
  | some e =>
      rw [hend] at hend'
      rw [steps_state_of_scanning hend] at hsize
      rcases run_of_scanning hsetup hend with ⟨known, hrun⟩
      rcases run_of_scanning hsetup' hend' with ⟨known', hrun'⟩
      rw [hrun, hrun']
      exact congrArg (fun r => Except.ok (some r))
        (forget_report_withTape itp tape _ known known' hsize)

end

/-- The frame of a run.  At every moment of it, and just before the interpreter is
cleared, the cells that the run never accesses have the values with which it started.
On every other tape of the same size that agrees on the cells that it does access, the
run passes through the same states but for the tape, accesses the same cells, ends at
the same moment with the same report but for the tape, and leaves the same values in
the accessed cells. -/
theorem run_framed (itp : Interpreter) (source : List Char) (input : Input) :
    (forall n now i, itp.moment? source input n = some now ->
      ¬ itp.Accesses source input i -> now.state.tape.cells[i]? = itp.tape.cells[i]?) ∧
    (forall fuel r i, itp.run fuel source input = .ok (some r) ->
      ¬ itp.Accesses source input i -> r.before.tape.cells[i]? = itp.tape.cells[i]?) ∧
    (forall tape, itp.tape.AgreesOn (itp.Accesses source input) tape ->
      (forall i, (itp.withTape tape).Accesses source input i <-> itp.Accesses source input i) ∧
      (forall n, exists t,
        (itp.withTape tape).moment? source input n =
          (itp.moment? source input n).map (Step.withTape t) ∧
        ((itp.withTape tape).run n source input).map (Option.map RunReport.forget) =
          (itp.run n source input).map (Option.map fun r => r.forget.withTape t) ∧
        (forall now, itp.moment? source input n = some now ->
          now.state.tape.AgreesOn (itp.Accesses source input) t) ∧
        (forall r, itp.run n source input = .ok (some r) ->
          r.before.tape.AgreesOn (itp.Accesses source input) t))) := by
  cases hsetup : itp.settings.setup? with
  | none =>
      -- Without a limit neither run starts.
      refine ⟨?_, ?_, ?_⟩
      · intro n now i hnow
        rw [moment?_eq_none hsetup] at hnow
        cases hnow
      · intro fuel r i hrun
        rw [run_eq_error hsetup] at hrun
        cases hrun
      · intro tape h
        have hsetup' : (itp.withTape tape).settings.setup? = none := hsetup
        constructor
        · intro i
          exact iff_of_false (not_accesses hsetup' source input i) (not_accesses hsetup source input i)
        · intro n
          rw [moment?_eq_none hsetup, moment?_eq_none hsetup', run_eq_error hsetup,
            run_eq_error hsetup']
          refine ⟨tape, rfl, rfl, ?_, ?_⟩
          · intro now hnow
            cases hnow
          · intro r hrun
            cases hrun
  | some setup =>
      refine ⟨?_, ?_, ?_⟩
      · intro n now i hnow hi
        rw [moment?_eq_steps hsetup] at hnow
        cases hnow
        exact cells_of_moment? hsetup source input i hi n
      · intro fuel r i hrun hi
        rw [← tape_of_run hsetup source input hrun]
        exact cells_of_moment? hsetup source input i hi fuel
      · intro tape h
        have hsetup' : (itp.withTape tape).settings.setup? = some setup := hsetup
        refine ⟨accesses_withTape hsetup source input h, ?_⟩
        intro n
        rcases steps_withTape hsetup source input h n with ⟨t, hsame, hagrees⟩
        refine ⟨t, ?_, run_withTape hsetup source input hsame hagrees.size, ?_, ?_⟩
        · rw [moment?_eq_steps hsetup, moment?_eq_steps hsetup']
          exact congrArg some hsame
        · intro now hnow
          rw [moment?_eq_steps hsetup] at hnow
          cases hnow
          exact hagrees
        · intro r hrun
          rw [← tape_of_run hsetup source input hrun]
          exact hagrees

/-- The pointer goes round to the position `-1`, which is the last of three cells, and
only that cell is accessed.  The others may hold anything. -/
theorem run_framed_last_cell :
    let itp : Interpreter :=
      { settings := { tapeSize := .int 0, wrapBuffer := .bool true }, tape := Tape.blank 2 }
    let tape : Tape := ⟨#[7, 9, 0], by decide⟩
    let source := ['<', '+']
    (forall i, itp.Accesses source default i <-> i = 2) ∧
      itp.tape.AgreesOn (itp.Accesses source default) tape ∧
      (forall i, (itp.withTape tape).Accesses source default i <-> i = 2) ∧
      exists t, t.cells[2]? = some 1 ∧
        ((itp.withTape tape).run 3 source default).map (Option.map RunReport.forget) =
          (itp.run 3 source default).map (Option.map fun r => r.forget.withTape t) := by
  intro itp tape source
  have haccesses : forall i, itp.Accesses source default i <-> i = 2 := by
    intro i
    constructor
    · rintro ⟨n, now, hnow, haccess⟩
      match n with
      | 0 =>
          cases hnow
          rcases haccess with ⟨c, hc, haccess⟩
          cases hc
          exact absurd haccess.uses_cell.1 (by decide)
      | 1 =>
          cases hnow
          rcases haccess with ⟨c, hc, haccess⟩
          exact (Option.some.inj haccess.uses_cell.2).symm
      | 2 =>
          cases hnow
          rcases haccess with ⟨c, hc, haccess⟩
          cases hc
      | n + 3 =>
          cases hnow
          cases haccess
    · rintro rfl
      exact ⟨1, _, rfl, '+', rfl, Accesses.cell (by decide) rfl⟩
  have hagrees : itp.tape.AgreesOn (itp.Accesses source default) tape := by
    refine ⟨rfl, ?_⟩
    intro i hi
    rw [(haccesses i).mp hi]
    rfl
  rcases run_framed itp source default with ⟨_, _, hframed⟩
  rcases hframed tape hagrees with ⟨hsame, hruns⟩
  rcases hruns 3 with ⟨t, _, hrun, _, hreport⟩
  refine ⟨haccesses, hagrees, fun i => (hsame i).trans (haccesses i), t, ?_, hrun⟩
  have hended : exists r, itp.run 3 source default = .ok (some r) ∧
      r.before.tape.cells[2]? = some 1 := ⟨_, rfl, rfl⟩
  rcases hended with ⟨r, hr, hcell⟩
  rw [(hreport r hr).cells 2 ((haccesses 2).mpr rfl), hcell]

end Interpreter

end TapeMachine
