import TapeMachine.Proofs.Machine.Lockstep

/-!
# Larger tapes

Where the pointer does not go round, a larger tape changes nothing until the
smaller one would be left at its right end.  Up to there the larger tape is the
smaller one followed by zeros, which no instruction reads.
-/

namespace TapeMachine

/-!
## Extended tapes
-/

namespace Tape

/-- The tape with `d` more cells, all of them zero, at its right end. -/
def extend (d : Nat) (t : Tape) : Tape :=
  ⟨t.cells ++ Array.replicate d 0, by
    rw [Array.size_append]
    exact Nat.add_pos_left t.size_pos _⟩

theorem size_extend (d : Nat) (t : Tape) : (t.extend d).size = t.size + d := by
  simp [extend, size]

theorem extend_blank (d n : Nat) : (blank n).extend d = blank (n + d) := by
  simp [extend, blank, Nat.add_right_comm]

theorem read?_extend (d : Nat) {t : Tape} {p : Int} (hleft : 0 ≤ p) (hright : p < t.size) :
    (t.extend d).read? p = t.read? p := by
  have hinside : p.toNat < t.cells.size := (Int.toNat_lt hleft).mpr hright
  have hright' : p < (t.extend d).size := by
    rw [size_extend]
    omega
  rw [read?_of_inside hleft hright, read?_of_inside hleft hright', extend,
    Array.getElem?_append_left hinside]

theorem read?_extend_of_le (d : Nat) {t : Tape} {p : Int} (hleft : t.size ≤ p)
    (hright : p < t.size + d) : (t.extend d).read? p = some 0 := by
  have hbehind : t.cells.size ≤ p.toNat := by
    change (t.cells.size : Int) ≤ p at hleft
    omega
  have hright' : p < (t.extend d).size := by
    rw [size_extend]
    exact hright
  rw [read?_of_inside (by omega) hright', extend, Array.getElem?_append_right hbehind,
    Array.getElem?_replicate, if_pos]
  change t.size ≤ p.toNat at hbehind
  change p.toNat - t.size < d
  omega

theorem write?_extend (d : Nat) {t : Tape} {p : Int} (hleft : 0 ≤ p) (hright : p < t.size)
    (v : UInt8) : (t.extend d).write? p v = (t.write? p v).map (extend d) := by
  have hright' : p < (t.extend d).size := by
    rw [size_extend]
    omega
  rcases write?_of_inside hleft hright v with ⟨t₁, hwrite, hsize, hread⟩
  rcases write?_of_inside hleft hright' v with ⟨t₂, hwrite', hsize', hread'⟩
  rw [hwrite, hwrite', Option.map_some]
  congr 1
  apply eq_of_read?
  · rw [hsize', size_extend, size_extend, hsize]
  · intro q hq hq'
    rw [hsize'] at hq'
    rw [hread' q hq hq']
    by_cases hinside : q < t.size
    · rw [read?_extend d hq hinside, read?_extend d hq (by rwa [hsize]), hread q hq hinside]
    · -- Behind the smaller tape nothing is stored.
      rw [size_extend] at hq'
      have hbehind : (t.size : Int) ≤ q := Int.not_lt.mp hinside
      have hother : q ≠ p := by omega
      rw [if_neg hother, read?_extend_of_le d hbehind (by omega),
        read?_extend_of_le d (by rwa [hsize]) (by rw [hsize]; omega)]

end Tape

/-!
## Lockstep
-/

/-- The tape with `d` more zeros, and the pointer where it is. -/
def extension (d : Nat) : Reshape where
  tape := Tape.extend d
  pointer := fun _ p => p

def Fault.IsOverflow : Fault -> Prop
  | overflow _ => True
  | _ => False

theorem Fault.eq_overflow {e : Fault} (h : e.IsOverflow) : exists b, e = .overflow b := by
  cases e with
  | overflow b =>
      exact ⟨b, rfl⟩
  | _ =>
      exact False.elim h

namespace Memory

theorem OnTape.cell?_extension {setup : Setup} {m : Memory} (h : m.OnTape setup) (d : Nat) :
    (m.reshape (extension d)).cell? = m.cell? := by
  exact Tape.read?_extend d h.left h.right

theorem OnTape.store?_extension {setup : Setup} {m : Memory} (h : m.OnTape setup) (d : Nat)
    (v : UInt8) :
    (m.reshape (extension d)).store? v = (m.store? v).map (Memory.reshape (extension d)) := by
  have hwrite := Tape.write?_extend d h.left h.right v
  change ((m.tape.extend d).write? m.pointer v).map _ = _
  rw [hwrite, Memory.store?, Option.map_map, Option.map_map]
  rfl

end Memory

theorem lockstep_extension {setup setup' : Setup} {d : Nat} (hwrap : setup.wrap = false)
    (hwrap' : setup'.wrap = false) (hmode : setup'.mode = setup.mode)
    (hlimit : setup'.limit = setup.limit + d) :
    Lockstep setup setup' (Memory.OnTape setup) Fault.IsOverflow (extension d) := by
  apply lockstep_of_onTape hmode
  · intro m hm
    exact hm.cell?_extension d
  · intro m hm
    exact hm.store?_extension d
  · intro a m hmove hm hgoes
    rcases hmove with rfl | rfl
    · rw [effect_left, effect_left, hwrap, hwrap']
      change (if 0 < m.pointer then _ else _) = _
      split <;> rfl
    · -- With room on the smaller tape there is room on the larger one; without
      -- it the smaller tape overflows.
      by_cases hroom : m.pointer < setup.limit - 1
      · have hroom' : (m.reshape (extension d)).pointer < setup'.limit - 1 := by
          change m.pointer < setup'.limit - 1
          omega
        rw [(Performs.right hroom).effect_eq, (Performs.right hroom').effect_eq]
        rfl
      · apply absurd ?_ hgoes
        rw [(Fails.right (Int.not_lt.mp hroom) hwrap).effect_eq]
        trivial

/-- Only a move to the right from the last position overflows. -/
theorem step_of_overflow {setup : Setup} {code : Tokens} {s t : State} {b : Int}
    (h : step setup code s = .faulted (.overflow b) t) :
    code[s.index]? = some Action.right.toChar ∧ t = s ∧ b = setup.limit ∧
      setup.limit - 1 ≤ s.pointer := by
  cases stepsTo_of_step h with
  | fault htoken heffect =>
      cases does_of_effect heffect with
      | fails hfails =>
          cases hfails with
          | right hend _ =>
              exact ⟨htoken, rfl, rfl, hend⟩

/-- Where the smaller tape overflows, the larger one goes on to its next cell. -/
theorem step_beyond {setup setup' : Setup} {code : Tokens} {s t : State} {b : Int} {d : Nat}
    (hs : s.memory.OnTape setup) (hlimit : setup.limit < setup'.limit)
    (h : step setup code s = .faulted (.overflow b) t) :
    step setup' code (s.reshape (extension d)) =
      .running (State.next { s.reshape (extension d) with pointer := setup.limit }) := by
  rcases step_of_overflow h with ⟨htoken, _, _, hend⟩
  have hlast : s.pointer + 1 = setup.limit := by
    have hsize := hs.limit
    have hright : s.pointer < s.memory.tape.size := hs.right
    omega
  have hroom : (s.memory.reshape (extension d)).pointer < setup'.limit - 1 := by
    change s.pointer < setup'.limit - 1
    omega
  have hmove := (Performs.right hroom).effect_eq
  rw [← s.stateAt_memory, Memory.reshape_stateAt, step_of_next htoken hmove]
  change Step.running (Memory.stateAt
    { s.memory.reshape (extension d) with pointer := s.pointer + 1 } _ _) = _
  rw [hlast]
  rfl

/-!
## Runs of two interpreters
-/

theorem Settings.setup?_setTapeSize (settings : Settings) (size : Int) :
    (settings.setTapeSize (.int size)).setup? =
      some ⟨size, settings.wrapBuffer.truthy, settings.inputMode⟩ :=
  rfl

namespace Interpreter

variable {allocate : Allocator}

/-- A new tape is a smaller new tape extended. -/
theorem tape_of_make_le {settings : Settings} {n m : Nat} {small large : Interpreter}
    (hsmall : make allocate (settings.setTapeSize (.int n)) = .ok small)
    (hlarge : make allocate (settings.setTapeSize (.int m)) = .ok large) (hle : n ≤ m) :
    small.tape.size = n ∧ large.tape = small.tape.extend (m - n) := by
  rcases blank_of_ofSetting (make_eq_ok_iff.mp hsmall).1 with ⟨a, ha⟩
  rcases blank_of_ofSetting (make_eq_ok_iff.mp hlarge).1 with ⟨b, hb⟩
  have hn : (n : Int) = small.tape.size := Value.int.inj (of_make hsmall).2
  have hm : (m : Int) = large.tape.size := Value.int.inj (of_make hlarge).2
  have hsum : b = a + (m - n) := by
    rw [ha, Tape.size_blank] at hn
    rw [hb, Tape.size_blank] at hm
    omega
  refine ⟨by omega, ?_⟩
  rw [ha, hb, Tape.extend_blank, hsum]

/-- New interpreters of the same settings but for the size of the tape are in
lockstep. -/
theorem lockstep_of_make_le {settings : Settings} {n m : Nat} {small large : Interpreter}
    (hwrap : settings.wrapBuffer.truthy = false) (hle : n ≤ m)
    (hsmall : make allocate (settings.setTapeSize (.int n)) = .ok small)
    (hlarge : make allocate (settings.setTapeSize (.int m)) = .ok large) (input : Input) :
    exists setup setup', small.settings.setup? = some setup ∧
      large.settings.setup? = some setup' ∧ setup.limit = n ∧ setup'.limit = m ∧
      (small.start input).memory.OnTape setup ∧
      large.start input = (small.start input).reshape (extension (m - n)) ∧
      Lockstep setup setup' (Memory.OnTape setup) Fault.IsOverflow (extension (m - n)) := by
  rcases tape_of_make_le hsmall hlarge hle with ⟨hsize, htape⟩
  refine ⟨⟨n, settings.wrapBuffer.truthy, settings.inputMode⟩,
    ⟨m, settings.wrapBuffer.truthy, settings.inputMode⟩, ?_, ?_, rfl, rfl, ?_, ?_, ?_⟩
  · rw [settings_of_make hsmall]
    exact settings.setup?_setTapeSize n
  · rw [settings_of_make hlarge]
    exact settings.setup?_setTapeSize m
  · exact start_onTape hsmall (congrArg Int.ofNat hsize.symm) input
  · have hpointer : large.pointer = small.pointer := by
      rw [(of_make hlarge).1, (of_make hsmall).1]
    unfold start State.reshape
    rw [htape, hpointer]
    rfl
  · apply lockstep_extension
    · exact hwrap
    · exact hwrap
    · rfl
    · change (m : Int) = n + (m - n : Nat)
      omega

/-- A larger tape changes nothing but where the pointer overflows.  As long as the
run on the smaller tape does not overflow, the run on the larger one has the same
end after the same number of steps, and its tape is the smaller one followed by
zeros.  A run that overflows on the smaller tape passes through the same states
on the larger one, and there goes on to the first of the further cells, if there
is one. -/
theorem run_larger_tape (allocate : Allocator) (settings : Settings) (n m : Nat)
    (small large : Interpreter) (source : List Char) (input : Input)
    (hwrap : settings.wrapBuffer.truthy = false)
    (hle : n ≤ m) (hsmall : make allocate (settings.setTapeSize (.int n)) = .ok small)
    (hlarge : make allocate (settings.setTapeSize (.int m)) = .ok large) :
    ((forall fuel r b, small.run fuel source input = .ok (some r) ->
        r.result ≠ .error (.overflow b)) ->
      forall fuel, RunsRelated (RunReport.Reshaped (extension (m - n)))
        (small.run fuel source input) (large.run fuel source input)) ∧
    forall fuel r b, small.run fuel source input = .ok (some r) ->
      r.result = .error (.overflow b) ->
      b = n ∧ exists k s,
        small.moment? source input k = some (.running s) ∧
        small.moment? source input (k + 1) = some (.faulted (.overflow b) s) ∧
        (forall j, j ≤ k -> exists t,
          small.moment? source input j = some (.running t) ∧
          large.moment? source input j = some (.running (t.reshape (extension (m - n))))) ∧
        (n < m -> large.moment? source input (k + 1) =
          some (.running (State.next { s.reshape (extension (m - n)) with pointer := n }))) := by
  rcases lockstep_of_make_le hwrap hle hsmall hlarge input with
    ⟨setup, setup', hsetup, hsetup', hlimit, hlimit', hstart, hstart', hlock⟩
  have htokens : large.settings.tokens source = small.settings.tokens source := by
    rw [settings_of_make hsmall, settings_of_make hlarge]
    rfl
  constructor
  · intro hnever fuel
    apply runsRelated_of_steps hsetup hsetup' htokens
    rw [hstart']
    apply hlock.steps_eq hstart
    intro hescapes
    cases hsteps : steps setup (small.settings.tokens source) fuel (small.start input) with
    | running t =>
        rw [hsteps] at hescapes
        exact hescapes
    | finished t =>
        rw [hsteps] at hescapes
        exact hescapes
    | faulted e t =>
        rw [hsteps] at hescapes
        rcases Fault.eq_overflow hescapes with ⟨b, rfl⟩
        rcases run_of_steps_faulted hsetup hsteps with ⟨r, hrun, hresult⟩
        exact hnever fuel r b hrun hresult
  · intro fuel r b hrun hresult
    rcases steps_of_run_error hsetup hrun hresult with ⟨t, hfault⟩
    rcases steps_before_fault hfault with ⟨k, s, hbefore, hlast⟩
    rcases step_of_overflow hlast with ⟨_, rfl, rfl, _⟩
    refine ⟨hlimit, k, t, ?_, ?_, ?_, ?_⟩
    · rw [moment?_eq_steps hsetup, hbefore]
    · rw [moment?_eq_steps hsetup, steps_add, hbefore, Step.andThen, steps_one, hlast]
    · intro j hj
      rcases steps_running_of_le hbefore hj with ⟨u, hu⟩
      refine ⟨u, ?_, ?_⟩
      · rw [moment?_eq_steps hsetup, hu]
      · rw [moment?_eq_steps hsetup', htokens, hstart', hlock.steps_of_running hstart hu]
    · intro hlt
      have hon := onTape_of_running hstart hbefore
      have hroom : setup.limit < setup'.limit := by omega
      have hbeyond := step_beyond (d := m - n) hon hroom hlast
      rw [hlimit] at hbeyond
      rw [moment?_eq_steps hsetup', htokens, hstart', steps_add,
        hlock.steps_of_running hstart hbefore, Step.andThen, steps_one]
      exact congrArg some hbeyond

/-- On one cell the second token overflows; on three cells it is a move. -/
theorem run_larger_tape_one :
    let settings : Settings := { tapeSize := .int 1, wrapBuffer := .bool false }
    let small : Interpreter :=
      { settings := settings.setTapeSize (.int 1), tape := Tape.blank 0 }
    let large : Interpreter :=
      { settings := settings.setTapeSize (.int 3), tape := Tape.blank 2 }
    let source := "+>.".toList
    let input := Input.ofString ""
    settings.wrapBuffer.truthy = false ∧ 1 ≤ 3 ∧
      make (fun _ => none) (settings.setTapeSize (.int 1)) = .ok small ∧
      make (fun _ => none) (settings.setTapeSize (.int 3)) = .ok large ∧
      (exists r, small.run 2 source input = .ok (some r) ∧ r.result = .error (.overflow 1)) ∧
      exists k s, small.moment? source input k = some (.running s) ∧
        small.moment? source input (k + 1) = some (.faulted (.overflow 1) s) ∧
        (forall j, j ≤ k -> exists t,
          small.moment? source input j = some (.running t) ∧
          large.moment? source input j = some (.running (t.reshape (extension 2)))) ∧
        large.moment? source input (k + 1) =
          some (.running (State.next { s.reshape (extension 2) with pointer := 1 })) := by
  intro settings small large source input
  have hwrap : settings.wrapBuffer.truthy = false := by decide
  have hle : 1 ≤ 3 := by decide
  have hsmall : make (fun _ => none) (settings.setTapeSize (.int 1)) = .ok small := rfl
  have hlarge : make (fun _ => none) (settings.setTapeSize (.int 3)) = .ok large := rfl
  have hrun : exists r, small.run 2 source input = .ok (some r) ∧
      r.result = .error (.overflow 1) := ⟨_, rfl, rfl⟩
  refine ⟨hwrap, hle, hsmall, hlarge, hrun, ?_⟩
  rcases hrun with ⟨r, hrun, hresult⟩
  rcases (run_larger_tape _ settings 1 3 small large source input hwrap hle hsmall hlarge).2 2 r 1
    hrun hresult with ⟨_, k, s, hbefore, hfault, hsame, hbeyond⟩
  exact ⟨k, s, hbefore, hfault, hsame, hbeyond (by decide)⟩

end Interpreter

end TapeMachine
