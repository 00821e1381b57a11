import TapeMachine.Proofs.Machine.Lockstep

/-!
# Going round instead of stopping

Whether the pointer goes round is asked only where a move leads beyond an end of
the tape.  Two machines that differ in nothing else are therefore equal, state by
state, until the one that stops is at fault; the other then goes on from the
opposite end.
-/

namespace TapeMachine

/-- Where the pointer goes instead of the fault, when it goes round. -/
def Fault.roundTo? (limit : Int) : Fault -> Option Int
  | underflow _ => some (limit - 1)
  | overflow _ => some 0
  | unmatched _ _ => none
  | notHex _ => none
  | outOfTape _ _ => none

def Setup.goingRound (setup : Setup) : Setup :=
  { setup with wrap := true }

/-- The tape and pointer as they are. -/
def unchanged : Reshape where
  tape := id
  pointer := fun _ p => p

theorem Step.reshape_unchanged (result : Step) : result.reshape unchanged = result := by
  cases result <;> rfl

/-!
## Instructions and steps
-/

section

variable {setup : Setup}

theorem effect_goingRound (hstops : setup.wrap = false) {a : Action} {m : Memory}
    (hgoes : ¬ (effect setup a.toChar m).Escapes fun e => (e.roundTo? setup.limit).isSome) :
    effect setup.goingRound a.toChar m = effect setup a.toChar m := by
  cases a with
  | left =>
      by_cases hpos : 0 < m.pointer
      · rw [(Performs.left hpos).effect_eq, (Performs.left hpos).effect_eq]
      · apply absurd _ hgoes
        rw [(Fails.left (Int.not_lt.mp hpos) hstops).effect_eq]
        exact rfl
  | right =>
      by_cases hroom : m.pointer < setup.limit - 1
      · have hroom' : m.pointer < setup.goingRound.limit - 1 := hroom
        rw [(Performs.right hroom).effect_eq, (Performs.right hroom').effect_eq]
      · apply absurd _ hgoes
        rw [(Fails.right (Int.not_lt.mp hroom) hstops).effect_eq]
        exact rfl
  | increment =>
      rw [effect_increment, effect_increment]
  | decrement =>
      rw [effect_decrement, effect_decrement]
  | write =>
      rw [effect_write, effect_write]
  | read =>
      rw [effect_read, effect_read]
      rfl

theorem lockstep_goingRound (hstops : setup.wrap = false) :
    Lockstep setup setup.goingRound (fun _ => True)
      (fun e => (e.roundTo? setup.limit).isSome) unchanged where
  performs := by
    intro _ _ _ _ _
    trivial
  fails := by
    intro _ _ _ _ _ _
    trivial
  acts := by
    intro a m _ hgoes
    have hreshape : (effect setup a.toChar m).reshape unchanged = effect setup a.toChar m := by
      cases effect setup a.toChar m <;> rfl
    rw [hreshape]
    exact effect_goingRound hstops hgoes
  cell? := by
    intro m _
    rfl
  outside := by
    intro m _ _
    rfl

/-- Where the one machine is at fault with its pointer, the other goes round; the
fault leaves the state as it is. -/
theorem step_goingRound {code : Tokens} {s t : State} {f : Fault} {p : Int}
    (h : step setup code s = .faulted f t) (hround : f.roundTo? setup.limit = some p) :
    t = s ∧ step setup.goingRound code s = .running (State.next { s with pointer := p }) := by
  cases stepsTo_of_step h with
  | unmatched _ _ _ =>
      cases hround
  | fault htoken heffect =>
      cases does_of_effect heffect with
      | outside _ =>
          cases hround
      | fails hfails =>
          cases hfails with
          | left hend _ =>
              cases hround
              have hmove : Performs setup.goingRound .left s.memory _ :=
                Performs.leftRound hend rfl
              exact ⟨rfl, step_of_next htoken hmove.effect_eq s.steps⟩
          | right hend _ =>
              cases hround
              have hmove : Performs setup.goingRound .right s.memory _ :=
                Performs.rightRound hend rfl
              exact ⟨rfl, step_of_next htoken hmove.effect_eq s.steps⟩
          | _ =>
              cases hround

end

/-!
## Runs of an interpreter
-/

namespace Interpreter

def withWrapBuffer (itp : Interpreter) (v : Value) : Interpreter :=
  { itp with settings := itp.settings.setFlag .wrapBuffer v }

theorem setup?_withWrapBuffer {itp : Interpreter} {limit : Int} {v w : Value}
    (hlimit : itp.settings.tapeSize.asInt? = some limit) (hv : v.truthy = false)
    (hw : w.truthy = true) :
    exists setup, setup.limit = limit ∧ setup.wrap = false ∧
      (itp.withWrapBuffer v).settings.setup? = some setup ∧
      (itp.withWrapBuffer w).settings.setup? = some setup.goingRound := by
  have hsetup : forall u, (itp.withWrapBuffer u).settings.setup? =
      some { limit := limit, wrap := u.truthy, mode := itp.settings.inputMode } := by
    intro u
    change itp.settings.tapeSize.asInt?.map _ = _
    rw [hlimit]
    rfl
  refine ⟨_, rfl, hv, hsetup v, ?_⟩
  rw [hsetup w, hw]
  rfl

/-- Going round is a conservative extension of stopping.  Where no move is at fault
in the run that stops, the run that goes round is the same run, whether it ends or
not.  Where a move is at fault, both runs have come there through the same states,
and the one that goes round continues with the pointer at the opposite end. -/
theorem run_goingRound (itp : Interpreter) (v w : Value) (limit : Int) (source : List Char)
    (input : Input) (hlimit : itp.settings.tapeSize.asInt? = some limit)
    (hv : v.truthy = false) (hw : w.truthy = true) :
    ((forall fuel r f, (itp.withWrapBuffer v).run fuel source input = .ok (some r) ->
        r.result = .error f -> f.roundTo? limit = none) ->
      (forall n, (itp.withWrapBuffer w).moment? source input n =
        (itp.withWrapBuffer v).moment? source input n) ∧
      forall fuel, RunsRelated (RunReport.Reshaped unchanged)
        ((itp.withWrapBuffer v).run fuel source input)
        ((itp.withWrapBuffer w).run fuel source input)) ∧
    forall fuel r f p, (itp.withWrapBuffer v).run fuel source input = .ok (some r) ->
      r.result = .error f -> f.roundTo? limit = some p ->
      exists k s,
        (itp.withWrapBuffer v).moment? source input k = some (.running s) ∧
        (itp.withWrapBuffer v).moment? source input (k + 1) = some (.faulted f s) ∧
        (forall j, j ≤ k -> (itp.withWrapBuffer w).moment? source input j =
          (itp.withWrapBuffer v).moment? source input j) ∧
        (itp.withWrapBuffer w).moment? source input (k + 1) =
          some (.running (State.next { s with pointer := p })) := by
  rcases setup?_withWrapBuffer hlimit hv hw with ⟨setup, rfl, hstops, hsetup, hsetup'⟩
  have hlock := lockstep_goingRound hstops
  have htokens : (itp.withWrapBuffer w).settings.tokens source =
      (itp.withWrapBuffer v).settings.tokens source := rfl
  have hstart : (itp.withWrapBuffer w).start input =
      ((itp.withWrapBuffer v).start input).reshape unchanged := rfl
  constructor
  · intro hnever
    have hsteps : forall n,
        steps setup.goingRound ((itp.withWrapBuffer v).settings.tokens source) n
            ((itp.withWrapBuffer w).start input) =
          (steps setup ((itp.withWrapBuffer v).settings.tokens source) n
            ((itp.withWrapBuffer v).start input)).reshape unchanged := by
      intro n
      rw [hstart]
      apply hlock.steps_eq trivial
      apply not_escapes_of_run hsetup
      intro fuel r f hrun herror
      rw [hnever fuel r f hrun herror]
      exact Bool.false_ne_true
    constructor
    · intro n
      rw [moment?_eq_steps hsetup, moment?_eq_steps hsetup', htokens, hsteps,
        Step.reshape_unchanged]
    · intro fuel
      exact runsRelated_of_steps hsetup hsetup' htokens (hsteps fuel)
  · intro fuel r f p hrun hresult hround
    rcases steps_of_run_error hsetup hrun hresult with ⟨t, hfault⟩
    rcases steps_before_fault hfault with ⟨k, s, hbefore, hlast⟩
    rcases step_goingRound hlast hround with ⟨rfl, hgoes⟩
    have hbefore' : steps setup.goingRound ((itp.withWrapBuffer v).settings.tokens source) k
        ((itp.withWrapBuffer w).start input) = .running t :=
      hlock.steps_of_running trivial hbefore
    refine ⟨k, t, ?_, ?_, ?_, ?_⟩
    · rw [moment?_eq_steps hsetup, hbefore]
    · rw [moment?_eq_steps hsetup, steps_add, hbefore, Step.andThen, steps_one, hlast]
    · intro j hj
      rcases steps_running_of_le hbefore hj with ⟨u, hu⟩
      rw [moment?_eq_steps hsetup, moment?_eq_steps hsetup', htokens, hu, hstart,
        hlock.steps_of_running trivial hu]
      rfl
    · rw [moment?_eq_steps hsetup', htokens, steps_add, hbefore', Step.andThen, steps_one, hgoes]

/-- On two cells the second token falls off the left end, or goes round to the
last cell. -/
theorem run_goingRound_two :
    let itp : Interpreter := { settings := { tapeSize := .int 2 }, tape := Tape.blank 1 }
    let v : Value := .bool false
    let w : Value := .text "yes"
    let source := "+<.".toList
    let input := Input.ofString ""
    itp.settings.tapeSize.asInt? = some 2 ∧ v.truthy = false ∧ w.truthy = true ∧
      (exists r, (itp.withWrapBuffer v).run 2 source input = .ok (some r) ∧
        r.result = .error (.underflow 0)) ∧
      exists k s,
        (itp.withWrapBuffer v).moment? source input k = some (.running s) ∧
        (itp.withWrapBuffer v).moment? source input (k + 1) =
          some (.faulted (.underflow 0) s) ∧
        (forall j, j ≤ k -> (itp.withWrapBuffer w).moment? source input j =
          (itp.withWrapBuffer v).moment? source input j) ∧
        (itp.withWrapBuffer w).moment? source input (k + 1) =
          some (.running (State.next { s with pointer := 1 })) := by
  intro itp v w source input
  have hlimit : itp.settings.tapeSize.asInt? = some 2 := rfl
  have hv : v.truthy = false := by decide
  have hw : w.truthy = true := by decide
  have hrun : exists r, (itp.withWrapBuffer v).run 2 source input = .ok (some r) ∧
      r.result = .error (.underflow 0) := ⟨_, rfl, rfl⟩
  refine ⟨hlimit, hv, hw, hrun, ?_⟩
  rcases hrun with ⟨r, hrun, hresult⟩
  exact (run_goingRound itp v w 2 source input hlimit hv hw).2 2 r _ 1 hrun hresult rfl

end Interpreter

end TapeMachine
