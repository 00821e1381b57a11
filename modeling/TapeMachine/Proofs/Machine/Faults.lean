import TapeMachine.Proofs.Machine.Lockstep
import TapeMachine.Proofs.Machine.Reading
import TapeMachine.Proofs.Program.StackMatching

/-!
# Faults and their causes

A run is stopped by a fault of the language for one of four causes, each of which
can be told from the token and the state at which the run stands.  The fault
carries what its cause names, and the tape, the pointer and the output are as they
were before the token; only a refused line of input is gone.
-/

namespace TapeMachine

/-!
## Spelled bytes
-/

/-- A text that spells a byte: one or two hexadecimal digits. -/
def SpellsByte (token : List Char) : Prop :=
  (token.length = 1 ∨ token.length = 2) ∧ forall c, c ∈ token -> (Text.hexValue? c).isSome = true

theorem hexByte?_isSome_iff (token : List Char) :
    (hexByte? token).isSome = true <-> SpellsByte token := by
  unfold SpellsByte
  fun_cases hexByte? token with
  | case1 a =>
      cases h : Text.hexValue? a <;> simp [h]
  | case2 a b =>
      cases h : Text.hexValue? a <;> cases h' : Text.hexValue? b <;> simp [h, h']
  | case3 _ hone htwo =>
      constructor
      · intro h
        cases h
      · intro h
        rcases h.1 with hlength | hlength
        · rcases List.length_eq_one_iff.mp hlength with ⟨a, rfl⟩
          exact absurd rfl (hone a)
        · rcases token with _ | ⟨a, _ | ⟨b, _ | ⟨c, rest⟩⟩⟩
          · cases hlength
          · cases hlength
          · exact absurd rfl (htwo a b)
          · cases hlength

/-- The line that the next request reads, without the blanks around it. -/
def Input.nextToken (input : Input) : List Char :=
  Text.trim (Text.cutLine input.rest).1

theorem Input.takeByte_of_not_spelled {input : Input} (h : ¬ SpellsByte input.nextToken) :
    exists rest, input.takeByte .hexLine = (.error input.nextToken, rest) := by
  have hnone : hexByte? input.nextToken = none := by
    rw [← Option.not_isSome_iff_eq_none, hexByte?_isSome_iff]
    exact h
  unfold nextToken at hnone ⊢
  simp only [takeByte, takeLine, hnone]
  exact ⟨_, rfl⟩

theorem Input.not_spelled_of_takeByte {mode : InputMode} {input rest : Input}
    {token : List Char} (h : input.takeByte mode = (.error token, rest)) :
    mode = .hexLine ∧ token = input.nextToken ∧ ¬ SpellsByte input.nextToken := by
  cases mode with
  | key =>
      simp only [takeByte] at h
      split at h <;> cases h
  | hexLine =>
      simp only [takeByte, takeLine] at h
      split at h
      · cases h
      · rename_i hnone
        cases h
        refine ⟨rfl, rfl, ?_⟩
        rw [← hexByte?_isSome_iff, Option.not_isSome_iff_eq_none]
        exact hnone
  | line =>
      simp only [takeByte] at h
      split at h <;> cases h

/-!
## Causes
-/

/-- The causes of the faults of the language, in a state of a run of the given
tokens with the size `t`. -/
inductive Settings.Stops (settings : Settings) (t : Int) (code : Tokens) (s : State) :
    Fault -> Prop where
  | underflow :
      code[s.index]? = some '<' ->
      s.pointer ≤ 0 ->
      settings.wrapBuffer.truthy = false ->
      Stops settings t code s (.underflow 0)
  | overflow :
      code[s.index]? = some '>' ->
      t - 1 ≤ s.pointer ->
      settings.wrapBuffer.truthy = false ->
      Stops settings t code s (.overflow t)
  | unmatched {b : Bracket} {v : UInt8} :
      code[s.index]? = some b.toChar ->
      s.tape.read? s.pointer = some v ->
      (v = 0 <-> b = .opening) ->
      code.Unpaired s.index ->
      Stops settings t code s (.unmatched b s.index)
  | notHex :
      code[s.index]? = some ',' ->
      settings.realtimeInput.truthy = false ->
      settings.binaryInput.truthy = true ->
      ¬ SpellsByte s.input.nextToken ->
      Stops settings t code s (.notHex s.input.nextToken)

theorem Bracket.jumps_iff (b : Bracket) (v : UInt8) :
    b.jumps v = true <-> (v = 0 <-> b = .opening) := by
  cases b with
  | opening =>
      simp [jumps]
  | closing =>
      have hkind : (Bracket.closing == Bracket.opening) = false := rfl
      simp [jumps, hkind]

theorem Settings.inputMode_eq_hexLine_iff (settings : Settings) :
    settings.inputMode = .hexLine <->
      settings.realtimeInput.truthy = false ∧ settings.binaryInput.truthy = true := by
  unfold inputMode
  cases settings.realtimeInput.truthy <;> cases settings.binaryInput.truthy <;> simp

/-- The two states differ at most in their input. -/
structure State.SameButInput (s t : State) : Prop where
  index : t.index = s.index
  pointer : t.pointer = s.pointer
  tape : t.tape = s.tape
  output : t.output = s.output

section

variable {settings : Settings} {setup : Setup} (hsetup : settings.setup? = some setup)
variable {code : Tokens} {s : State} {f : Fault}
include hsetup

theorem Settings.wrap_of_setup? : setup.wrap = settings.wrapBuffer.truthy := by
  rcases Option.map_eq_some_iff.mp hsetup with ⟨limit, _, rfl⟩
  rfl

/-- A step that is at fault has a cause, and leaves all but the input. -/
theorem stops_of_step {t : State} (h : step setup code s = .faulted f t)
    (hf : f.isReported = true) :
    settings.Stops setup.limit code s f ∧ s.SameButInput t := by
  have hwrap := Settings.wrap_of_setup? hsetup
  have hmode := Settings.mode_of_setup? hsetup
  cases stepsTo_of_step h with
  | unmatched hi heffect hpartner =>
      cases does_of_effect heffect with
      | jumps hcell hjumps =>
          refine ⟨Settings.Stops.unmatched hi hcell ((Bracket.jumps_iff _ _).mp hjumps) ?_,
            rfl, rfl, rfl, rfl⟩
          exact (Tokens.partner?_eq_none_iff hi).mp hpartner
  | fault hi heffect =>
      cases does_of_effect heffect with
      | outside _ =>
          cases hf
      | fails hfails =>
          cases hfails with
          | left hle hstays =>
              exact ⟨Settings.Stops.underflow hi hle (hwrap.symm.trans hstays), rfl, rfl, rfl, rfl⟩
          | right hle hstays =>
              exact ⟨Settings.Stops.overflow hi hle (hwrap.symm.trans hstays), rfl, rfl, rfl, rfl⟩
          | read hbyte =>
              rcases Input.not_spelled_of_takeByte hbyte with ⟨hhex, rfl, hspelled⟩
              rw [hmode, Settings.inputMode_eq_hexLine_iff] at hhex
              exact ⟨Settings.Stops.notHex hi hhex.1 hhex.2 hspelled, rfl, rfl, rfl, rfl⟩
          | increment _ =>
              cases hf
          | decrement _ =>
              cases hf
          | write _ =>
              cases hf
          | readOutside _ _ =>
              cases hf

theorem step_of_stops (h : settings.Stops setup.limit code s f) :
    exists t, step setup code s = .faulted f t := by
  have hwrap := Settings.wrap_of_setup? hsetup
  have hmode := Settings.mode_of_setup? hsetup
  rw [← s.stateAt_memory]
  cases h with
  | underflow hi hle hstays =>
      have hfails : Fails setup .left s.memory _ _ := Fails.left hle (hwrap.trans hstays)
      exact ⟨_, step_of_fault hi hfails.effect_eq _⟩
  | overflow hi hle hstays =>
      have hfails : Fails setup .right s.memory _ _ := Fails.right hle (hwrap.trans hstays)
      exact ⟨_, step_of_fault hi hfails.effect_eq _⟩
  | @unmatched b v hi hcell hjumps halone =>
      have heffect : effect setup b.toChar s.memory = .jump b := by
        have hread : s.memory.cell? = some v := hcell
        rw [effect_bracket, hread]
        simp only [(b.jumps_iff v).mpr hjumps, if_true]
      refine ⟨s.memory.stateAt s.index s.steps, ?_⟩
      rw [step_of_jump hi heffect, (Tokens.partner?_eq_none_iff hi).mpr halone]
  | notHex hi hkeys hhex hspelled =>
      rw [(settings.inputMode_eq_hexLine_iff).mpr ⟨hkeys, hhex⟩] at hmode
      rcases Input.takeByte_of_not_spelled hspelled with ⟨rest, hbyte⟩
      rw [← hmode] at hbyte
      have hfails : Fails setup .read s.memory _ _ := Fails.read hbyte
      exact ⟨_, step_of_fault hi hfails.effect_eq _⟩

end

/-!
## Faults of a run
-/

/-- The faults that a run reports are those of the language. -/
theorem Fault.isReported_iff (f : Fault) :
    f.isReported = true <-> Error.Family.language ∈ f.toError.families := by
  cases f <;> simp [isReported, toError, Error.families]

namespace Interpreter

/-- The run ends after `k` complete steps, with a fault of the token that comes next. -/
def StopsAfter (itp : Interpreter) (source : List Char) (input : Input) (k : Nat) (f : Fault) :
    Prop :=
  itp.run k source input = .ok none ∧
    exists r, itp.run (k + 1) source input = .ok (some r) ∧ r.result = .error f

section

variable {itp : Interpreter} {setup : Setup} (hsetup : itp.settings.setup? = some setup)
variable {source : List Char} {input : Input} {k : Nat} {s : State}
include hsetup

theorem stopsAfter_iff_step (hs : steps setup (itp.settings.tokens source) k (itp.start input) =
      .running s) (f : Fault) :
    itp.StopsAfter source input k f <->
      exists t, step setup (itp.settings.tokens source) s = .faulted f t := by
  have hlast : steps setup (itp.settings.tokens source) (k + 1) (itp.start input) =
      step setup (itp.settings.tokens source) s := by
    rw [steps_succ_last, hs]
    rfl
  constructor
  · intro h
    rcases h with ⟨_, r, hrun, hresult⟩
    rw [← hlast]
    exact steps_of_run_error hsetup hrun hresult
  · intro h
    rcases h with ⟨t, hstep⟩
    constructor
    · rw [run_eq_none_iff hsetup, scanning_eq_ending?, hs]
      rfl
    · exact run_of_steps_faulted hsetup (hlast.trans hstep)

theorem report_of_run_error {fuel : Nat} {r : RunReport} {f : Fault}
    (hrun : itp.run fuel source input = .ok (some r)) (hresult : r.result = .error f) :
    exists k s t known,
      steps setup (itp.settings.tokens source) k (itp.start input) = .running s ∧
        step setup (itp.settings.tokens source) s = .faulted f t ∧
        r = itp.report (.running (itp.settings.tokens source).size setup.limit)
          ⟨t, some f⟩ known := by
  rcases scanning_of_run hrun with ⟨setup', ⟨t, fault⟩, known, hsetup', hend, rfl⟩
  rw [hsetup] at hsetup'
  cases hsetup'
  cases fault with
  | none =>
      cases hresult
  | some f' =>
      cases hresult
      rcases steps_before_fault (steps_of_scanning_fault hend) with ⟨k, s, hs, hstep⟩
      exact ⟨k, s, t, known, hs, hstep, rfl⟩

end

end Interpreter

/-- What a report tells of a run that a fault stopped in a state. -/
structure RunReport.TellsOf (r : RunReport) (s : State) (f : Fault) : Prop where
  tape : r.before.tape = s.tape
  pointer : r.before.pointer = s.pointer
  output : r.output = s.output
  log : r.log.getLast? = some (.aborted s.index f.toError)

namespace Interpreter

theorem tellsOf_report (itp : Interpreter) (first : Log.Entry) (known : JumpTable) {s t : State}
    {f : Fault} (hf : f.isReported = true) (hsame : s.SameButInput t) :
    (itp.report first ⟨t, some f⟩ known).TellsOf s f := by
  refine ⟨hsame.tape, hsame.pointer, hsame.output, ?_⟩
  simp only [report, endingLog, hf, if_true, hsame.index]
  rfl

/-- Faults are attributed exactly.  A run that has completed `k` steps is stopped at
its next token by a fault of the language exactly if that fault has its cause there;
and a report of such a fault tells the tape, the pointer and the output as they were
after those steps, and the position of the token.  With a size that is an integer
every run starts, and in a balanced program no bracket is at fault. -/
theorem run_stops_exactly (itp : Interpreter) (t : Int) (source : List Char) (input : Input)
    (hsize : itp.settings.tapeSize.asInt? = some t) :
    (forall k s, itp.moment? source input k = some (.running s) ->
        forall f, Error.Family.language ∈ f.toError.families ->
          (itp.StopsAfter source input k f <->
            itp.settings.Stops t (itp.settings.tokens source) s f)) ∧
      (forall fuel r f, itp.run fuel source input = .ok (some r) -> r.result = .error f ->
        Error.Family.language ∈ f.toError.families ->
        exists k s, itp.moment? source input k = some (.running s) ∧
          itp.StopsAfter source input k f ∧ r.TellsOf s f) ∧
      (forall fuel, exists ended, itp.run fuel source input = .ok ended) ∧
      (Balanced .opening (itp.settings.tokens source).toList ->
        forall fuel r b q, itp.run fuel source input = .ok (some r) ->
          r.result ≠ .error (.unmatched b q)) := by
  have hsetup : exists setup, itp.settings.setup? = some setup ∧ setup.limit = t := by
    unfold Settings.setup?
    rw [hsize]
    exact ⟨_, rfl, rfl⟩
  rcases hsetup with ⟨setup, hsetup, rfl⟩
  refine ⟨?_, ?_, ?_, ?_⟩
  · intro k s hs f hf
    rw [moment?_eq_steps hsetup] at hs
    rw [stopsAfter_iff_step hsetup (Option.some.inj hs)]
    constructor
    · intro h
      rcases h with ⟨t, hstep⟩
      exact (stops_of_step hsetup hstep (f.isReported_iff.mpr hf)).1
    · exact step_of_stops hsetup
  · intro fuel r f hrun hresult hf
    have hreported := f.isReported_iff.mpr hf
    rcases report_of_run_error hsetup hrun hresult with ⟨k, s, t, known, hs, hstep, rfl⟩
    refine ⟨k, s, ?_, ?_, ?_⟩
    · rw [moment?_eq_steps hsetup, hs]
    · exact (stopsAfter_iff_step hsetup hs f).mpr ⟨t, hstep⟩
    · exact tellsOf_report itp _ known hreported (stops_of_step hsetup hstep hreported).2
  · intro fuel
    unfold run
    rw [hsetup]
    exact ⟨_, rfl⟩
  · intro hbalanced fuel r b q hrun hresult
    rcases report_of_run_error hsetup hrun hresult with ⟨k, s, t, known, _, hstep, _⟩
    cases (stops_of_step hsetup hstep rfl).1 with
    | unmatched hi _ _ halone =>
        exact Tokens.not_unpaired_of_balanced hbalanced hi halone

/-- A loop is left after one pass; the bracket behind it has no partner although
another bracket of its kind has, and the run stops at it after five complete steps. -/
theorem run_stops_exactly_behind_loop :
    let itp : Interpreter := { settings := { tapeSize := .int 2 }, tape := Tape.blank 1 }
    let source := ['+', '[', '-', ']', '+', ']']
    itp.settings.tapeSize.asInt? = some 2 ∧
      exists s, itp.moment? source default 5 = some (.running s) ∧
        itp.settings.Stops 2 (itp.settings.tokens source) s (.unmatched .closing 5) ∧
        itp.StopsAfter source default 5 (.unmatched .closing 5) := by
  intro itp source
  have hsize : itp.settings.tapeSize.asInt? = some 2 := rfl
  have hmoment : exists s, Interpreter.moment?
      { settings := { tapeSize := .int 2 }, tape := Tape.blank 1 }
      ['+', '[', '-', ']', '+', ']'] default 5 = some (.running s) ∧
      s.index = 5 ∧ s.tape.read? s.pointer = some 1 := ⟨_, rfl, rfl, rfl⟩
  rcases hmoment with ⟨s, hs, hindex, hcell⟩
  have hstops : itp.settings.Stops 2 (itp.settings.tokens source) s
      (.unmatched .closing s.index) := by
    refine Settings.Stops.unmatched ?_ hcell (by decide) ?_
    · rw [hindex]
      rfl
    · have hpairs : (itp.settings.tokens source).pairs = [(1, 3)] := rfl
      rw [Tokens.Unpaired, hpairs, hindex]
      simp
  rw [hindex] at hstops
  refine ⟨hsize, s, hs, hstops, ?_⟩
  exact ((run_stops_exactly itp 2 source default hsize).1 5 s hs _ (by decide)).mpr hstops

end Interpreter

end TapeMachine
