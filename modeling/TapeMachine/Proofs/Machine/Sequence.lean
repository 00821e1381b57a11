import TapeMachine.Proofs.Machine.Comments
import TapeMachine.Proofs.Machine.Lockstep
import TapeMachine.Proofs.Program.Append

/-!
# One program after another

When a program whose brackets match stands before another program, the run of
both is the run of the first, and then the run of the second from where the first
came to its end.  In the second part every position is greater by the number of
tokens before it, and the steps and the output of the first part come on top.
The second program may be any text: brackets that have no partner in it find none
in the first program either.
-/

namespace TapeMachine

/-- What lies behind a machine that comes to a program: a number of tokens, the
steps that were made, and the text that was written. -/
structure Lead where
  tokens : Nat
  steps : Nat
  output : String

def Memory.behind (l : Lead) (m : Memory) : Memory :=
  { m with output := l.output ++ m.output }

def State.behind (l : Lead) (s : State) : State :=
  { s with
    index := s.index + l.tokens
    output := l.output ++ s.output
    steps := s.steps + l.steps }

def Step.behind (l : Lead) : Step -> Step
  | running s => .running (s.behind l)
  | finished s => .finished (s.behind l)
  | faulted f s => .faulted (f.relocate (· + l.tokens)) (s.behind l)

theorem Memory.behind_stateAt (l : Lead) (m : Memory) (i n : Nat) :
    (m.stateAt i n).behind l = (m.behind l).stateAt (i + l.tokens) (n + l.steps) := rfl

theorem Memory.stateAt_behind_succ (l : Lead) (m : Memory) (i n : Nat) :
    (m.behind l).stateAt (i + l.tokens + 1) (n + l.steps + 1) =
      (m.stateAt (i + 1) (n + 1)).behind l := by
  rw [Memory.behind_stateAt, Nat.add_right_comm, Nat.add_right_comm n]

/-!
## What was written before

No instruction looks at the output.
-/

section

variable {setup : Setup} (l : Lead) {a : Action} {m m' : Memory}

theorem Memory.store?_behind {v : UInt8} (h : m.store? v = some m') :
    (m.behind l).store? v = some (m'.behind l) := by
  rcases Memory.store?_eq_some_iff.mp h with ⟨i, hi, rfl⟩
  exact Memory.store?_eq_some_iff.mpr ⟨i, hi, rfl⟩

theorem Performs.behind (h : Performs setup a m m') :
    Performs setup a (m.behind l) (m'.behind l) := by
  cases h with
  | left hpos =>
      exact Performs.left hpos
  | leftRound hend hwrap =>
      exact Performs.leftRound hend hwrap
  | right hroom =>
      exact Performs.right hroom
  | rightRound hend hwrap =>
      exact Performs.rightRound hend hwrap
  | increment hcell hstore =>
      exact Performs.increment hcell (Memory.store?_behind l hstore)
  | decrement hcell hstore =>
      exact Performs.decrement hcell (Memory.store?_behind l hstore)
  | @write m v hcell =>
      have hpush : l.output ++ m.output.push (charOfByte v) =
          (l.output ++ m.output).push (charOfByte v) := by
        rw [String.push_eq_append, String.push_eq_append, String.append_assoc]
      have hwrite : Performs setup .write (m.behind l) _ := Performs.write hcell
      unfold Memory.behind at hwrite ⊢
      rw [hpush]
      exact hwrite
  | read hbyte hstore =>
      exact Performs.read hbyte (Memory.store?_behind l hstore)

theorem Fails.behind {f : Fault} (h : Fails setup a m f m') :
    Fails setup a (m.behind l) f (m'.behind l) := by
  cases h with
  | left hend hwrap =>
      exact Fails.left hend hwrap
  | right hend hwrap =>
      exact Fails.right hend hwrap
  | increment hcell =>
      exact Fails.increment hcell
  | decrement hcell =>
      exact Fails.decrement hcell
  | write hcell =>
      exact Fails.write hcell
  | read hbyte =>
      exact Fails.read hbyte
  | readOutside hbyte hcell =>
      exact Fails.readOutside hbyte hcell

theorem effect_behind (setup : Setup) (c : Char) (m : Memory) :
    effect setup c (m.behind l) = (effect setup c m).map (Memory.behind l) := by
  apply effect_map
  · intro a m' _ hperforms
    exact hperforms.behind l
  · intro a f m' _ hfails
    exact hfails.behind l
  · rfl
  · rfl

end

/-!
## The two parts of a program
-/

section

variable (setup : Setup) {a : List Char} (ha : Balanced .opening a) (rest : List Char)
include ha

/-- Within the first program a step does not depend on the second. -/
theorem step_append {s : State} (hs : s.index < a.length) :
    step setup (a ++ rest).toArray s = step setup a.toArray s := by
  have htoken : a.toArray[s.index]? = some a[s.index] := by
    rw [List.getElem?_toArray, List.getElem?_eq_getElem hs]
  have htoken' : (a ++ rest).toArray[s.index]? = some a[s.index] := by
    rw [List.getElem?_toArray, List.getElem?_append_left hs, List.getElem?_eq_getElem hs]
  rw [← s.stateAt_memory]
  cases heffect : effect setup a[s.index] s.memory with
  | next m =>
      rw [step_of_next htoken heffect, step_of_next htoken' heffect]
  | fault f m =>
      rw [step_of_fault htoken heffect, step_of_fault htoken' heffect]
  | jump b =>
      have hbracket : a[s.index]? = some b.toChar := by
        rw [List.getElem?_eq_getElem hs, bracket_of_effect_jump heffect]
      rw [step_of_jump htoken heffect, step_of_jump htoken' heffect,
        Tokens.partner?_append_left ha rest hbracket]

/-- Until the first program is finished its run does not depend on the second. -/
theorem steps_append {n : Nat} {s : State} {result : Step}
    (h : steps setup a.toArray n s = result) (hgoes : forall t, result ≠ .finished t) :
    steps setup (a ++ rest).toArray n s = result := by
  induction n generalizing s with
  | zero =>
      exact h
  | succ n ih =>
      rw [steps_succ] at h ⊢
      by_cases hs : s.index < a.length
      · rw [step_append setup ha rest hs]
        cases hstep : step setup a.toArray s with
        | running t =>
            rw [hstep] at h
            exact ih h
        | finished t =>
            rw [hstep] at h
            exact h
        | faulted f t =>
            rw [hstep] at h
            exact h
      · have hend : a.toArray.size ≤ s.index := Nat.not_lt.mp hs
        rw [← s.stateAt_memory, step_of_end hend] at h
        exact absurd h.symm (hgoes _)

variable {l : Lead} (hl : l.tokens = a.length)
include hl

/-- Behind the first program a step is that of the second program, moved. -/
theorem step_behind (s : State) :
    step setup (a ++ rest).toArray (s.behind l) = (step setup rest.toArray s).behind l := by
  have htoken : forall i, (a ++ rest).toArray[i + l.tokens]? = rest.toArray[i]? := by
    intro i
    rw [hl, List.getElem?_toArray, List.getElem?_toArray,
      List.getElem?_append_right (Nat.le_add_left _ _), Nat.add_sub_cancel]
  rw [← s.stateAt_memory, Memory.behind_stateAt]
  cases hi : rest.toArray[s.index]? with
  | none =>
      have hi' := (htoken s.index).trans hi
      rw [step_of_end (Array.getElem?_eq_none_iff.mp hi),
        step_of_end (Array.getElem?_eq_none_iff.mp hi')]
      rfl
  | some t =>
      have hi' := (htoken s.index).trans hi
      have hmoved := effect_behind l setup t s.memory
      cases heffect : effect setup t s.memory with
      | next m =>
          rw [heffect] at hmoved
          rw [step_of_next hi heffect, step_of_next hi' hmoved, Memory.stateAt_behind_succ]
          rfl
      | fault f m =>
          rw [heffect] at hmoved
          rw [step_of_fault hi heffect, step_of_fault hi' hmoved, Step.behind,
            relocate_of_effect heffect]
          rfl
      | jump b =>
          rw [heffect] at hmoved
          have hbracket : rest[s.index]? = some b.toChar := by
            rw [← List.getElem?_toArray, hi, bracket_of_effect_jump heffect]
          have hpartner := Tokens.partner?_append_right ha rest hbracket
          rw [← hl] at hpartner
          rw [step_of_jump hi heffect, step_of_jump hi' hmoved, hpartner]
          cases Tokens.partner? rest.toArray b s.index with
          | none =>
              rfl
          | some j =>
              exact congrArg Step.running (Memory.stateAt_behind_succ l s.memory j s.steps)

theorem steps_behind (n : Nat) (s : State) :
    steps setup (a ++ rest).toArray n (s.behind l) = (steps setup rest.toArray n s).behind l := by
  induction n generalizing s with
  | zero =>
      rfl
  | succ n ih =>
      rw [steps_succ, steps_succ, step_behind setup ha rest hl]
      cases step setup rest.toArray s with
      | running t =>
          exact ih t
      | finished t =>
          rfl
      | faulted f t =>
          rfl

end

def Ending.behind (l : Lead) (e : Ending) : Ending :=
  ⟨e.state.behind l, e.fault.map (Fault.relocate (· + l.tokens))⟩

theorem Step.ending?_behind (l : Lead) (result : Step) :
    (result.behind l).ending? = result.ending?.map (Ending.behind l) := by
  cases result <;> rfl

theorem scanning_append_of_fault {setup : Setup} {a : List Char} {n : Nat} {s t : State}
    {f : Fault} (ha : Balanced .opening a) (rest : List Char)
    (h : scanning setup a.toArray n s = some ⟨t, some f⟩) :
    scanning setup (a ++ rest).toArray n s = some ⟨t, some f⟩ := by
  have hsteps := steps_append setup ha rest (steps_of_scanning_fault h) fun _ => Step.noConfusion
  rw [scanning_eq_ending?, hsteps]
  rfl

/-- A run that comes to the second program ends as that does. -/
theorem scanning_behind {setup : Setup} {a rest : List Char} {l : Lead} {n : Nat} {s t : State}
    (ha : Balanced .opening a) (hl : l.tokens = a.length)
    (h : steps setup (a ++ rest).toArray n s = .running (t.behind l)) (fuel : Nat) :
    scanning setup (a ++ rest).toArray (n + fuel) s =
      (scanning setup rest.toArray fuel t).map (Ending.behind l) := by
  rw [scanning_of_steps h, scanning_eq_ending?, scanning_eq_ending?, steps_behind setup ha rest hl,
    Step.ending?_behind]

/-!
## Where a program is finished
-/

theorem step_index_le {setup : Setup} {code : Tokens} {s : State} (hs : s.index ≤ code.size) :
    (step setup code s).state.index ≤ code.size := by
  cases hresult : step setup code s with
  | finished t =>
      cases stepsTo_of_step hresult
      exact hs
  | running t =>
      cases stepsTo_of_step hresult with
      | next htoken _ =>
          exact (Array.getElem?_eq_some_iff.mp htoken).choose
      | jump htoken heffect hpartner =>
          rw [bracket_of_effect_jump heffect] at htoken
          exact Tokens.partner?_lt htoken hpartner
  | faulted f t =>
      cases stepsTo_of_step hresult with
      | unmatched _ _ _ =>
          exact hs
      | fault _ _ =>
          exact hs

/-- A run from the first token that is finished has come behind the last one, after
as many steps as it counts. -/
theorem steps_of_finished {setup : Setup} {code : Tokens} {n : Nat} {s t : State}
    (hindex : s.index = 0) (hsteps : s.steps = 0) (h : steps setup code n s = .finished t) :
    steps setup code t.steps s = .running t ∧ t.index = code.size := by
  rcases steps_before_end h with ⟨k, s', hbefore, hlast⟩
  cases stepsTo_of_step hlast with
  | ended hend =>
      have hle : (steps setup code k s).state.index ≤ code.size := by
        apply steps_invariant (fun s => s.index ≤ code.size)
        · intro u hu
          exact step_index_le hu
        · rw [hindex]
          exact Nat.zero_le _
      have hcount := steps_count hbefore
      rw [hsteps, Nat.zero_add] at hcount
      rw [hbefore] at hle
      rw [hcount]
      exact ⟨hbefore, Nat.le_antisymm hle hend⟩

/-!
## Runs of an interpreter
-/

def Lead.result (l : Lead) : Except Fault Nat -> Except Fault Nat
  | .ok n => .ok (n + l.steps)
  | .error f => .error (f.relocate (· + l.tokens))

/-- The second report is the first one with what lies behind the machine on top. -/
structure RunReport.Behind (l : Lead) (r r' : RunReport) : Prop where
  result : r'.result = l.result r.result
  output : r'.output = l.output ++ r.output
  input : r'.input = r.input
  tape : r'.before.tape = r.before.tape
  pointer : r'.before.pointer = r.before.pointer
  abort : r'.abortIndex? = r.abortIndex?.map (· + l.tokens)

namespace Interpreter

theorem behind_report (itp itp' : Interpreter) (l : Lead) (e : Ending) (size size' : Nat)
    (limit limit' : Int) (known known' : JumpTable) :
    (itp.report (.running size limit) e known).Behind l
      (itp'.report (.running size' limit') (e.behind l) known') := by
  rcases e with ⟨s, fault⟩
  cases fault with
  | none =>
      exact ⟨rfl, rfl, rfl, rfl, rfl, rfl⟩
  | some f =>
      cases f <;> exact ⟨rfl, rfl, rfl, rfl, rfl, rfl⟩

theorem start_behind (itp : Interpreter) (input : Input) (l : Lead) :
    (itp.start input).behind l =
      { index := l.tokens, pointer := itp.pointer, tape := itp.tape, input := input,
        output := l.output, steps := l.steps } := by
  simp [start, State.behind]

theorem tokens_append (settings : Settings) (a b : List Char) :
    settings.tokens (a ++ b) =
      ((settings.tokens a).toList ++ (settings.tokens b).toList).toArray := by
  unfold Settings.tokens
  split
  · rw [stripComments_append]
  · rfl

/-- A run that is finished has come behind the last token. -/
theorem steps_of_run_ok {itp : Interpreter} {setup : Setup} {fuel k : Nat} {source : List Char}
    {input : Input} {r : RunReport} (hsetup : itp.settings.setup? = some setup)
    (hrun : itp.run fuel source input = .ok (some r)) (hresult : r.result = .ok k) :
    steps setup (itp.settings.tokens source) k (itp.start input) =
      .running (r.memory.stateAt (itp.settings.tokens source).size k) := by
  rcases scanning_of_run hrun with ⟨setup', ⟨t, fault⟩, known, hsetup', hend, rfl⟩
  rw [hsetup] at hsetup'
  cases hsetup'
  cases fault with
  | some f =>
      cases hresult
  | none =>
      cases hresult
      rcases steps_of_finished rfl rfl (steps_of_scanning_end hend) with ⟨hsteps, hindex⟩
      rw [← hindex]
      exact hsteps

section

variable {itp itp' : Interpreter} {setup : Setup} {a b : List Char} {input input' : Input}
variable {l : Lead} {n : Nat} (hsetup : itp.settings.setup? = some setup)
variable (hsettings : itp'.settings = itp.settings)
variable (ha : Balanced .opening (itp.settings.tokens a).toList)
variable (hl : l.tokens = (itp.settings.tokens a).size)
variable (hcomes : steps setup (itp.settings.tokens (a ++ b)) n (itp.start input) =
  .running ((itp'.start input').behind l))
include hsetup hsettings ha hl hcomes

theorem moment?_behind (k : Nat) :
    itp.moment? (a ++ b) input (n + k) = (itp'.moment? b input' k).map (Step.behind l) := by
  have hsetup' : itp'.settings.setup? = some setup := by
    rw [hsettings]
    exact hsetup
  rw [moment?_eq_steps hsetup, moment?_eq_steps hsetup', steps_add, hcomes, tokens_append,
    hsettings]
  exact congrArg some (steps_behind setup ha _ hl k _)

/-- A run that has come to the second program is from there on the run of that
program by an interpreter in the same state. -/
theorem runsRelated_behind (fuel : Nat) :
    RunsRelated (RunReport.Behind l) (itp'.run fuel b input')
      (itp.run (n + fuel) (a ++ b) input) := by
  have hsetup' : itp'.settings.setup? = some setup := by
    rw [hsettings]
    exact hsetup
  rw [tokens_append] at hcomes
  apply runsRelated_of_scanning hsetup' hsetup
  · rw [tokens_append, hsettings]
    exact scanning_behind ha hl hcomes fuel
  · intro e known known'
    exact behind_report itp' itp l e _ _ _ _ known known'

end

/-- One program after another.  As long as the first one, whose brackets match, has
not ended, the run of both has not; if it ends in a fault, they end in it together.
If it finishes, the run of both goes on as the run of the second program does from
the tape, the pointer and the input that the first one left; the steps and the
output of the first come on top, and positions are greater by its tokens. -/
theorem run_append (itp : Interpreter) (setup : Setup) (a b : List Char) (input : Input)
    (hsetup : itp.settings.setup? = some setup)
    (hbalanced : Balanced .opening (itp.settings.tokens a).toList) :
    (forall fuel, itp.run fuel a input = .ok none -> itp.run fuel (a ++ b) input = .ok none) ∧
    (forall fuel r f, itp.run fuel a input = .ok (some r) -> r.result = .error f ->
      exists r', itp.run fuel (a ++ b) input = .ok (some r') ∧ r'.result = .error f ∧
        r'.memory = r.memory ∧ r'.abortIndex? = r.abortIndex?) ∧
    forall fuel r k, itp.run fuel a input = .ok (some r) -> r.result = .ok k ->
      forall fuel', RunsRelated
        (RunReport.Behind
          { tokens := (itp.settings.tokens a).size, steps := k, output := r.output })
        (run { itp with tape := r.before.tape, pointer := r.before.pointer } fuel' b r.input)
        (itp.run (k + fuel') (a ++ b) input) := by
  have htokens := tokens_append itp.settings a b
  refine ⟨?_, ?_, ?_⟩
  · intro fuel hrun
    rw [run_eq_none_iff hsetup, scanning_eq_ending?] at hrun
    cases hsteps : steps setup (itp.settings.tokens a) fuel (itp.start input) with
    | running t =>
        rw [run_eq_none_iff hsetup, scanning_eq_ending?, htokens,
          steps_append setup hbalanced _ hsteps fun _ => Step.noConfusion]
        rfl
    | finished t =>
        rw [hsteps] at hrun
        cases hrun
    | faulted f t =>
        rw [hsteps] at hrun
        cases hrun
  · intro fuel r f hrun hresult
    rcases scanning_of_run hrun with ⟨setup', ⟨t, fault⟩, known, hsetup', hend, rfl⟩
    rw [hsetup] at hsetup'
    cases hsetup'
    cases fault with
    | none =>
        cases hresult
    | some f' =>
        have hend' := scanning_append_of_fault hbalanced (itp.settings.tokens b).toList hend
        rw [← htokens] at hend'
        rcases run_of_scanning hsetup hend' with ⟨known', hrun'⟩
        refine ⟨_, hrun', hresult, rfl, ?_⟩
        cases f' <;> rfl
  · intro fuel r k hrun hresult fuel'
    have hsteps := steps_of_run_ok hsetup hrun hresult
    have hcomes := steps_append setup hbalanced (itp.settings.tokens b).toList hsteps
      fun _ => Step.noConfusion
    rw [← htokens] at hcomes
    refine runsRelated_behind hsetup ?_ hbalanced ?_ ?_ fuel'
    · rfl
    · rfl
    · rw [start_behind]
      exact hcomes

/-- The first program writes a character in two steps; the second one goes on with
a bracket that has no partner. -/
theorem run_append_unmatched :
    let itp : Interpreter := { settings := { tapeSize := .int 2 }, tape := Tape.blank 1 }
    let setup : Setup := { limit := 2, wrap := false, mode := .line }
    let a := "+.".toList
    let b := ".]".toList
    let input := Input.ofString ""
    itp.settings.setup? = some setup ∧
      Balanced .opening (itp.settings.tokens a).toList ∧
      exists r, itp.run 3 a input = .ok (some r) ∧ r.result = .ok 2 ∧ r.output = "\x01" ∧
        forall fuel, RunsRelated
          (RunReport.Behind { tokens := 2, steps := 2, output := r.output })
          (run { itp with tape := r.before.tape, pointer := r.before.pointer } fuel b r.input)
          (itp.run (2 + fuel) (a ++ b) input) := by
  intro itp setup a b input
  have hsetup : itp.settings.setup? = some setup := rfl
  have hbalanced : Balanced .opening (itp.settings.tokens a).toList := by
    apply Balanced.plain (by decide) (by decide)
    exact Balanced.plain (by decide) (by decide) Balanced.nil
  have hfirst : exists r, itp.run 3 a input = .ok (some r) ∧ r.result = .ok 2 ∧
      r.output = "\x01" := ⟨_, rfl, rfl, rfl⟩
  rcases hfirst with ⟨r, hrun, hresult, houtput⟩
  exact ⟨hsetup, hbalanced, r, hrun, hresult, houtput,
    (run_append itp setup a b input hsetup hbalanced).2.2 3 r 2 hrun hresult⟩

end Interpreter

end TapeMachine
