import TapeMachine.Proofs.Machine.Bounds
import TapeMachine.Proofs.Machine.Comments
import TapeMachine.Proofs.Machine.Structured
import TapeMachine.Proofs.Program.Exchange

/-!
# Exchanging a stretch of a program

Two stretches without brackets that lead from every memory to the same memory may
be exchanged within any program: the runs of the two programs are alike.  Outside
the stretch the two machines make the same steps, at corresponding positions;
when they come to the stretch, each passes through its own one to the position
behind it.  The stretch may be passed any number of times, and the brackets
around it need not match.
-/

namespace TapeMachine

/-!
## Passing through a stretch
-/

/-- Each token of the text is carried out without a jump, and the last one leaves
the second memory. -/
inductive Leads (setup : Setup) : List Char -> Memory -> Memory -> Prop where
  | nil {m : Memory} : Leads setup [] m m
  | cons {c : Char} {w : List Char} {m m₁ m₂ : Memory} :
      effect setup c m = .next m₁ ->
      Leads setup w m₁ m₂ ->
      Leads setup (c :: w) m m₂

theorem Leads.steps_eq {setup : Setup} {code : Tokens} {w : List Char} {m m' : Memory} {i : Nat}
    (h : Leads setup w m m') (hcode : code.HoldsAt i w) (n : Nat) :
    steps setup code w.length (m.stateAt i n) =
      .running (m'.stateAt (i + w.length) (n + w.length)) := by
  induction w generalizing i n m with
  | nil =>
      cases h
      rfl
  | cons c w ih =>
      cases h with
      | cons heffect hrest =>
          have hindex : i + 1 + w.length = i + (w.length + 1) := by omega
          have hcount : n + 1 + w.length = n + (w.length + 1) := by omega
          rw [List.length_cons, steps_succ, step_of_next hcode.head heffect, ← hindex, ← hcount]
          exact ih hrest (Tokens.HoldsAt.suffix (u := [c]) hcode) (n + 1)

/-- Stretches that lead to the same memory from every memory with its pointer on
the tape. -/
structure Exchangeable (setup : Setup) (w w' : List Char) : Prop where
  plain : Plain w
  plain' : Plain w'
  same : forall m : Memory, m.OnTape setup ->
    exists m', Leads setup w m m' ∧ Leads setup w' m m'

theorem Exchangeable.symm {setup : Setup} {w w' : List Char} (h : Exchangeable setup w w') :
    Exchangeable setup w' w := by
  refine ⟨h.plain', h.plain, ?_⟩
  intro m hm
  rcases h.same m hm with ⟨m', hleads, hleads'⟩
  exact ⟨m', hleads', hleads⟩

/-!
## Steps
-/

/-- Corresponding positions at which the machines may be: outside the stretch, or
where both stretches begin. -/
inductive Aligned (start d d' : Nat) : Nat -> Nat -> Prop where
  | outside {i i' : Nat} : Across start d d' i i' -> Aligned start d d' i i'
  | entry : Aligned start d d' start start

theorem Aligned.zero (start d d' : Nat) : Aligned start d d' 0 0 := by
  cases start with
  | zero =>
      exact entry
  | succ start =>
      exact outside (Across.before (Nat.succ_pos start))

theorem Across.aligned_succ {start d d' i i' : Nat} (h : Across start d d' i i') :
    Aligned start d d' (i + 1) (i' + 1) := by
  cases h with
  | before hi =>
      by_cases hentry : i + 1 = start
      · rw [hentry]
        exact Aligned.entry
      · exact Aligned.outside (before (by omega))
  | behind j =>
      exact Aligned.outside (behind (j + 1))

/-- The machines pass through the stretch, if they are at its beginning. -/
theorem steps_to_outside {setup : Setup} {x w w' y : List Char} {m : Memory} {i i' : Nat}
    (hexchange : Exchangeable setup w w') (hm : m.OnTape setup)
    (h : Aligned x.length w.length w'.length i i') (n n' : Nat) :
    exists (m' : Memory) (j j' k k' : Nat),
      steps setup (x ++ (w ++ y)).toArray k (m.stateAt i n) =
        .running (m'.stateAt j (n + k)) ∧
      steps setup (x ++ (w' ++ y)).toArray k' (m.stateAt i' n') =
        .running (m'.stateAt j' (n' + k')) ∧
      Across x.length w.length w'.length j j' := by
  cases h with
  | outside h =>
      exact ⟨m, i, i', 0, 0, rfl, rfl, h⟩
  | entry =>
      rcases hexchange.same m hm with ⟨m', hleads, hleads'⟩
      have hholds : forall v : List Char,
          Tokens.HoldsAt (x ++ (v ++ y)).toArray x.length v := by
        intro v
        exact ⟨x, y, rfl, rfl⟩
      exact ⟨m', _, _, w.length, w'.length, hleads.steps_eq (hholds w) n,
        hleads'.steps_eq (hholds w') n', Across.behind 0⟩

/-- The results of two steps outside the stretch: the machines go on with the same
memory from corresponding positions, or meet the same end. -/
inductive StepsAlike (start d d' : Nat) : Step -> Step -> Prop where
  | running {m : Memory} {i i' n n' : Nat} :
      Aligned start d d' i i' ->
      StepsAlike start d d' (.running (m.stateAt i n)) (.running (m.stateAt i' n'))
  | finished {m : Memory} {i i' n n' : Nat} :
      StepsAlike start d d' (.finished (m.stateAt i n)) (.finished (m.stateAt i' n'))
  | faulted {m : Memory} {f f' : Fault} {i i' n n' : Nat} :
      f' = f.relocate (placeAcross start d d') ->
      StepsAlike start d d' (.faulted f (m.stateAt i n)) (.faulted f' (m.stateAt i' n'))

theorem step_across (setup : Setup) {x w w' y : List Char} {i i' : Nat} (hw : Plain w)
    (hw' : Plain w') (h : Across x.length w.length w'.length i i') (m : Memory) (n n' : Nat) :
    StepsAlike x.length w.length w'.length
      (step setup (x ++ (w ++ y)).toArray (m.stateAt i n))
      (step setup (x ++ (w' ++ y)).toArray (m.stateAt i' n')) := by
  have hsame := getElem?_across (w := w) (y := y) h
  cases hi : (x ++ (w ++ y))[i]? with
  | none =>
      rw [hi] at hsame
      rw [step_of_end (List.getElem?_eq_none_iff.mp hi),
        step_of_end (List.getElem?_eq_none_iff.mp hsame.symm)]
      exact StepsAlike.finished
  | some c =>
      rw [hi] at hsame
      have htoken : (x ++ (w ++ y)).toArray[i]? = some c := by
        rw [List.getElem?_toArray, hi]
      have htoken' : (x ++ (w' ++ y)).toArray[i']? = some c := by
        rw [List.getElem?_toArray, ← hsame]
      cases heffect : effect setup c m with
      | next m' =>
          rw [step_of_next htoken heffect, step_of_next htoken' heffect]
          exact StepsAlike.running h.aligned_succ
      | fault f m' =>
          rw [step_of_fault htoken heffect, step_of_fault htoken' heffect]
          exact StepsAlike.faulted (relocate_of_effect heffect _).symm
      | jump b =>
          -- A bracket at fault has moved with its position.
          rw [bracket_of_effect_jump heffect] at hi
          have hpartner := Tokens.partner?_across hw hw' h hi
          rw [step_of_jump htoken heffect, step_of_jump htoken' heffect]
          generalize Tokens.partner? (x ++ (w ++ y)).toArray b i = found at hpartner
          generalize Tokens.partner? (x ++ (w' ++ y)).toArray b i' = found' at hpartner
          cases hpartner with
          | none =>
              apply StepsAlike.faulted
              rw [Fault.relocate, h.place_eq]
          | some hj =>
              exact StepsAlike.running hj.aligned_succ

/-!
## Runs
-/

/-- The endings are the same up to the position of a bracket. -/
structure Ending.Exchanged (place : Nat -> Nat) (e e' : Ending) : Prop where
  memory : e'.state.memory = e.state.memory
  fault : e'.fault = e.fault.map (Fault.relocate place)

/-- A run that ends does so likewise when the stretch is exchanged. -/
theorem scanning_exchange {setup : Setup} {x w w' y : List Char} {fuel i i' n : Nat}
    {m : Memory} {e : Ending} (hexchange : Exchangeable setup w w') (hm : m.OnTape setup)
    (h : Aligned x.length w.length w'.length i i')
    (hend : scanning setup (x ++ (w ++ y)).toArray fuel (m.stateAt i n) = some e) (n' : Nat) :
    exists fuel' e',
      scanning setup (x ++ (w' ++ y)).toArray fuel' (m.stateAt i' n') = some e' ∧
      e.Exchanged (placeAcross x.length w.length w'.length) e' := by
  -- The stretch takes several steps at once, so the induction is on every shorter run.
  induction fuel using Nat.strongRecOn generalizing i i' n n' m with
  | ind fuel ih =>
      rcases steps_to_outside (y := y) hexchange hm h n n' with
        ⟨m₁, j, j', k, k', hsteps, hsteps', hacross⟩
      rcases scanning_after hend hsteps with ⟨rest, rfl, hrest⟩
      have hm₁ : m₁.OnTape setup := onTape_of_running (s := m.stateAt i n) hm hsteps
      cases rest with
      | zero =>
          cases hrest
      | succ rest =>
          have halike := step_across (y := y) setup hexchange.plain hexchange.plain' hacross m₁
            (n + k) (n' + k')
          rw [scanning] at hrest
          generalize hstep : step setup (x ++ (w ++ y)).toArray (m₁.stateAt j (n + k)) = result
            at halike hrest
          generalize hstep' : step setup (x ++ (w' ++ y)).toArray (m₁.stateAt j' (n' + k')) =
            result' at halike
          cases halike with
          | running halign =>
              rename_i m₂ l l' p p'
              have hm₂ : m₂.OnTape setup :=
                onTape_of_running (n := 1) (s := m₁.stateAt j (n + k)) hm₁
                  ((steps_one _ _ _).trans hstep)
              rcases ih rest (by omega) hm₂ halign hrest p' with ⟨fuel', e', hend', hexchanged⟩
              refine ⟨k' + (fuel' + 1), e', ?_, hexchanged⟩
              rw [scanning_of_steps hsteps', scanning, hstep']
              exact hend'
          | finished =>
              rename_i m₂ l l' p p'
              cases hrest
              refine ⟨k' + 1, ⟨m₂.stateAt l' p', none⟩, ?_, rfl, rfl⟩
              rw [scanning_of_steps hsteps', scanning, hstep']
          | faulted hfault =>
              rename_i m₂ f f' l l' p p'
              cases hrest
              refine ⟨k' + 1, ⟨m₂.stateAt l' p', some f'⟩, ?_, rfl, congrArg some hfault⟩
              rw [scanning_of_steps hsteps', scanning, hstep']

/-!
## Runs of an interpreter
-/

/-- The results of two runs that met the same end: the numbers of steps may differ,
and the position of a bracket has moved. -/
inductive ResultsExchanged (place : Nat -> Nat) :
    Except Fault Nat -> Except Fault Nat -> Prop where
  | finished (n n' : Nat) : ResultsExchanged place (.ok n) (.ok n')
  | faulted (f : Fault) : ResultsExchanged place (.error f) (.error (f.relocate place))

structure RunReport.Exchanged (place : Nat -> Nat) (r r' : RunReport) : Prop where
  output : r'.output = r.output
  input : r'.input = r.input
  tape : r'.before.tape = r.before.tape
  pointer : r'.before.pointer = r.before.pointer
  result : ResultsExchanged place r.result r'.result

namespace Interpreter

/-- The run of the one program ends exactly if that of the other does, and then
likewise. -/
structure RunsAlike (itp : Interpreter) (place : Nat -> Nat) (source source' : List Char)
    (input : Input) : Prop where
  ends : (exists fuel r, itp.run fuel source input = .ok (some r)) <->
    exists fuel r, itp.run fuel source' input = .ok (some r)
  agree : forall fuel fuel' r r',
    itp.run fuel source input = .ok (some r) ->
    itp.run fuel' source' input = .ok (some r') ->
    r.Exchanged place r'

theorem exchanged_report (itp : Interpreter) {place : Nat -> Nat} {e e' : Ending}
    (h : e.Exchanged place e') (first first' : Log.Entry) (known known' : JumpTable) :
    (itp.report first e known).Exchanged place (itp.report first' e' known') := by
  rcases e with ⟨s, fault⟩
  rcases e' with ⟨s', fault'⟩
  rcases h with ⟨hmemory, hfault⟩
  simp only at hmemory hfault
  subst hfault
  refine ⟨congrArg Memory.output hmemory, congrArg Memory.input hmemory,
    congrArg Memory.tape hmemory, congrArg Memory.pointer hmemory, ?_⟩
  cases fault with
  | none =>
      exact ResultsExchanged.finished _ _
  | some f =>
      exact ResultsExchanged.faulted f

theorem tokens_around (settings : Settings) {w : List Char}
    (hw : forall c, c ∈ w -> isInstruction c = true) (a b : List Char) :
    settings.tokens (a ++ w ++ b) =
      ((settings.tokens a).toList ++ (w ++ (settings.tokens b).toList)).toArray := by
  unfold Settings.tokens
  split
  · rw [stripComments_append, stripComments_append, stripComments, stripComments,
      stripComments, List.filter_eq_self.mpr hw, List.append_assoc]
  · rw [List.append_assoc]

section

variable {itp : Interpreter} {setup : Setup} {w w' : List Char} {input : Input}

theorem scanning_exchange_tokens (hstart : (itp.start input).memory.OnTape setup)
    (hexchange : Exchangeable setup w w') (hw : forall c, c ∈ w -> isInstruction c = true)
    (hw' : forall c, c ∈ w' -> isInstruction c = true) (a b : List Char) {fuel : Nat} {e : Ending}
    (hend : scanning setup (itp.settings.tokens (a ++ w ++ b)) fuel (itp.start input) = some e) :
    exists fuel' e',
      scanning setup (itp.settings.tokens (a ++ w' ++ b)) fuel' (itp.start input) = some e' ∧
      e.Exchanged (placeAcross (itp.settings.tokens a).size w.length w'.length) e' := by
  rw [tokens_around itp.settings hw] at hend
  rw [tokens_around itp.settings hw']
  exact scanning_exchange hexchange hstart (Aligned.zero _ _ _) hend 0

theorem ends_of_exchangeable (hsetup : itp.settings.setup? = some setup)
    (hstart : (itp.start input).memory.OnTape setup) (hexchange : Exchangeable setup w w')
    (hw : forall c, c ∈ w -> isInstruction c = true)
    (hw' : forall c, c ∈ w' -> isInstruction c = true) (a b : List Char)
    (h : exists fuel r, itp.run fuel (a ++ w ++ b) input = .ok (some r)) :
    exists fuel r, itp.run fuel (a ++ w' ++ b) input = .ok (some r) := by
  rcases h with ⟨fuel, r, hrun⟩
  rcases scanning_of_run hrun with ⟨setup', e, known, hsetup', hend, _⟩
  rw [hsetup] at hsetup'
  cases hsetup'
  rcases scanning_exchange_tokens hstart hexchange hw hw' a b hend with ⟨fuel', e', hend', _⟩
  rcases run_of_scanning hsetup hend' with ⟨known', hrun'⟩
  exact ⟨fuel', _, hrun'⟩

/-- Exchanging a stretch of a program preserves its run. -/
theorem runsAlike_of_exchangeable (hsetup : itp.settings.setup? = some setup)
    (hstart : (itp.start input).memory.OnTape setup) (hexchange : Exchangeable setup w w')
    (hw : forall c, c ∈ w -> isInstruction c = true)
    (hw' : forall c, c ∈ w' -> isInstruction c = true) (a b : List Char) :
    itp.RunsAlike (placeAcross (itp.settings.tokens a).size w.length w'.length)
      (a ++ w ++ b) (a ++ w' ++ b) input := by
  refine ⟨⟨?_, ?_⟩, ?_⟩
  · exact ends_of_exchangeable hsetup hstart hexchange hw hw' a b
  · exact ends_of_exchangeable hsetup hstart hexchange.symm hw' hw a b
  · intro fuel fuel' r r' hrun hrun'
    rcases scanning_of_run hrun with ⟨setup₁, e, known, hsetup₁, hend, rfl⟩
    rcases scanning_of_run hrun' with ⟨setup₂, e', known', hsetup₂, hend', rfl⟩
    rw [hsetup] at hsetup₁ hsetup₂
    cases hsetup₁
    cases hsetup₂
    rcases scanning_exchange_tokens hstart hexchange hw hw' a b hend with
      ⟨fuel'', e'', hend'', hexchanged⟩
    have hunique : e' = e'' := scanning_unique hend' hend''
    subst hunique
    exact exchanged_report itp hexchanged _ _ known known'

end

end Interpreter

end TapeMachine
