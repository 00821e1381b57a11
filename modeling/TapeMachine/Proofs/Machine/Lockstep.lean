import TapeMachine.Proofs.Machine.Bounds

/-!
# Machines in lockstep

Two runs of one program on different tapes are compared through a reshaping,
which gives for the tape and pointer of the one machine those of the other.  A
reshaping under which the second machine does with every instruction what the
first does carries whole runs of the first over to the second, step by step.
The comparison may stop at faults that only the first machine meets.
-/

namespace TapeMachine

/-- Another tape for a tape, and on it another pointer for a pointer on a tape
of the given size. -/
structure Reshape where
  tape : Tape -> Tape
  pointer : Nat -> Int -> Int

def Memory.reshape (f : Reshape) (m : Memory) : Memory :=
  { m with tape := f.tape m.tape, pointer := f.pointer m.tape.size m.pointer }

def State.reshape (f : Reshape) (s : State) : State :=
  { s with tape := f.tape s.tape, pointer := f.pointer s.tape.size s.pointer }

def Effect.reshape (f : Reshape) : Effect -> Effect
  | next m => .next (m.reshape f)
  | jump b => .jump b
  | fault e m => .fault e (m.reshape f)

/-- The step of the other machine: it goes to the same place, or meets the same
end. -/
def Step.reshape (f : Reshape) : Step -> Step
  | running s => .running (s.reshape f)
  | finished s => .finished (s.reshape f)
  | faulted e s => .faulted e (s.reshape f)

theorem Memory.reshape_stateAt (f : Reshape) (m : Memory) (i n : Nat) :
    (m.stateAt i n).reshape f = (m.reshape f).stateAt i n := rfl

theorem Step.reshape_andThen (f : Reshape) {result : Step} {next next' : State -> Step}
    (h : forall s, result = .running s -> next' (s.reshape f) = (next s).reshape f) :
    (result.reshape f).andThen next' = (result.andThen next).reshape f := by
  cases result with
  | running s =>
      exact h s rfl
  | finished s =>
      rfl
  | faulted e s =>
      rfl

/-!
## Faults of the first machine only
-/

def Effect.Escapes (escape : Fault -> Prop) : Effect -> Prop
  | next _ => False
  | jump _ => False
  | fault e _ => escape e

def Step.Escapes (escape : Fault -> Prop) : Step -> Prop
  | running _ => False
  | finished _ => False
  | faulted e _ => escape e

/-!
## Instructions
-/

/-- The second machine does with every instruction what the first does, in each
memory with the property `P`, which the first machine keeps. -/
structure Lockstep (setup setup' : Setup) (P : Memory -> Prop) (escape : Fault -> Prop)
    (f : Reshape) : Prop where
  performs : forall a m m', Performs setup a m m' -> P m -> P m'
  fails : forall a m e m', Fails setup a m e m' -> P m -> P m'
  acts : forall a m, P m -> ¬ (effect setup (Action.toChar a) m).Escapes escape ->
    effect setup' a.toChar (m.reshape f) = (effect setup a.toChar m).reshape f
  cell? : forall m, P m -> (m.reshape f).cell? = m.cell?
  outside : forall m, P m -> m.cell? = none -> (m.reshape f).outside = m.outside

/-- The four instructions that use the cell at the pointer do the same on both
tapes when reading it and storing in it do. -/
theorem effect_reshape_of_store? {setup setup' : Setup} {f : Reshape} {m : Memory} {v : UInt8}
    (hmode : setup'.mode = setup.mode) (hcell : m.cell? = some v)
    (hcell' : (m.reshape f).cell? = some v)
    (hstore : forall w, (m.reshape f).store? w = (m.store? w).map (Memory.reshape f))
    {a : Action} (hleft : a ≠ .left) (hright : a ≠ .right) :
    effect setup' a.toChar (m.reshape f) = (effect setup a.toChar m).reshape f := by
  rcases Memory.cell?_eq_some_iff.mp hcell with ⟨i, hi, hv⟩
  have hstored : forall w, m.store? w = some { m with tape := m.tape.set i w } :=
    Memory.store?_of_locate? hi
  have hstored' : forall w, (m.reshape f).store? w =
      some (Memory.reshape f { m with tape := m.tape.set i w }) := by
    intro w
    rw [hstore, hstored]
    rfl
  cases a with
  | left =>
      exact absurd rfl hleft
  | right =>
      exact absurd rfl hright
  | increment =>
      rw [(Performs.increment hcell (hstored _)).effect_eq,
        (Performs.increment hcell' (hstored' _)).effect_eq]
      rfl
  | decrement =>
      rw [(Performs.decrement hcell (hstored _)).effect_eq,
        (Performs.decrement hcell' (hstored' _)).effect_eq]
      rfl
  | write =>
      rw [(Performs.write hcell).effect_eq, (Performs.write hcell').effect_eq]
      rfl
  | read =>
      rcases hbyte : m.input.takeByte setup.mode with ⟨answer, input⟩
      have hbyte' : (m.reshape f).input.takeByte setup'.mode = (answer, input) := by
        rw [hmode]
        exact hbyte
      cases answer with
      | error token =>
          rw [(Fails.read hbyte).effect_eq, (Fails.read hbyte').effect_eq]
          rfl
      | ok w =>
          -- The byte is stored in the memory from which the input was taken.
          have hinput : Memory.store? { m with input := input } w =
              some { m with input := input, tape := m.tape.set i w } :=
            Memory.store?_of_locate? (m := { m with input := input }) hi w
          have hinput' : Memory.store? { m.reshape f with input := input } w =
              some (Memory.reshape f { m with input := input, tape := m.tape.set i w }) := by
            rcases Memory.store?_eq_some_iff.mp (hstored' w) with ⟨j, hj, hset⟩
            apply Memory.store?_eq_some_iff.mpr
            exact ⟨j, hj, congrArg (fun m : Memory => { m with input := input }) hset⟩
          rw [(Performs.read hbyte hinput).effect_eq, (Performs.read hbyte' hinput').effect_eq]
          rfl

/-- Machines whose pointers stay on the tape are in lockstep when moving, reading
the cell and storing in it are the same on both tapes. -/
theorem lockstep_of_onTape {setup setup' : Setup} {escape : Fault -> Prop} {f : Reshape}
    (hmode : setup'.mode = setup.mode)
    (hcell : forall m : Memory, m.OnTape setup -> (m.reshape f).cell? = m.cell?)
    (hstore : forall m : Memory, m.OnTape setup -> forall w,
      (m.reshape f).store? w = (m.store? w).map (Memory.reshape f))
    (hmoves : forall (a : Action) (m : Memory), a = .left ∨ a = .right -> m.OnTape setup ->
      ¬ (effect setup a.toChar m).Escapes escape ->
      effect setup' a.toChar (m.reshape f) = (effect setup a.toChar m).reshape f) :
    Lockstep setup setup' (Memory.OnTape setup) escape f where
  performs := by
    intro a m m' hperforms
    exact Memory.OnTape.performs hperforms
  fails := by
    intro a m e m' hfails
    exact Memory.OnTape.fails hfails
  acts := by
    intro a m hm hgoes
    by_cases hmove : a = .left ∨ a = .right
    · exact hmoves a m hmove hm hgoes
    · rcases hm.exists_cell? with ⟨v, hv⟩
      have hv' : (m.reshape f).cell? = some v := by
        rw [hcell m hm, hv]
      exact effect_reshape_of_store? hmode hv hv' (hstore m hm) (fun h => hmove (Or.inl h))
        (fun h => hmove (Or.inr h))
  cell? := hcell
  outside := by
    intro m hm hnone
    rcases hm.exists_cell? with ⟨v, hv⟩
    rw [hnone] at hv
    cases hv

namespace Lockstep

variable {setup setup' : Setup} {P : Memory -> Prop} {escape : Fault -> Prop} {f : Reshape}

theorem effect_eq (h : Lockstep setup setup' P escape f) {c : Char} {m : Memory} (hm : P m)
    (hgoes : ¬ (effect setup c m).Escapes escape) :
    effect setup' c (m.reshape f) = (effect setup c m).reshape f := by
  rcases token_cases c with hcomment | ⟨a, rfl⟩ | ⟨b, rfl⟩
  · rw [effect_comment setup hcomment, effect_comment setup' hcomment]
    rfl
  · exact h.acts a m hm hgoes
  · rw [effect_bracket, effect_bracket, h.cell? m hm]
    cases hcell : m.cell? with
    | none =>
        simp only [h.outside m hm hcell]
        rfl
    | some v =>
        cases hjumps : b.jumps v <;> simp [hjumps] <;> rfl

/-!
## Steps and runs
-/

theorem step_eq (h : Lockstep setup setup' P escape f) {code : Tokens} {s : State}
    (hs : P s.memory) (hgoes : ¬ (step setup code s).Escapes escape) :
    step setup' code (s.reshape f) = (step setup code s).reshape f := by
  rw [← s.stateAt_memory, Memory.reshape_stateAt]
  rw [← s.stateAt_memory] at hgoes
  cases htoken : code[s.index]? with
  | none =>
      have hend : code.size ≤ s.index := Array.getElem?_eq_none_iff.mp htoken
      rw [step_of_end hend, step_of_end hend]
      rfl
  | some c =>
      have hsame : ¬ (effect setup c s.memory).Escapes escape ->
          effect setup' c (s.memory.reshape f) = (effect setup c s.memory).reshape f :=
        h.effect_eq hs
      cases heffect : effect setup c s.memory with
      | next m =>
          rw [heffect] at hsame
          rw [step_of_next htoken heffect, step_of_next htoken (hsame id)]
          rfl
      | jump b =>
          rw [heffect] at hsame
          rw [step_of_jump htoken heffect, step_of_jump htoken (hsame id)]
          cases code.partner? b s.index <;> rfl
      | fault e m =>
          rw [step_of_fault htoken heffect] at hgoes
          rw [heffect] at hsame
          rw [step_of_fault htoken heffect, step_of_fault htoken (hsame hgoes)]
          rfl

/-- As long as the first machine does not escape, the second is after every
number of steps where the reshaping puts it. -/
theorem steps_eq (h : Lockstep setup setup' P escape f) {code : Tokens} {n : Nat} {s : State}
    (hs : P s.memory) (hgoes : ¬ (steps setup code n s).Escapes escape) :
    steps setup' code n (s.reshape f) = (steps setup code n s).reshape f := by
  induction n generalizing s with
  | zero =>
      rfl
  | succ n ih =>
      rw [steps_succ] at hgoes
      rw [steps_succ, steps_succ]
      have hstep : step setup' code (s.reshape f) = (step setup code s).reshape f := by
        apply h.step_eq hs
        intro hescapes
        apply hgoes
        cases hresult : step setup code s with
        | running t =>
            rw [hresult] at hescapes
            exact False.elim hescapes
        | finished t =>
            rw [hresult] at hescapes
            exact False.elim hescapes
        | faulted e t =>
            rw [hresult] at hescapes
            exact hescapes
      rw [hstep]
      apply Step.reshape_andThen
      intro t hrunning
      have ht : P (step setup code s).state.memory :=
        step_keeps_memory h.performs h.fails hs
      rw [hrunning] at ht hgoes
      exact ih ht hgoes

theorem steps_of_running (h : Lockstep setup setup' P escape f) {code : Tokens} {n : Nat}
    {s t : State} (hs : P s.memory) (ht : steps setup code n s = .running t) :
    steps setup' code n (s.reshape f) = .running (t.reshape f) := by
  have hgoes : ¬ (steps setup code n s).Escapes escape := by
    rw [ht]
    exact id
  rw [h.steps_eq hs hgoes, ht]
  rfl

end Lockstep

/-!
## Runs of two interpreters
-/

/-- The second report is the first one on the other tape. -/
structure RunReport.Reshaped (f : Reshape) (r r' : RunReport) : Prop where
  result : r'.result = r.result
  output : r'.output = r.output
  input : r'.input = r.input
  tape : r'.before.tape = f.tape r.before.tape
  pointer : r'.before.pointer = f.pointer r.before.tape.size r.before.pointer

/-- Two runs: neither has ended, or both have, with related reports. -/
inductive RunsRelated (R : RunReport -> RunReport -> Prop) :
    Except Error (Option RunReport) -> Except Error (Option RunReport) -> Prop where
  | unended : RunsRelated R (.ok none) (.ok none)
  | ended {r r' : RunReport} :
      R r r' ->
      RunsRelated R (.ok (some r)) (.ok (some r'))

def Ending.reshape (f : Reshape) (e : Ending) : Ending :=
  ⟨e.state.reshape f, e.fault⟩

theorem Step.ending?_reshape (f : Reshape) (result : Step) :
    (result.reshape f).ending? = result.ending?.map (Ending.reshape f) := by
  cases result <;> rfl

namespace Interpreter

theorem run_eq_none_iff {itp : Interpreter} {setup : Setup} {fuel : Nat} {source : List Char}
    {input : Input} (hsetup : itp.settings.setup? = some setup) :
    itp.run fuel source input = .ok none <->
      scanning setup (itp.settings.tokens source) fuel (itp.start input) = none := by
  rw [← run_map_fst, Option.map_eq_none_iff]
  unfold run
  rw [hsetup]
  constructor
  · intro h
    exact Option.map_eq_none_iff.mp (Except.ok.inj h)
  · intro h
    simp only [h, Option.map_none]

theorem reshaped_report (itp itp' : Interpreter) (f : Reshape) (e : Ending)
    (first first' : Log.Entry) (known known' : JumpTable) :
    (itp.report first e known).Reshaped f (itp'.report first' (e.reshape f) known') := by
  rcases e with ⟨s, fault⟩
  cases fault <;> exact ⟨rfl, rfl, rfl, rfl, rfl⟩

/-- Runs whose endings correspond have reports that correspond. -/
theorem runsRelated_of_scanning {itp itp' : Interpreter} {setup setup' : Setup}
    {fuel fuel' : Nat} {source source' : List Char} {input input' : Input}
    {R : RunReport -> RunReport -> Prop} {g : Ending -> Ending}
    (hsetup : itp.settings.setup? = some setup) (hsetup' : itp'.settings.setup? = some setup')
    (hscan : scanning setup' (itp'.settings.tokens source') fuel' (itp'.start input') =
      (scanning setup (itp.settings.tokens source) fuel (itp.start input)).map g)
    (hreport : forall e known known',
      R (itp.report (.running (itp.settings.tokens source).size setup.limit) e known)
        (itp'.report (.running (itp'.settings.tokens source').size setup'.limit) (g e) known')) :
    RunsRelated R (itp.run fuel source input) (itp'.run fuel' source' input') := by
  cases hend : scanning setup (itp.settings.tokens source) fuel (itp.start input) with
  | none =>
      rw [hend] at hscan
      rw [(run_eq_none_iff hsetup).mpr hend, (run_eq_none_iff hsetup').mpr hscan]
      exact RunsRelated.unended
  | some e =>
      rw [hend] at hscan
      rcases run_of_scanning hsetup hend with ⟨known, hrun⟩
      rcases run_of_scanning hsetup' hscan with ⟨known', hrun'⟩
      rw [hrun, hrun']
      exact RunsRelated.ended (hreport e known known')

/-- Machines that are in step give corresponding reports. -/
theorem runsRelated_of_steps {itp itp' : Interpreter} {setup setup' : Setup} {f : Reshape}
    {fuel : Nat} {source : List Char} {input : Input}
    (hsetup : itp.settings.setup? = some setup) (hsetup' : itp'.settings.setup? = some setup')
    (htokens : itp'.settings.tokens source = itp.settings.tokens source)
    (hsteps : steps setup' (itp.settings.tokens source) fuel (itp'.start input) =
      (steps setup (itp.settings.tokens source) fuel (itp.start input)).reshape f) :
    RunsRelated (RunReport.Reshaped f) (itp.run fuel source input)
      (itp'.run fuel source input) := by
  have hscan : scanning setup' (itp'.settings.tokens source) fuel (itp'.start input) =
      (scanning setup (itp.settings.tokens source) fuel (itp.start input)).map
        (Ending.reshape f) := by
    rw [htokens, scanning_eq_ending?, scanning_eq_ending?, hsteps, Step.ending?_reshape]
  apply runsRelated_of_scanning hsetup hsetup' hscan
  intro e known known'
  exact reshaped_report itp itp' f e _ _ known known'

/-- A run never escapes when no report is of a fault that does. -/
theorem not_escapes_of_run {itp : Interpreter} {setup : Setup} {escape : Fault -> Prop}
    {source : List Char} {input : Input} (hsetup : itp.settings.setup? = some setup)
    (hnever : forall fuel r f, itp.run fuel source input = .ok (some r) ->
      r.result = .error f -> ¬ escape f) (n : Nat) :
    ¬ (steps setup (itp.settings.tokens source) n (itp.start input)).Escapes escape := by
  intro hescapes
  cases hresult : steps setup (itp.settings.tokens source) n (itp.start input) with
  | running t =>
      rw [hresult] at hescapes
      exact hescapes
  | finished t =>
      rw [hresult] at hescapes
      exact hescapes
  | faulted f t =>
      rw [hresult] at hescapes
      rcases run_of_steps_faulted hsetup hresult with ⟨r, hrun, herror⟩
      exact hnever n r f hrun herror hescapes

end Interpreter

end TapeMachine
