import TapeMachine.Machine.Interpreter
import TapeMachine.Proofs.Machine.Memory
import TapeMachine.Proofs.Machine.Steps
import TapeMachine.Proofs.Program.Scan

/-!
# Remembering partners changes nothing

The machine that remembers the pairs of brackets it has found does, step by
step, what the machine does that looks for the partner at every jump.  The
invariant is that every entry of the table joins two partners; since the two
scans find the same pairs, it does not matter which of them made an entry and
from which side it is used.
-/

namespace TapeMachine

namespace JumpTable

/-- Every entry joins two partners. -/
def Sound (table : JumpTable) (code : Tokens) : Prop :=
  forall i j, table[i]? = some j -> exists b, code.Partners b i j

theorem sound_empty (code : Tokens) : Sound ∅ code := by
  intro i j h
  simp at h

theorem Sound.record {table : JumpTable} {code : Tokens} {b : Bracket} {i j : Nat}
    (hsound : table.Sound code) (hpartners : code.Partners b i j) :
    (table.record i j).Sound code := by
  intro k l h
  rw [JumpTable.record, Std.HashMap.getElem?_insert, Std.HashMap.getElem?_insert] at h
  by_cases hj : j = k
  · simp only [hj, beq_self_eq_true, if_true] at h
    cases h
    rw [← hj]
    exact ⟨b.other, hpartners.symm⟩
  · by_cases hi : i = k
    · simp only [hi, beq_self_eq_true, if_true, beq_eq_false_iff_ne.mpr hj] at h
      cases h
      rw [← hi]
      exact ⟨b, hpartners⟩
    · simp only [beq_eq_false_iff_ne.mpr hj, beq_eq_false_iff_ne.mpr hi] at h
      exact hsound k l h

theorem Sound.partner?_eq {table : JumpTable} {code : Tokens} {b : Bracket} {i j : Nat}
    (hsound : table.Sound code) (hi : code[i]? = some b.toChar)
    (hj : table[i]? = some j) : code.partner? b i = some j := by
  rcases hsound i j hj with ⟨b', hpartners⟩
  have hchar : b.toChar = b'.toChar := by
    have hb' := hpartners.bracket_at
    rw [hi] at hb'
    exact Option.some.inj hb'
  -- The kind is fixed by the character, whichever scan made the entry.
  have hkind : b = b' := by
    cases b <;> cases b' <;> first | rfl | exact absurd hchar (by decide)
  rw [hkind] at hi ⊢
  exact (Tokens.partner?_eq_some_iff hi).mpr hpartners

/-- Looking in the table first finds what a scan finds, and keeps the table sound. -/
theorem partner?_of_sound {table : JumpTable} {code : Tokens} {b : Bracket} {i : Nat}
    (hsound : table.Sound code) (hi : code[i]? = some b.toChar) :
    (table.partner? code b i).map Prod.fst = code.partner? b i ∧
      forall j table', table.partner? code b i = some (j, table') -> table'.Sound code := by
  unfold JumpTable.partner?
  cases hknown : table[i]? with
  | some j =>
      refine ⟨(hsound.partner?_eq hi hknown).symm, ?_⟩
      intro j' table' h
      cases h
      exact hsound
  | none =>
      cases hfound : code.partner? b i with
      | none =>
          refine ⟨rfl, ?_⟩
          intro j' table' h
          cases h
      | some j =>
          refine ⟨rfl, ?_⟩
          intro j' table' h
          cases h
          exact hsound.record ((Tokens.partner?_eq_some_iff hi).mp hfound)

end JumpTable

/-!
## One step
-/

theorem stepWith_eq_step (setup : Setup) {code : Tokens} {table : JumpTable}
    (hsound : table.Sound code) (s : State) :
    (stepWith setup code table s).1 = step setup code s ∧
      (stepWith setup code table s).2.Sound code := by
  cases htoken : code[s.index]? with
  | none =>
      have houtside : ¬ s.index < code.size :=
        Nat.not_lt.mpr (Array.getElem?_eq_none_iff.mp htoken)
      rw [stepWith, step, dif_neg houtside, dif_neg houtside]
      exact ⟨rfl, hsound⟩
  | some c =>
      rcases demand_at setup htoken with ⟨hinside, hdemand⟩
      rw [stepWith, step, dif_pos hinside, dif_pos hinside, hdemand]
      cases heffect : effect setup c s.memory with
      | next m =>
          exact ⟨rfl, hsound⟩
      | fault f m =>
          exact ⟨rfl, hsound⟩
      | jump b =>
          have hbracket : code[s.index]? = some b.toChar := by
            rw [htoken, bracket_of_effect_jump heffect]
          rcases JumpTable.partner?_of_sound hsound hbracket with ⟨hsame, hkeeps⟩
          simp only [Effect.demandAt, State.stateAt_memory]
          rw [← hsame]
          cases hlookup : table.partner? code b s.index with
          | none =>
              exact ⟨rfl, hsound⟩
          | some found =>
              exact ⟨rfl, hkeeps found.1 found.2 hlookup⟩

/-!
## Whole runs
-/

def stepsWith (setup : Setup) (code : Tokens) :
    (n : Nat) -> JumpTable -> State -> Step × JumpTable
  | 0, table, s => (.running s, table)
  | n + 1, table, s =>
      match stepWith setup code table s with
      | (.running s, table) => stepsWith setup code n table s
      | ended => ended

theorem stepsWith_eq_steps (setup : Setup) {code : Tokens} {table : JumpTable}
    (hsound : table.Sound code) (n : Nat) (s : State) :
    (stepsWith setup code n table s).1 = steps setup code n s ∧
      (stepsWith setup code n table s).2.Sound code := by
  induction n generalizing table s with
  | zero =>
      exact ⟨rfl, hsound⟩
  | succ n ih =>
      rcases stepWith_eq_step setup hsound s with ⟨hstep, hkeeps⟩
      rw [steps_succ, ← hstep, stepsWith]
      rcases hwith : stepWith setup code table s with ⟨result, table'⟩
      rw [hwith] at hkeeps
      cases result with
      | running t =>
          exact ih hkeeps t
      | finished t =>
          exact ⟨rfl, hkeeps⟩
      | faulted f t =>
          exact ⟨rfl, hkeeps⟩

theorem runWith_eq_ending? (setup : Setup) (code : Tokens) (n : Nat) (table : JumpTable)
    (s : State) :
    runWith setup code n table s =
      (stepsWith setup code n table s).1.ending?.map fun e =>
        (e, (stepsWith setup code n table s).2) := by
  induction n generalizing table s with
  | zero =>
      rfl
  | succ n ih =>
      rw [runWith, stepsWith]
      rcases stepWith setup code table s with ⟨result, table'⟩
      cases result with
      | running t =>
          exact ih table' t
      | finished t =>
          rfl
      | faulted f t =>
          rfl

theorem run_map_fst (setup : Setup) (code : Tokens) (n : Nat) (s : State) :
    (run setup code n s).map Prod.fst = scanning setup code n s := by
  have hsteps := (stepsWith_eq_steps setup (JumpTable.sound_empty code) n s).1
  rw [run, runWith_eq_ending?, scanning_eq_ending?, ← hsteps]
  cases (stepsWith setup code n ∅ s).1.ending? <;> rfl

namespace Interpreter

/-- The machine after `n` steps of a run, if the run can start. -/
def moment? (itp : Interpreter) (source : List Char) (input : Input) (n : Nat) : Option Step :=
  itp.settings.setup?.map fun setup =>
    (stepsWith setup (itp.settings.tokens source) n ∅ (itp.start input)).1

/-- The machine after `n` steps of a run in which the partner is looked for at
every jump. -/
def scanningMoment? (itp : Interpreter) (source : List Char) (input : Input) (n : Nat) :
    Option Step :=
  itp.settings.setup?.map fun setup =>
    steps setup (itp.settings.tokens source) n (itp.start input)

/-- Runs a program without a table, looking for the partner at every jump. -/
def runScanning (itp : Interpreter) (fuel : Nat) (source : List Char) (input : Input) :
    Except Error (Option RunReport) :=
  match itp.settings.setup? with
  | none => .error .limitNotInteger
  | some setup =>
      let code := itp.settings.tokens source
      let first : Log.Entry := .running code.size setup.limit
      .ok ((scanning setup code fuel (itp.start input)).map fun e => itp.report first e ∅)

theorem moment?_eq_scanningMoment? (itp : Interpreter) (source : List Char) (input : Input)
    (n : Nat) : itp.moment? source input n = itp.scanningMoment? source input n := by
  unfold moment? scanningMoment?
  congr 1
  funext setup
  exact (stepsWith_eq_steps setup (JumpTable.sound_empty _) n _).1

theorem moment?_eq_steps {itp : Interpreter} {setup : Setup}
    (hsetup : itp.settings.setup? = some setup) (source : List Char) (input : Input) (n : Nat) :
    itp.moment? source input n =
      some (steps setup (itp.settings.tokens source) n (itp.start input)) := by
  rw [moment?_eq_scanningMoment?, scanningMoment?, hsetup]
  rfl

theorem run_eq_some_iff {itp : Interpreter} {fuel : Nat} {source : List Char} {input : Input}
    {r : RunReport} :
    itp.run fuel source input = .ok (some r) <->
      exists setup e known, itp.settings.setup? = some setup ∧
        TapeMachine.run setup (itp.settings.tokens source) fuel (itp.start input) =
          some (e, known) ∧
        r = itp.report (.running (itp.settings.tokens source).size setup.limit) e known := by
  unfold run
  cases hsetup : itp.settings.setup? with
  | none =>
      simp
  | some setup =>
      constructor
      · intro h
        rcases Option.map_eq_some_iff.mp (Except.ok.inj h) with ⟨⟨e, known⟩, hrun, rfl⟩
        exact ⟨setup, e, known, rfl, hrun, rfl⟩
      · intro h
        rcases h with ⟨setup', e, known, hsetup', hrun, rfl⟩
        cases hsetup'
        simp only [hrun, Option.map_some]

theorem scanning_of_run {itp : Interpreter} {fuel : Nat} {source : List Char} {input : Input}
    {r : RunReport} (h : itp.run fuel source input = .ok (some r)) :
    exists setup e known, itp.settings.setup? = some setup ∧
      scanning setup (itp.settings.tokens source) fuel (itp.start input) = some e ∧
      r = itp.report (.running (itp.settings.tokens source).size setup.limit) e known := by
  rcases run_eq_some_iff.mp h with ⟨setup, e, known, hsetup, hrun, hreport⟩
  refine ⟨setup, e, known, hsetup, ?_, hreport⟩
  rw [← run_map_fst, hrun]
  rfl

theorem run_of_scanning {itp : Interpreter} {setup : Setup} {fuel : Nat} {source : List Char}
    {input : Input} {e : Ending} (hsetup : itp.settings.setup? = some setup)
    (hend : scanning setup (itp.settings.tokens source) fuel (itp.start input) = some e) :
    exists known, itp.run fuel source input =
      .ok (some (itp.report (.running (itp.settings.tokens source).size setup.limit) e known)) := by
  rw [← run_map_fst] at hend
  rcases Option.map_eq_some_iff.mp hend with ⟨⟨e', known⟩, hrun, rfl⟩
  exact ⟨known, run_eq_some_iff.mpr ⟨setup, e', known, hsetup, hrun, rfl⟩⟩

theorem steps_of_run_error {itp : Interpreter} {setup : Setup} {fuel : Nat}
    {source : List Char} {input : Input} {r : RunReport} {f : Fault}
    (hsetup : itp.settings.setup? = some setup)
    (hrun : itp.run fuel source input = .ok (some r)) (hresult : r.result = .error f) :
    exists s, steps setup (itp.settings.tokens source) fuel (itp.start input) =
      .faulted f s := by
  rcases scanning_of_run hrun with ⟨setup', ⟨s, fault⟩, known, hsetup', hend, rfl⟩
  rw [hsetup] at hsetup'
  cases hsetup'
  cases fault with
  | none =>
      cases hresult
  | some f' =>
      cases hresult
      exact ⟨s, steps_of_scanning_fault hend⟩

theorem run_of_steps_faulted {itp : Interpreter} {setup : Setup} {fuel : Nat}
    {source : List Char} {input : Input} {f : Fault} {s : State}
    (hsetup : itp.settings.setup? = some setup)
    (hsteps : steps setup (itp.settings.tokens source) fuel (itp.start input) =
      .faulted f s) :
    exists r, itp.run fuel source input = .ok (some r) ∧ r.result = .error f := by
  have hend : scanning setup (itp.settings.tokens source) fuel (itp.start input) =
      some ⟨s, some f⟩ := by
    rw [scanning_eq_ending?, hsteps]
    rfl
  rcases run_of_scanning hsetup hend with ⟨known, hrun⟩
  exact ⟨_, hrun, rfl⟩

end Interpreter

/-- The memory just before the interpreter was cleared. -/
def RunReport.memory (r : RunReport) : Memory :=
  { pointer := r.before.pointer, tape := r.before.tape, input := r.input, output := r.output }

def RunReport.forget (r : RunReport) : RunReport :=
  { r with before := { r.before with known := ∅ }, after := { r.after with known := ∅ } }

/-- Remembering partners changes nothing but the table.  The interpreter may
come from any earlier runs: whatever pairs of another program it still knows,
the run passes through the states of the run without a table, one by one, and
the two reports agree. -/
theorem Interpreter.run_eq_runScanning (itp : Interpreter) (source : List Char)
    (input : Input) :
    (forall n, itp.moment? source input n = itp.scanningMoment? source input n) ∧
      forall fuel,
        (itp.run fuel source input).map (Option.map RunReport.forget) =
          itp.runScanning fuel source input := by
  refine ⟨itp.moment?_eq_scanningMoment? source input, ?_⟩
  intro fuel
  unfold run runScanning
  cases itp.settings.setup? with
  | none =>
      rfl
  | some setup =>
      simp only [← run_map_fst]
      cases TapeMachine.run setup (itp.settings.tokens source) fuel (itp.start input) <;> rfl

end TapeMachine
