import TapeMachine.Proofs.Machine.JumpTable

/-!
# Comments do nothing

A program runs in the same way whether its comments are stripped or stay in
place.  The two runs are at different positions: where the one stands at a
position, the other stands at the number of instructions before it.  The run
with comments makes a step of its own at each comment; at every other token the
two runs make the same step.
-/

namespace TapeMachine

def instructionsBefore (source : List Char) (p : Nat) : Nat :=
  (source.take p).countP isInstruction

theorem isInstruction_eq_false_iff {c : Char} :
    isInstruction c = false <-> Instruction.ofChar? c = none := by
  simp [isInstruction]

theorem Bracket.isInstruction_toChar (b : Bracket) : isInstruction b.toChar = true := by
  cases b <;> rfl

theorem stripComments_cons_of_instruction {c : Char} (hc : isInstruction c = true)
    (w : List Char) : stripComments (c :: w) = c :: stripComments w := by
  simp [stripComments, hc]

theorem stripComments_cons_of_comment {c : Char} (hc : isInstruction c = false)
    (w : List Char) : stripComments (c :: w) = stripComments w := by
  simp [stripComments, hc]

theorem length_stripComments_take (source : List Char) (p : Nat) :
    (stripComments (source.take p)).length = instructionsBefore source p := by
  rw [stripComments, instructionsBefore, List.countP_eq_length_filter]

/-- Stripping takes a text apart at a token as the text itself comes apart. -/
theorem stripComments_split {source : List Char} {p : Nat} {c : Char}
    (h : source[p]? = some c) (hc : isInstruction c = true) :
    stripComments source =
      stripComments (source.take p) ++ c :: stripComments (source.drop (p + 1)) := by
  rcases List.getElem?_eq_some_iff.mp h with ⟨hlt, rfl⟩
  have hdrop : stripComments (source.drop p) =
      source[p] :: stripComments (source.drop (p + 1)) := by
    rw [List.drop_eq_getElem_cons hlt, stripComments_cons_of_instruction hc]
  rw [← hdrop, ← stripComments_append, List.take_append_drop]

theorem instructionsBefore_succ {source : List Char} {p : Nat} {c : Char}
    (h : source[p]? = some c) :
    instructionsBefore source (p + 1) =
      instructionsBefore source p + (if isInstruction c then 1 else 0) := by
  rcases List.getElem?_eq_some_iff.mp h with ⟨hlt, rfl⟩
  rw [instructionsBefore, List.take_succ_eq_append_getElem hlt, List.countP_append]
  simp [instructionsBefore, List.countP_singleton]

theorem instructionsBefore_of_length_le {source : List Char} {p : Nat}
    (h : source.length ≤ p) :
    instructionsBefore source p = (stripComments source).length := by
  rw [← length_stripComments_take, List.take_of_length_le h]

theorem getElem?_stripComments {source : List Char} {p : Nat} {c : Char}
    (h : source[p]? = some c) (hc : isInstruction c = true) :
    (stripComments source)[instructionsBefore source p]? = some c := by
  rw [stripComments_split h hc, ← length_stripComments_take]
  simp

/-!
## Partners
-/

theorem Balanced.strip {b : Bracket} {w : List Char} (h : Balanced b w) :
    Balanced b (stripComments w) := by
  induction h with
  | nil =>
      exact Balanced.nil
  | plain hsame hother hrest ih =>
      rename_i c w
      cases hc : isInstruction c with
      | true =>
          rw [stripComments_cons_of_instruction hc]
          exact Balanced.plain hsame hother ih
      | false =>
          rw [stripComments_cons_of_comment hc]
          exact ih
  | nest hinner hrest ihinner ihrest =>
      rename_i u v
      rw [stripComments_cons_of_instruction b.isInstruction_toChar, stripComments_append,
        stripComments_cons_of_instruction b.other.isInstruction_toChar]
      exact Balanced.nest ihinner ihrest

/-- A scan meets the same brackets when the comments are stripped. -/
theorem scan?_stripComments_isSome (b : Bracket) (w : List Char) (depth : Nat) :
    (scan? b (stripComments w) depth).isSome = (scan? b w depth).isSome := by
  induction w generalizing depth with
  | nil =>
      rfl
  | cons c w ih =>
      cases hc : isInstruction c with
      | false =>
          have hsame : c ≠ b.toChar := by
            intro h
            rw [h, b.isInstruction_toChar] at hc
            cases hc
          have hother : c ≠ b.other.toChar := by
            intro h
            rw [h, b.other.isInstruction_toChar] at hc
            cases hc
          rw [stripComments_cons_of_comment hc, scan?_plain hsame hother, Option.isSome_map, ih]
      | true =>
          rw [stripComments_cons_of_instruction hc]
          rcases b.char_cases c with rfl | rfl | ⟨hsame, hother⟩
          · rw [scan?_same, scan?_same, Option.isSome_map, Option.isSome_map, ih]
          · cases depth with
            | zero =>
                rw [scan?_other_zero, scan?_other_zero]
            | succ depth =>
                rw [scan?_other_succ, scan?_other_succ, Option.isSome_map, Option.isSome_map, ih]
          · rw [scan?_plain hsame hother, scan?_plain hsame hother, Option.isSome_map,
              Option.isSome_map, ih]

theorem Tokens.Encloses.strip {source : List Char} {i j : Nat}
    (h : Tokens.Encloses source.toArray i j) :
    Tokens.Encloses (stripComments source).toArray (instructionsBefore source i)
      (instructionsBefore source j) := by
  rcases h with ⟨x, u, v, hu, hsource, rfl, rfl⟩
  simp only at hsource
  refine ⟨stripComments x, stripComments u, stripComments v, hu.strip, ?_, ?_, ?_⟩
  · rw [hsource, stripComments_append, stripComments_cons_of_instruction rfl,
      stripComments_append, stripComments_cons_of_instruction rfl]
  · rw [← length_stripComments_take, hsource, List.take_left]
  · rw [← length_stripComments_take, ← length_stripComments_take, hsource, List.take_left]
    have hprefix : x.length + u.length + 1 = (x ++ '[' :: u).length := by
      simp [Nat.add_assoc]
    have hassoc : x ++ '[' :: (u ++ ']' :: v) = (x ++ '[' :: u) ++ ']' :: v := by
      simp
    rw [hassoc, hprefix, List.take_left, stripComments_append,
      stripComments_cons_of_instruction rfl, List.length_append]
    rfl

theorem Tokens.away_stripComments {source : List Char} {b : Bracket} {i : Nat}
    (hi : source[i]? = some b.toChar) :
    Tokens.away (stripComments source).toArray b (instructionsBefore source i) =
      stripComments (Tokens.away source.toArray b i) := by
  have hsplit := stripComments_split hi b.isInstruction_toChar
  cases b with
  | opening =>
      change (stripComments source).drop (instructionsBefore source i + 1) =
        stripComments (source.drop (i + 1))
      rw [hsplit, ← length_stripComments_take]
      simp
  | closing =>
      change ((stripComments source).take (instructionsBefore source i)).reverse =
        stripComments (source.take i).reverse
      rw [hsplit, ← length_stripComments_take, List.take_left]
      simp [stripComments, List.filter_reverse]

/-- The partner of a bracket is found at the corresponding position, or not at all. -/
theorem Tokens.partner?_stripComments {source : List Char} {b : Bracket} {i : Nat}
    (hi : source[i]? = some b.toChar) :
    Tokens.partner? (stripComments source).toArray b (instructionsBefore source i) =
      (Tokens.partner? source.toArray b i).map (instructionsBefore source) := by
  have hplace : (stripComments source).toArray[instructionsBefore source i]? =
      some b.toChar := by
    rw [List.getElem?_toArray]
    exact getElem?_stripComments hi b.isInstruction_toChar
  have hraw : source.toArray[i]? = some b.toChar := by
    rw [List.getElem?_toArray]
    exact hi
  cases hpartner : Tokens.partner? source.toArray b i with
  | some j =>
      have hpartners := (Tokens.partner?_eq_some_iff hraw).mp hpartner
      apply (Tokens.partner?_eq_some_iff hplace).mpr
      cases b with
      | opening =>
          exact Tokens.Encloses.strip hpartners
      | closing =>
          exact Tokens.Encloses.strip hpartners
  | none =>
      have hlt := (Array.getElem?_eq_some_iff.mp hraw).choose
      have hltStripped := (Array.getElem?_eq_some_iff.mp hplace).choose
      rw [Tokens.partner?_eq_scan? _ _ hlt, Option.map_eq_none_iff] at hpartner
      rw [Tokens.partner?_eq_scan? _ _ hltStripped, Tokens.away_stripComments hi]
      have hsome := scan?_stripComments_isSome b (Tokens.away source.toArray b i) 0
      rw [hpartner] at hsome
      have hnone := Option.isNone_iff_eq_none.mp (Option.isSome_eq_false_iff.mp hsome)
      rw [hnone]
      rfl

/-!
## Steps

At a comment the run with comments makes a step that leaves the memory and the
corresponding position as they are.  At an instruction both runs make the same
step.
-/

/-- The fault with its position moved. -/
def Fault.relocate (place : Nat -> Nat) : Fault -> Fault
  | unmatched b p => unmatched b (place p)
  | f => f

theorem relocate_of_effect {setup : Setup} {c : Char} {m m' : Memory} {f : Fault}
    (h : effect setup c m = .fault f m') (place : Nat -> Nat) : f.relocate place = f := by
  cases does_of_effect h with
  | fails hfails =>
      cases hfails <;> rfl
  | outside _ =>
      rfl

theorem step_of_comment (setup : Setup) {source : List Char} {i : Nat} {c : Char}
    (hi : source[i]? = some c) (hc : isInstruction c = false) (m : Memory) (n : Nat) :
    step setup source.toArray (m.stateAt i n) = .running (m.stateAt (i + 1) (n + 1)) ∧
      instructionsBefore source (i + 1) = instructionsBefore source i := by
  constructor
  · have hget : source.toArray[i]? = some c := by
      rw [List.getElem?_toArray]
      exact hi
    exact step_of_next hget (effect_comment setup (isInstruction_eq_false_iff.mp hc) m) n
  · rw [instructionsBefore_succ hi, hc]
    rfl

theorem step_of_instruction (setup : Setup) {source : List Char} {i : Nat} {c : Char}
    (hi : source[i]? = some c) (hc : isInstruction c = true) (m : Memory) (n n' : Nat) :
    (exists (m' : Memory) (j : Nat),
      step setup source.toArray (m.stateAt i n) = .running (m'.stateAt j (n + 1)) ∧
      step setup (stripComments source).toArray
          (m.stateAt (instructionsBefore source i) n') =
        .running (m'.stateAt (instructionsBefore source j) (n' + 1))) ∨
    (exists (f : Fault) (m' : Memory),
      step setup source.toArray (m.stateAt i n) = .faulted f (m'.stateAt i n) ∧
      step setup (stripComments source).toArray
          (m.stateAt (instructionsBefore source i) n') =
        .faulted (f.relocate (instructionsBefore source))
          (m'.stateAt (instructionsBefore source i) n')) := by
  have hraw : source.toArray[i]? = some c := by
    rw [List.getElem?_toArray]
    exact hi
  have hstripped : (stripComments source).toArray[instructionsBefore source i]? = some c := by
    rw [List.getElem?_toArray]
    exact getElem?_stripComments hi hc
  cases heffect : effect setup c m with
  | next m' =>
      refine Or.inl ⟨m', i + 1, step_of_next hraw heffect n, ?_⟩
      rw [step_of_next hstripped heffect n', instructionsBefore_succ hi, hc]
      rfl
  | fault f m' =>
      refine Or.inr ⟨f, m', step_of_fault hraw heffect n, ?_⟩
      rw [step_of_fault hstripped heffect n', relocate_of_effect heffect]
  | jump b =>
      have hbracket : c = b.toChar := bracket_of_effect_jump heffect
      rw [hbracket] at hi
      have hpartner := Tokens.partner?_stripComments hi
      rw [step_of_jump hraw heffect n, step_of_jump hstripped heffect n', hpartner]
      cases hfound : Tokens.partner? source.toArray b i with
      | none =>
          exact Or.inr ⟨.unmatched b i, m, rfl, rfl⟩
      | some j =>
          refine Or.inl ⟨m, j + 1, rfl, ?_⟩
          rw [hbracket] at hraw
          have hpartners := (Tokens.partner?_eq_some_iff hraw).mp hfound
          have hj := hpartners.symm.bracket_at
          rw [List.getElem?_toArray] at hj
          rw [instructionsBefore_succ hj, b.other.isInstruction_toChar]
          rfl

/-!
## Counting comments
-/

def Step.atComment (code : Tokens) : Step -> Bool
  | running s => code[s.index]?.any fun c => !isInstruction c
  | finished _ => false
  | faulted _ _ => false

/-- The number of comments among the tokens of the first `n` steps. -/
def commentsPassed (setup : Setup) (code : Tokens) (n : Nat) (s : State) : Nat :=
  (List.range n).countP fun k => (steps setup code k s).atComment code

theorem commentsPassed_succ {setup : Setup} {code : Tokens} {s t : State}
    (h : step setup code s = .running t) (n : Nat) :
    commentsPassed setup code (n + 1) s =
      commentsPassed setup code n t + (if (Step.running s).atComment code then 1 else 0) := by
  have hshift : forall k, steps setup code (k + 1) s = steps setup code k t := by
    intro k
    rw [steps_succ, h]
    rfl
  rw [commentsPassed, List.range_succ_eq_map, List.countP_cons, List.countP_map]
  rw [commentsPassed, steps_zero]
  congr 2
  funext k
  exact congrArg (Step.atComment code) (hshift k)

theorem atComment_stateAt {source : List Char} {i : Nat} {c : Char}
    (hi : source[i]? = some c) (m : Memory) (n : Nat) :
    (Step.running (m.stateAt i n)).atComment source.toArray = !isInstruction c := by
  change source.toArray[i]?.any (fun c => !isInstruction c) = _
  rw [List.getElem?_toArray, hi]
  rfl

/-!
## Runs
-/

/-- The endings of a run with comments and of one without are the same up to the
positions in the program. -/
structure Ending.Corresponds (source : List Char) (e e' : Ending) : Prop where
  memory : e'.state.memory = e.state.memory
  index : e'.state.index = instructionsBefore source e.state.index
  fault : e'.fault = e.fault.map (Fault.relocate (instructionsBefore source))

/-- A run with comments that ends is followed by the run without them. -/
theorem scanning_stripComments {setup : Setup} {source : List Char} {fuel i n : Nat}
    {m : Memory} {e : Ending}
    (h : scanning setup source.toArray fuel (m.stateAt i n) = some e) (n' : Nat) :
    exists fuel' e' k,
      scanning setup (stripComments source).toArray fuel'
        (m.stateAt (instructionsBefore source i) n') = some e' ∧
      e.Corresponds source e' ∧
      e.state.steps = n + k ∧
      e'.state.steps + commentsPassed setup source.toArray k (m.stateAt i n) = n' + k := by
  induction fuel generalizing i n m n' with
  | zero =>
      cases h
  | succ fuel ih =>
      rw [scanning] at h
      cases hi : source[i]? with
      | none =>
          have hle : source.length ≤ i := List.getElem?_eq_none_iff.mp hi
          have hraw : source.toArray.size ≤ i := by simpa using hle
          have hstripped : (stripComments source).toArray.size ≤ instructionsBefore source i := by
            rw [instructionsBefore_of_length_le hle]
            simp
          rw [step_of_end hraw] at h
          cases h
          refine ⟨1, ⟨m.stateAt (instructionsBefore source i) n', none⟩, 0, ?_,
            ⟨rfl, rfl, rfl⟩, rfl, rfl⟩
          rw [scanning, step_of_end hstripped]
      | some c =>
          cases hc : isInstruction c with
          | false =>
              rcases step_of_comment setup hi hc m n with ⟨hstep, hplace⟩
              rw [hstep] at h
              rcases ih h n' with ⟨fuel', e', k, hend, hcorresponds, hsteps, hcount⟩
              rw [hplace] at hend
              refine ⟨fuel', e', k + 1, hend, hcorresponds, by omega, ?_⟩
              rw [commentsPassed_succ hstep, atComment_stateAt hi, hc]
              simp only [Bool.not_false, if_true]
              omega
          | true =>
              rcases step_of_instruction setup hi hc m n n' with
                ⟨m', j, hraw, hstripped⟩ | ⟨f, m', hraw, hstripped⟩
              · rw [hraw] at h
                rcases ih h (n' + 1) with ⟨fuel', e', k, hend, hcorresponds, hsteps, hcount⟩
                refine ⟨fuel' + 1, e', k + 1, ?_, hcorresponds, by omega, ?_⟩
                · rw [scanning, hstripped]
                  exact hend
                · rw [commentsPassed_succ hraw, atComment_stateAt hi, hc]
                  simp only [Bool.not_true, if_false, Bool.false_eq_true]
                  omega
              · rw [hraw] at h
                cases h
                refine ⟨1, ⟨m'.stateAt (instructionsBefore source i) n', some _⟩, 0, ?_,
                  ⟨rfl, rfl, rfl⟩, rfl, rfl⟩
                rw [scanning, hstripped]

/-- The run with comments comes to the next instruction, or to the end. -/
theorem steps_to_instruction (setup : Setup) (source : List Char) (m : Memory) (i n : Nat) :
    exists k, steps setup source.toArray k (m.stateAt i n) =
        .running (m.stateAt (i + k) (n + k)) ∧
      instructionsBefore source (i + k) = instructionsBefore source i ∧
      forall c, source[i + k]? = some c -> isInstruction c = true := by
  induction hlength : source.length - i generalizing i n with
  | zero =>
      refine ⟨0, rfl, rfl, ?_⟩
      intro c hc
      have hlt := (List.getElem?_eq_some_iff.mp hc).choose
      omega
  | succ d ih =>
      cases hi : source[i]? with
      | none =>
          have hle := List.getElem?_eq_none_iff.mp hi
          omega
      | some c =>
          cases hc : isInstruction c with
          | true =>
              refine ⟨0, rfl, rfl, ?_⟩
              intro c' hc'
              rw [Nat.add_zero, hi] at hc'
              cases hc'
              exact hc
          | false =>
              rcases step_of_comment setup hi hc m n with ⟨hstep, hplace⟩
              rcases ih (i + 1) (n + 1) (by omega) with ⟨k, hsteps, hplaces, hnext⟩
              have hindex : i + 1 + k = i + (k + 1) := by omega
              have hcount : n + 1 + k = n + (k + 1) := by omega
              rw [hindex] at hsteps hplaces hnext
              rw [hcount] at hsteps
              refine ⟨k + 1, ?_, hplaces.trans hplace, hnext⟩
              rw [steps_succ, hstep]
              exact hsteps

theorem scanning_of_stripComments {setup : Setup} {source : List Char} {fuel' i n' : Nat}
    {m : Memory} {e' : Ending}
    (h : scanning setup (stripComments source).toArray fuel'
      (m.stateAt (instructionsBefore source i) n') = some e') (n : Nat) :
    exists fuel e, scanning setup source.toArray fuel (m.stateAt i n) = some e := by
  induction fuel' generalizing i n m n' with
  | zero =>
      cases h
  | succ fuel' ih =>
      rcases steps_to_instruction setup source m i n with ⟨k, hsteps, hplace, hnext⟩
      rw [← hplace] at h
      cases hi : source[i + k]? with
      | none =>
          have hend : source.toArray.size ≤ i + k := by
            simpa using List.getElem?_eq_none_iff.mp hi
          refine ⟨k + 1, ⟨m.stateAt (i + k) (n + k), none⟩, ?_⟩
          rw [scanning_of_steps hsteps, scanning, step_of_end hend]
      | some c =>
          rcases step_of_instruction setup hi (hnext c hi) m (n + k) n' with
            ⟨m', j, hraw, hstripped⟩ | ⟨f, m', hraw, hstripped⟩
          · rw [scanning, hstripped] at h
            rcases ih h (n + k + 1) with ⟨fuel, e, hend⟩
            refine ⟨k + (fuel + 1), e, ?_⟩
            rw [scanning_of_steps hsteps, scanning, hraw]
            exact hend
          · refine ⟨k + 1, ⟨m'.stateAt (i + k) (n + k), some f⟩, ?_⟩
            rw [scanning_of_steps hsteps, scanning, hraw]

/-!
## Runs of an interpreter
-/

/-- The position at which the log says that the run was aborted. -/
def RunReport.abortIndex? (r : RunReport) : Option Nat :=
  r.log.findSome? fun entry =>
    match entry with
    | .aborted index _ => some index
    | _ => none

/-- The results of a run with comments and of one without them agree: the former
took as many more steps as it passed comments, or both met the same fault, at
corresponding positions. -/
def ResultsAgree (source : List Char) (passed : Nat -> Nat) :
    Except Fault Nat -> Except Fault Nat -> Prop
  | .ok n, .ok n' => n = n' + passed n
  | .error f, .error f' => f' = f.relocate (instructionsBefore source)
  | _, _ => False

structure RunReport.Agrees (source : List Char) (passed : Nat -> Nat) (r r' : RunReport) :
    Prop where
  output : r'.output = r.output
  input : r'.input = r.input
  tape : r'.before.tape = r.before.tape
  pointer : r'.before.pointer = r.before.pointer
  result : ResultsAgree source passed r.result r'.result
  abort : r'.abortIndex? = r.abortIndex?.map (instructionsBefore source)

namespace Interpreter

def withRawInput (itp : Interpreter) (v : Value) : Interpreter :=
  { itp with settings := itp.settings.setFlag .rawInput v }

/-- The number of comments among the tokens of the first `n` steps of a run. -/
def commentsPassed (itp : Interpreter) (source : List Char) (input : Input) (n : Nat) : Nat :=
  (List.range n).countP fun k =>
    (itp.moment? source input k).any (Step.atComment (itp.settings.tokens source))

theorem commentsPassed_eq {itp : Interpreter} {setup : Setup}
    (hsetup : itp.settings.setup? = some setup) (source : List Char) (input : Input) (n : Nat) :
    itp.commentsPassed source input n =
      TapeMachine.commentsPassed setup (itp.settings.tokens source) n (itp.start input) := by
  unfold commentsPassed TapeMachine.commentsPassed
  congr 1
  funext k
  rw [moment?_eq_steps hsetup]
  rfl

theorem tokens_raw (itp : Interpreter) {v : Value} (hv : v.truthy = true) (source : List Char) :
    (itp.withRawInput v).settings.tokens source = source.toArray := by
  simp [withRawInput, Settings.setFlag, Settings.tokens, Settings.stripsComments, hv]

theorem tokens_stripped (itp : Interpreter) {v : Value} (hv : v.truthy = false)
    (source : List Char) :
    (itp.withRawInput v).settings.tokens source = (stripComments source).toArray := by
  simp [withRawInput, Settings.setFlag, Settings.tokens, Settings.stripsComments, hv]

theorem agrees_of_corresponds {itp itp' : Interpreter} {source : List Char}
    {passed : Nat -> Nat} {e e' : Ending} (h : e.Corresponds source e')
    (hsteps : e.state.steps = e'.state.steps + passed e.state.steps)
    (size size' : Nat) (limit : Int) (known known' : JumpTable) :
    (itp.report (.running size limit) e known).Agrees source passed
      (itp'.report (.running size' limit) e' known') := by
  rcases e with ⟨s, fault⟩
  rcases e' with ⟨s', fault'⟩
  rcases h with ⟨hmemory, hindex, hfault⟩
  simp only at hmemory hindex hfault hsteps
  subst hfault
  refine ⟨congrArg Memory.output hmemory, congrArg Memory.input hmemory,
    congrArg Memory.tape hmemory, congrArg Memory.pointer hmemory, ?_, ?_⟩
  · cases fault with
    | none =>
        exact hsteps
    | some f =>
        rfl
  · cases fault with
    | none =>
        rfl
    | some f =>
        cases f <;>
          simp [report, endingLog, RunReport.abortIndex?, Fault.relocate, Fault.isReported, hindex]

/-- Keeping the comments in a program makes no difference.  The run with them
ends exactly if the run without them does; and then both leave the same memory
and meet the same end, at corresponding positions, the former after as many more
steps as it passed comments. -/
theorem run_agrees_without_comments (itp : Interpreter) (v w : Value) (source : List Char)
    (input : Input) (hv : v.truthy = true) (hw : w.truthy = false) :
    ((exists fuel r, (itp.withRawInput v).run fuel source input = .ok (some r)) <->
      exists fuel r, (itp.withRawInput w).run fuel source input = .ok (some r)) ∧
    forall fuel fuel' r r',
      (itp.withRawInput v).run fuel source input = .ok (some r) ->
      (itp.withRawInput w).run fuel' source input = .ok (some r') ->
      r.Agrees source ((itp.withRawInput v).commentsPassed source input) r' := by
  have htokens := itp.tokens_raw hv source
  have htokens' := itp.tokens_stripped hw source
  have hsame : (itp.withRawInput v).settings.setup? = (itp.withRawInput w).settings.setup? := rfl
  refine ⟨⟨?_, ?_⟩, ?_⟩
  · intro h
    rcases h with ⟨fuel, r, hrun⟩
    rcases scanning_of_run hrun with ⟨setup, e, known, hsetup, hend, _⟩
    rw [htokens] at hend
    rcases scanning_stripComments (m := (itp.start input).memory) (i := 0) hend 0 with
      ⟨fuel', e', k, hend', _, _, _⟩
    rw [hsame] at hsetup
    rw [← htokens'] at hend'
    rcases run_of_scanning hsetup hend' with ⟨known', hrun'⟩
    exact ⟨fuel', _, hrun'⟩
  · intro h
    rcases h with ⟨fuel', r', hrun'⟩
    rcases scanning_of_run hrun' with ⟨setup, e', known, hsetup, hend', _⟩
    rw [htokens'] at hend'
    rcases scanning_of_stripComments (m := (itp.start input).memory) (i := 0) hend' 0 with
      ⟨fuel, e, hend⟩
    rw [← hsame] at hsetup
    rw [← htokens] at hend
    rcases run_of_scanning hsetup hend with ⟨known', hrun⟩
    exact ⟨fuel, _, hrun⟩
  · intro fuel fuel' r r' hrun hrun'
    rcases scanning_of_run hrun with ⟨setup, e, known, hsetup, hend, rfl⟩
    rcases scanning_of_run hrun' with ⟨setup', e', known', hsetup', hend', rfl⟩
    rw [← hsame, hsetup] at hsetup'
    cases hsetup'
    rw [htokens] at hend
    rw [htokens'] at hend'
    rcases scanning_stripComments (m := (itp.start input).memory) (i := 0) hend 0 with
      ⟨fuel'', e'', k, hend'', hcorresponds, hsteps, hcount⟩
    have hunique : e' = e'' := scanning_unique hend' hend''
    subst hunique
    apply agrees_of_corresponds hcorresponds
    rw [Nat.zero_add] at hsteps hcount
    rw [commentsPassed_eq hsetup, htokens, hsteps]
    exact hcount.symm

/-- The program `+a-[b].` passes its first comment and jumps over the second. -/
theorem run_agrees_without_comments_jump :
    let itp : Interpreter := { settings := { tapeSize := .int 2 }, tape := Tape.blank 1 }
    let v : Value := .bool true
    let w : Value := .int 0
    let source := "+a-[b].".toList
    let input := Input.ofString ""
    v.truthy = true ∧ w.truthy = false ∧
      ((exists fuel r, (itp.withRawInput v).run fuel source input = .ok (some r)) <->
        exists fuel r, (itp.withRawInput w).run fuel source input = .ok (some r)) ∧
      forall fuel fuel' r r',
        (itp.withRawInput v).run fuel source input = .ok (some r) ->
        (itp.withRawInput w).run fuel' source input = .ok (some r') ->
        r.Agrees source ((itp.withRawInput v).commentsPassed source input) r' := by
  intro itp v w source input
  have hv : v.truthy = true := by decide
  have hw : w.truthy = false := by decide
  exact ⟨hv, hw, run_agrees_without_comments itp v w source input hv hw⟩

end Interpreter

end TapeMachine
