import TapeMachine.Proofs.Machine.JumpTable

/-!
# Structured programs

A program whose brackets match is a tree of actions, comments and loops.  A tree
has a meaning of its own, given by recursion on the tree and without any place
in a text: a loop tests the cell, runs its body, and tests the cell again at the
end of each pass.  The machine, which jumps between the positions of the flat
text, gives every tree that meaning.
-/

namespace TapeMachine

/-!
## Trees
-/

/-- A program as a tree of actions, comments and loops. -/
inductive Block where
  | done
  | act (a : Action) (rest : Block)
  | comment (c : Char) (h : Instruction.ofChar? c = none) (rest : Block)
  | loop (body rest : Block)

namespace Block

def text : Block -> List Char
  | done => []
  | act a rest => a.toChar :: rest.text
  | comment c _ rest => c :: rest.text
  | loop body rest => '[' :: (body.text ++ ']' :: rest.text)

def tokens (b : Block) : Tokens :=
  b.text.toArray

end Block

theorem Action.toChar_ne_bracket (a : Action) (b : Bracket) : a.toChar ≠ b.toChar := by
  cases a <;> cases b <;> decide

theorem Bracket.toChar_ne_of_comment {c : Char} (h : Instruction.ofChar? c = none)
    (b : Bracket) : c ≠ b.toChar := by
  intro hc
  rw [hc] at h
  cases b <;> cases h

theorem Block.balanced_text (b : Block) : Balanced .opening b.text := by
  induction b with
  | done =>
      exact Balanced.nil
  | act a rest ih =>
      exact Balanced.plain (a.toChar_ne_bracket _) (a.toChar_ne_bracket _) ih
  | comment c h rest ih =>
      exact Balanced.plain (Bracket.toChar_ne_of_comment h _)
        (Bracket.toChar_ne_of_comment h _) ih
  | loop body rest ihbody ihrest =>
      exact Balanced.nest ihbody ihrest

theorem Block.text_of_balanced {w : List Char} (h : Balanced .opening w) :
    exists b : Block, b.text = w := by
  induction h with
  | nil =>
      exact ⟨Block.done, rfl⟩
  | plain hopening hclosing hrest ih =>
      rename_i c w
      rcases ih with ⟨rest, rfl⟩
      rcases token_cases c with hcomment | ⟨a, rfl⟩ | ⟨b, rfl⟩
      · exact ⟨Block.comment c hcomment rest, rfl⟩
      · exact ⟨Block.act a rest, rfl⟩
      · cases b with
        | opening =>
            exact absurd rfl hopening
        | closing =>
            exact absurd rfl hclosing
  | nest _ _ ihinner ihrest =>
      rcases ihinner with ⟨body, rfl⟩
      rcases ihrest with ⟨rest, rfl⟩
      exact ⟨Block.loop body rest, rfl⟩

/-!
## The meaning of a tree

The cost of a run is one for every action and comment, one for the test on
arrival at a loop and one for the test at the end of each pass.
-/

/-- What running a tree comes to. -/
inductive Outcome where
  | finished (m : Memory) (cost : Nat)
  | faulted (f : Fault) (m : Memory)

/-- The outcome when `cost` more tokens come first. -/
def Outcome.later (cost : Nat) : Outcome -> Outcome
  | finished m n => finished m (cost + n)
  | faulted f m => faulted f m

/-- Which outcomes a memory leads to. -/
abbrev Meaning := Memory -> Outcome -> Prop

inductive Act (setup : Setup) (a : Action) : Meaning where
  | performs {m m' : Memory} :
      Performs setup a m m' ->
      Act setup a m (.finished m' 1)
  | fails {m m' : Memory} {f : Fault} :
      Fails setup a m f m' ->
      Act setup a m (.faulted f m')

inductive Pass : Meaning where
  | pass {m : Memory} : Pass m (.finished m 1)

/-- One meaning after another. -/
inductive Then (first second : Meaning) : Meaning where
  | stop {m m' : Memory} {f : Fault} :
      first m (.faulted f m') ->
      Then first second m (.faulted f m')
  | next {m m' : Memory} {cost : Nat} {o : Outcome} :
      first m (.finished m' cost) ->
      second m' o ->
      Then first second m (o.later cost)

/-- The passes through the body of a loop: the cell is tested at the end of each. -/
inductive Passes (body : Meaning) : Meaning where
  | stop {m m' : Memory} {f : Fault} :
      body m (.faulted f m') ->
      Passes body m (.faulted f m')
  | outside {m m' : Memory} {cost : Nat} :
      body m (.finished m' cost) ->
      m'.cell? = none ->
      Passes body m (.faulted m'.outside m')
  | last {m m' : Memory} {cost : Nat} :
      body m (.finished m' cost) ->
      m'.cell? = some 0 ->
      Passes body m (.finished m' (cost + 1))
  | again {m m' : Memory} {cost : Nat} {v : UInt8} {o : Outcome} :
      body m (.finished m' cost) ->
      m'.cell? = some v ->
      v ≠ 0 ->
      Passes body m' o ->
      Passes body m (o.later (cost + 1))

/-- The meaning of a loop: the cell is tested once on arrival. -/
inductive Loop (body : Meaning) : Meaning where
  | outside {m : Memory} :
      m.cell? = none ->
      Loop body m (.faulted m.outside m)
  | skip {m : Memory} :
      m.cell? = some 0 ->
      Loop body m (.finished m 1)
  | enter {m : Memory} {v : UInt8} {o : Outcome} :
      m.cell? = some v ->
      v ≠ 0 ->
      Passes body m o ->
      Loop body m (o.later 1)

def Block.Exec (setup : Setup) : Block -> Meaning
  | done => fun m o => o = .finished m 0
  | act a rest => Then (Act setup a) (rest.Exec setup)
  | comment _ _ rest => Then Pass (rest.Exec setup)
  | loop body rest => Then (Loop (body.Exec setup)) (rest.Exec setup)

/-!
## The machine on a stretch of the program

A stretch of the program from position `i` up to position `j` realizes a meaning
when the machine that enters it at `i` leaves it at `j` with one of the outcomes
of the meaning, after as many steps as it costs, or meets its fault; and when
there is an outcome at all whenever the machine ends.
-/

/-- The machine that enters at `i` with this memory comes to the outcome, and is
then at `j` if there was no fault. -/
def Attains (setup : Setup) (code : Tokens) (i j : Nat) (m : Memory) : Outcome -> Prop
  | .finished m' cost =>
      forall n, steps setup code cost (m.stateAt i n) = .running (m'.stateAt j (n + cost))
  | .faulted f m' =>
      forall n, exists k p,
        steps setup code (k + 1) (m.stateAt i n) = .faulted f (m'.stateAt p (n + k))

structure Realizes (setup : Setup) (code : Tokens) (i j : Nat) (meaning : Meaning) : Prop where
  attains : forall {m o}, meaning m o -> Attains setup code i j m o
  total : forall {m n fuel e},
    scanning setup code fuel (m.stateAt i n) = some e -> exists o, meaning m o

/-- A run that ended has passed through every state it reaches. -/
theorem scanning_after {setup : Setup} {code : Tokens} {fuel k : Nat} {s t : State} {e : Ending}
    (hend : scanning setup code fuel s = some e)
    (hsteps : steps setup code k s = .running t) :
    exists rest, fuel = k + rest ∧ scanning setup code rest t = some e := by
  by_cases hle : fuel ≤ k
  · have hlonger := scanning_add hend (k - fuel)
    rw [Nat.add_sub_cancel' hle, scanning_eq_ending?, hsteps] at hlonger
    cases hlonger
  · refine ⟨fuel - k, by omega, ?_⟩
    rw [← scanning_of_steps hsteps, Nat.add_sub_cancel' (Nat.le_of_not_le hle)]
    exact hend

theorem attains_one_of_running {setup : Setup} {code : Tokens} {i j : Nat} {m m' : Memory}
    (h : forall n, step setup code (m.stateAt i n) = .running (m'.stateAt j (n + 1))) :
    Attains setup code i j m (.finished m' 1) := by
  intro n
  rw [steps_one, h]

theorem attains_of_faulted {setup : Setup} {code : Tokens} {i j : Nat} {m m' : Memory}
    {f : Fault}
    (h : forall n, step setup code (m.stateAt i n) = .faulted f (m'.stateAt i n)) :
    Attains setup code i j m (.faulted f m') := by
  intro n
  refine ⟨0, i, ?_⟩
  rw [steps_succ, h]
  rfl

/-- The outcome of a stretch that is entered from the end of another one. -/
theorem Attains.later {setup : Setup} {code : Tokens} {i j l : Nat} {m m' : Memory}
    {cost : Nat} {o : Outcome}
    (hfirst : Attains setup code i j m (.finished m' cost))
    (hsecond : Attains setup code j l m' o) :
    Attains setup code i l m (o.later cost) := by
  cases o with
  | finished m'' cost' =>
      intro n
      have h := hsecond (n + cost)
      rw [steps_add, hfirst n]
      rw [Nat.add_assoc] at h
      exact h
  | faulted f m'' =>
      intro n
      rcases hsecond (n + cost) with ⟨k, p, h⟩
      refine ⟨cost + k, p, ?_⟩
      rw [Nat.add_assoc, steps_add, hfirst n]
      rw [Nat.add_assoc] at h
      exact h

theorem Realizes.sequence {setup : Setup} {code : Tokens} {i j l : Nat} {first second : Meaning}
    (hfirst : Realizes setup code i j first) (hsecond : Realizes setup code j l second) :
    Realizes setup code i l (Then first second) := by
  constructor
  · intro m o h
    cases h with
    | stop hstop =>
        exact hfirst.attains hstop
    | next hdone hnext =>
        exact (hfirst.attains hdone).later (hsecond.attains hnext)
  · intro m n fuel e hend
    rcases hfirst.total hend with ⟨o, ho⟩
    cases o with
    | faulted f m' =>
        exact ⟨_, Then.stop ho⟩
    | finished m' cost =>
        rcases scanning_after hend (hfirst.attains ho n) with ⟨rest, _, hrest⟩
        rcases hsecond.total hrest with ⟨o', ho'⟩
        exact ⟨_, Then.next ho ho'⟩

theorem realizes_act {setup : Setup} {code : Tokens} {i : Nat} {a : Action}
    (hi : code[i]? = some a.toChar) : Realizes setup code i (i + 1) (Act setup a) := by
  constructor
  · intro m o h
    cases h with
    | performs hperforms =>
        exact attains_one_of_running (step_of_next hi hperforms.effect_eq)
    | fails hfails =>
        exact attains_of_faulted (step_of_fault hi hfails.effect_eq)
  · intro m n fuel e _
    rcases performs_or_fails setup a m with ⟨m', hperforms⟩ | ⟨f, m', hfails⟩
    · exact ⟨_, Act.performs hperforms⟩
    · exact ⟨_, Act.fails hfails⟩

theorem realizes_pass {setup : Setup} {code : Tokens} {i : Nat} {c : Char}
    (hi : code[i]? = some c) (hc : Instruction.ofChar? c = none) :
    Realizes setup code i (i + 1) Pass := by
  constructor
  · intro m o h
    cases h
    exact attains_one_of_running (step_of_next hi (effect_comment setup hc m))
  · intro m n fuel e _
    exact ⟨_, Pass.pass⟩

/-!
## Loops

A loop is the stretch from an opening bracket to behind its partner.  Its two
brackets test the cell and lead behind each other.
-/

theorem step_of_bracket_outside {setup : Setup} {code : Tokens} {i : Nat} {b : Bracket}
    {m : Memory} (hi : code[i]? = some b.toChar) (hcell : m.cell? = none) (n : Nat) :
    step setup code (m.stateAt i n) = .faulted m.outside (m.stateAt i n) := by
  apply step_of_fault hi
  rw [effect_bracket, hcell]

theorem step_of_bracket_stay {setup : Setup} {code : Tokens} {i : Nat} {b : Bracket}
    {m : Memory} {v : UInt8} (hi : code[i]? = some b.toChar) (hcell : m.cell? = some v)
    (hjumps : b.jumps v = false) (n : Nat) :
    step setup code (m.stateAt i n) = .running (m.stateAt (i + 1) (n + 1)) := by
  apply step_of_next hi
  rw [effect_bracket, hcell]
  simp [hjumps]

theorem step_of_bracket_jump {setup : Setup} {code : Tokens} {i j : Nat} {b : Bracket}
    {m : Memory} {v : UInt8} (hpartners : code.Partners b i j) (hcell : m.cell? = some v)
    (hjumps : b.jumps v = true) (n : Nat) :
    step setup code (m.stateAt i n) = .running (m.stateAt (j + 1) (n + 1)) := by
  have hi := hpartners.bracket_at
  have heffect : effect setup b.toChar m = .jump b := by
    rw [effect_bracket, hcell]
    simp [hjumps]
  rw [step_of_jump hi heffect, (Tokens.partner?_eq_some_iff hi).mpr hpartners]

theorem Bracket.opening_jumps (v : UInt8) : Bracket.opening.jumps v = (v == 0) := by
  unfold jumps
  cases v == 0 <;> rfl

theorem Bracket.closing_jumps (v : UInt8) : Bracket.closing.jumps v = !(v == 0) := by
  unfold jumps
  cases v == 0 <;> rfl

theorem attains_last {setup : Setup} {code : Tokens} {i j : Nat} {m : Memory}
    (hloop : code.Encloses i j) (hcell : m.cell? = some 0) :
    Attains setup code j (j + 1) m (.finished m 1) := by
  have hj : code[j]? = some Bracket.closing.toChar := hloop.closing_at
  apply attains_one_of_running
  exact step_of_bracket_stay hj hcell (Bracket.closing_jumps 0)

theorem attains_again {setup : Setup} {code : Tokens} {i j : Nat} {m : Memory} {v : UInt8}
    (hloop : code.Encloses i j) (hcell : m.cell? = some v) (hv : v ≠ 0) :
    Attains setup code j (i + 1) m (.finished m 1) := by
  have hpartners : code.Partners .closing j i := hloop
  have hjumps : Bracket.closing.jumps v = true := by
    rw [Bracket.closing_jumps, beq_false_of_ne hv]
    rfl
  exact attains_one_of_running (step_of_bracket_jump hpartners hcell hjumps)

theorem realizes_passes {setup : Setup} {code : Tokens} {i j : Nat} {body : Meaning}
    (hloop : code.Encloses i j) (hbody : Realizes setup code (i + 1) j body) :
    Realizes setup code (i + 1) (j + 1) (Passes body) := by
  have hj : code[j]? = some Bracket.closing.toChar := hloop.closing_at
  constructor
  · intro m o h
    induction h with
    | stop hstop =>
        exact hbody.attains hstop
    | outside hdone hcell =>
        rename_i m' cost
        have htest : Attains setup code j (j + 1) m' (.faulted m'.outside m') :=
          attains_of_faulted (step_of_bracket_outside hj hcell)
        exact (hbody.attains hdone).later htest
    | last hdone hcell =>
        exact (hbody.attains hdone).later (attains_last hloop hcell)
    | again hdone hcell hv _ ih =>
        have hpass := (hbody.attains hdone).later (attains_again hloop hcell hv)
        exact Attains.later hpass ih
  · intro m n fuel e hend
    -- Each further pass leaves a shorter run.
    induction fuel using Nat.strongRecOn generalizing m n with
    | ind fuel ih =>
        rcases hbody.total hend with ⟨o, ho⟩
        cases o with
        | faulted f m' =>
            exact ⟨_, Passes.stop ho⟩
        | finished m' cost =>
            cases hcell : m'.cell? with
            | none =>
                exact ⟨_, Passes.outside ho hcell⟩
            | some v =>
                by_cases hv : v = 0
                · rw [hv] at hcell
                  exact ⟨_, Passes.last ho hcell⟩
                · have hpass := (hbody.attains ho).later (attains_again hloop hcell hv)
                  rcases scanning_after hend (hpass n) with ⟨rest, hfuel, hrest⟩
                  rcases ih rest (by omega) hrest with ⟨o', ho'⟩
                  exact ⟨_, Passes.again ho hcell hv ho'⟩

theorem realizes_loop {setup : Setup} {code : Tokens} {i j : Nat} {body : Meaning}
    (hloop : code.Encloses i j) (hbody : Realizes setup code (i + 1) j body) :
    Realizes setup code i (j + 1) (Loop body) := by
  have hi : code[i]? = some Bracket.opening.toChar := hloop.opening_at
  have hpasses := realizes_passes hloop hbody
  have henter : forall {m : Memory} {v : UInt8}, m.cell? = some v -> v ≠ 0 ->
      Attains setup code i (i + 1) m (.finished m 1) := by
    intro m v hcell hv
    apply attains_one_of_running
    apply step_of_bracket_stay hi hcell
    rw [Bracket.opening_jumps, beq_false_of_ne hv]
  constructor
  · intro m o h
    cases h with
    | outside hcell =>
        exact attains_of_faulted (step_of_bracket_outside hi hcell)
    | skip hcell =>
        have hpartners : code.Partners .opening i j := hloop
        apply attains_one_of_running
        exact step_of_bracket_jump hpartners hcell (Bracket.opening_jumps 0)
    | enter hcell hv hrest =>
        exact (henter hcell hv).later (hpasses.attains hrest)
  · intro m n fuel e hend
    cases hcell : m.cell? with
    | none =>
        exact ⟨_, Loop.outside hcell⟩
    | some v =>
        by_cases hv : v = 0
        · rw [hv] at hcell
          exact ⟨_, Loop.skip hcell⟩
        · rcases scanning_after hend (henter hcell hv n) with ⟨rest, _, hrest⟩
          rcases hpasses.total hrest with ⟨o, ho⟩
          exact ⟨_, Loop.enter hcell hv ho⟩

/-!
## Trees in a program
-/

def Tokens.HoldsAt (code : Tokens) (i : Nat) (w : List Char) : Prop :=
  exists x y : List Char, code.toList = x ++ (w ++ y) ∧ x.length = i

theorem Tokens.HoldsAt.head {code : Tokens} {i : Nat} {c : Char} {w : List Char}
    (h : code.HoldsAt i (c :: w)) : code[i]? = some c := by
  rcases h with ⟨x, y, hcode, rfl⟩
  rw [← Array.getElem?_toList, hcode]
  simp

theorem Tokens.HoldsAt.suffix {code : Tokens} {i : Nat} {u v : List Char}
    (h : code.HoldsAt i (u ++ v)) : code.HoldsAt (i + u.length) v := by
  rcases h with ⟨x, y, hcode, rfl⟩
  refine ⟨x ++ u, y, ?_, by simp⟩
  rw [hcode]
  simp

theorem Tokens.HoldsAt.initial {code : Tokens} {i : Nat} {u v : List Char}
    (h : code.HoldsAt i (u ++ v)) : code.HoldsAt i u := by
  rcases h with ⟨x, y, hcode, rfl⟩
  refine ⟨x, v ++ y, ?_, rfl⟩
  rw [hcode]
  simp

theorem Tokens.HoldsAt.encloses {code : Tokens} {i : Nat} {u v : List Char}
    (h : code.HoldsAt i ('[' :: (u ++ ']' :: v))) (hu : Balanced .opening u) :
    code.Encloses i (i + u.length + 1) := by
  rcases h with ⟨x, y, hcode, rfl⟩
  refine ⟨x, u, v ++ y, hu, ?_, rfl, rfl⟩
  rw [hcode]
  simp

/-- The machine gives a tree its meaning wherever the tree stands. -/
theorem realizes_block (setup : Setup) {code : Tokens} {i : Nat} {b : Block}
    (h : code.HoldsAt i b.text) :
    Realizes setup code i (i + b.text.length) (b.Exec setup) := by
  induction b generalizing i with
  | done =>
      constructor
      · intro m o ho
        cases ho
        intro n
        rfl
      · intro m n fuel e _
        exact ⟨_, rfl⟩
  | act a rest ih =>
      have hrest := ih (Tokens.HoldsAt.suffix (u := [a.toChar]) h)
      have hlength : i + (Block.act a rest).text.length = i + 1 + rest.text.length := by
        simp only [Block.text, List.length_cons]
        omega
      rw [hlength]
      exact (realizes_act h.head).sequence hrest
  | comment c hc rest ih =>
      have hrest := ih (Tokens.HoldsAt.suffix (u := [c]) h)
      have hlength : i + (Block.comment c hc rest).text.length = i + 1 + rest.text.length := by
        simp only [Block.text, List.length_cons]
        omega
      rw [hlength]
      exact (realizes_pass h.head hc).sequence hrest
  | loop body rest ihbody ihrest =>
      have hinside : code.HoldsAt (i + 1) (body.text ++ ']' :: rest.text) :=
        Tokens.HoldsAt.suffix (u := ['[']) h
      have hbehind : code.HoldsAt (i + 1 + body.text.length + 1) rest.text :=
        Tokens.HoldsAt.suffix (u := [']']) hinside.suffix
      have hindex : i + body.text.length + 1 = i + 1 + body.text.length := by omega
      have hencloses := h.encloses body.balanced_text
      rw [hindex] at hencloses
      have hloop := realizes_loop hencloses (ihbody hinside.initial)
      have hlength : i + (Block.loop body rest).text.length =
          i + 1 + body.text.length + 1 + rest.text.length := by
        simp only [Block.text, List.length_cons, List.length_append]
        omega
      rw [hlength]
      exact hloop.sequence (ihrest hbehind)

def Ending.outcome (e : Ending) : Outcome :=
  match e.fault with
  | none => .finished e.state.memory e.state.steps
  | some f => .faulted f e.state.memory

theorem exec_iff_scanning {setup : Setup} {b : Block} {m : Memory} {o : Outcome} :
    b.Exec setup m o <->
      exists fuel e, scanning setup b.tokens fuel (m.stateAt 0 0) = some e ∧ e.outcome = o := by
  have hholds : b.tokens.HoldsAt 0 b.text := ⟨[], [], by simp [Block.tokens], rfl⟩
  have hwhole := realizes_block setup hholds
  have hends : forall {o}, b.Exec setup m o ->
      exists fuel e, scanning setup b.tokens fuel (m.stateAt 0 0) = some e ∧ e.outcome = o := by
    intro o ho
    cases o with
    | finished m' cost =>
        have hsteps := hwhole.attains ho 0
        have hlast : b.tokens.size ≤ 0 + b.text.length := by simp [Block.tokens]
        refine ⟨cost + 1, ⟨m'.stateAt (0 + b.text.length) (0 + cost), none⟩, ?_, ?_⟩
        · rw [scanning_of_steps hsteps, scanning, step_of_end hlast]
        · change Outcome.finished m' (0 + cost) = .finished m' cost
          rw [Nat.zero_add]
    | faulted f m' =>
        rcases hwhole.attains ho 0 with ⟨k, p, hsteps⟩
        refine ⟨k + 1, ⟨m'.stateAt p (0 + k), some f⟩, ?_, rfl⟩
        rw [scanning_eq_ending?, hsteps]
        rfl
  constructor
  · exact hends
  · intro h
    rcases h with ⟨fuel, e, hend, rfl⟩
    rcases hwhole.total hend with ⟨o, ho⟩
    rcases hends ho with ⟨fuel', e', hend', rfl⟩
    rw [scanning_unique hend hend']
    exact ho

/-!
## Matched brackets

The brackets of a tree have partners, so that no run of a tree misses one.
-/

/-- The outcome is not the fault of a bracket without a partner. -/
def Outcome.Matched : Outcome -> Prop
  | finished _ _ => True
  | faulted f _ => forall b p, f ≠ .unmatched b p

theorem Outcome.Matched.later {o : Outcome} (h : o.Matched) (cost : Nat) :
    (o.later cost).Matched := by
  cases o <;> exact h

theorem Memory.matched_outside (m m' : Memory) : (Outcome.faulted m.outside m').Matched := by
  intro b p h
  cases h

theorem Fails.matched {setup : Setup} {a : Action} {m m' : Memory} {f : Fault}
    (h : Fails setup a m f m') : (Outcome.faulted f m').Matched := by
  intro b p hf
  cases h <;> cases hf

theorem Then.matched {first second : Meaning} {m : Memory} {o : Outcome}
    (hfirst : forall {m o}, first m o -> o.Matched)
    (hsecond : forall {m o}, second m o -> o.Matched)
    (h : Then first second m o) : o.Matched := by
  cases h with
  | stop hstop =>
      exact hfirst hstop
  | next _ hnext =>
      exact (hsecond hnext).later _

theorem Passes.matched {body : Meaning} {m : Memory} {o : Outcome}
    (hbody : forall {m o}, body m o -> o.Matched) (h : Passes body m o) : o.Matched := by
  induction h with
  | stop hstop =>
      exact hbody hstop
  | outside _ _ =>
      exact Memory.matched_outside _ _
  | last _ _ =>
      trivial
  | again _ _ _ _ ih =>
      exact ih.later _

theorem Loop.matched {body : Meaning} {m : Memory} {o : Outcome}
    (hbody : forall {m o}, body m o -> o.Matched) (h : Loop body m o) : o.Matched := by
  cases h with
  | outside _ =>
      exact Memory.matched_outside _ _
  | skip _ =>
      trivial
  | enter _ _ hpasses =>
      exact (hpasses.matched hbody).later _

theorem Block.exec_matched {setup : Setup} {b : Block} {m : Memory} {o : Outcome}
    (h : b.Exec setup m o) : o.Matched := by
  induction b generalizing m o with
  | done =>
      cases h
      trivial
  | act a rest ih =>
      apply Then.matched ?_ ih h
      intro m o hact
      cases hact with
      | performs _ =>
          trivial
      | fails hfails =>
          exact hfails.matched
  | comment c hc rest ih =>
      apply Then.matched ?_ ih h
      intro m o hpass
      cases hpass
      trivial
  | loop body rest ihbody ihrest =>
      apply Then.matched ?_ ihrest h
      intro m o hloop
      exact hloop.matched ihbody

/-!
## Runs of an interpreter
-/

def RunReport.outcome (r : RunReport) : Outcome :=
  match r.result with
  | .ok steps => .finished r.memory steps
  | .error f => .faulted f r.memory

theorem Interpreter.outcome_report (itp : Interpreter) (first : Log.Entry) (e : Ending)
    (known : JumpTable) : (itp.report first e known).outcome = e.outcome := by
  rcases e with ⟨s, fault⟩
  cases fault <;> rfl

theorem Interpreter.exec_iff_run {itp : Interpreter} {setup : Setup} {b : Block}
    {source : List Char} {input : Input} {o : Outcome}
    (hsetup : itp.settings.setup? = some setup)
    (hsource : b.tokens = itp.settings.tokens source) :
    b.Exec setup (itp.start input).memory o <->
      exists fuel r, itp.run fuel source input = .ok (some r) ∧ r.outcome = o := by
  rw [exec_iff_scanning]
  constructor
  · intro h
    rcases h with ⟨fuel, e, hend, rfl⟩
    change scanning setup b.tokens fuel (itp.start input) = some e at hend
    rw [hsource] at hend
    rcases run_of_scanning hsetup hend with ⟨known, hrun⟩
    exact ⟨fuel, _, hrun, outcome_report itp _ e known⟩
  · intro h
    rcases h with ⟨fuel, r, hrun, rfl⟩
    rcases scanning_of_run hrun with ⟨setup', e, known, hsetup', hend, rfl⟩
    rw [hsetup] at hsetup'
    cases hsetup'
    rw [← hsource] at hend
    exact ⟨fuel, e, hend, (outcome_report itp _ e known).symm⟩

/-- A program whose brackets match is the text of a tree, and its runs are those
of the tree: a run ends exactly if the tree has an outcome, and then with that
outcome, which is the memory just before the interpreter is cleared together
with the number of steps or the fault.  The fault is never that of a bracket
without a partner. -/
theorem Interpreter.run_iff_exec (itp : Interpreter) (setup : Setup) (source : List Char)
    (input : Input) (hsetup : itp.settings.setup? = some setup)
    (hbalanced : Balanced .opening (itp.settings.tokens source).toList) :
    (exists b : Block, b.tokens = itp.settings.tokens source) ∧
    (forall b : Block, b.tokens = itp.settings.tokens source -> forall o,
      b.Exec setup (itp.start input).memory o <->
        exists fuel r, itp.run fuel source input = .ok (some r) ∧ r.outcome = o) ∧
    forall fuel r bracket position, itp.run fuel source input = .ok (some r) ->
      r.result ≠ .error (.unmatched bracket position) := by
  rcases Block.text_of_balanced hbalanced with ⟨b, htext⟩
  have hsource : b.tokens = itp.settings.tokens source := by
    rw [Block.tokens, htext]
  refine ⟨⟨b, hsource⟩, ?_, ?_⟩
  · intro b' hsource' o
    exact exec_iff_run hsetup hsource'
  · intro fuel r bracket position hrun hresult
    have hexec := (exec_iff_run hsetup hsource).mpr ⟨fuel, r, hrun, rfl⟩
    have hmatched := Block.exec_matched hexec
    rw [RunReport.outcome, hresult] at hmatched
    exact hmatched bracket position rfl

/-- The program `++[>+<-]`, which moves the first cell to the second. -/
theorem Interpreter.run_iff_exec_moving :
    let itp : Interpreter := { settings := { tapeSize := .int 4 }, tape := Tape.blank 3 }
    let setup : Setup := { limit := 4, wrap := false, mode := .line }
    let source := "++[>+<-]".toList
    let input := Input.ofString ""
    itp.settings.setup? = some setup ∧
      Balanced .opening (itp.settings.tokens source).toList ∧
      (exists b : Block, b.tokens = itp.settings.tokens source) ∧
      (forall b : Block, b.tokens = itp.settings.tokens source -> forall o,
        b.Exec setup (itp.start input).memory o <->
          exists fuel r, itp.run fuel source input = .ok (some r) ∧ r.outcome = o) ∧
      forall fuel r bracket position, itp.run fuel source input = .ok (some r) ->
        r.result ≠ .error (.unmatched bracket position) := by
  intro itp setup source input
  let body : Block := .act .right (.act .increment (.act .left (.act .decrement .done)))
  let b : Block := .act .increment (.act .increment (.loop body .done))
  have hsetup : itp.settings.setup? = some setup := by rfl
  have htext : (itp.settings.tokens source).toList = b.text := by decide
  have hbalanced : Balanced .opening (itp.settings.tokens source).toList := by
    rw [htext]
    exact b.balanced_text
  exact ⟨hsetup, hbalanced, run_iff_exec itp setup source input hsetup hbalanced⟩

end TapeMachine
