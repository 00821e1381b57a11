import TapeMachine.Proofs.Machine.Steps

/-!
# What a token does to the memory

Of a state, a token reads and changes only the memory: the pointer, the tape,
the input and the output.  The place in the program and the number of steps are
the business of the loop around it.  This module separates the two, so that a
statement about tokens says nothing about places.  It lists once and for all
what each token and each step can do, and what a run keeps follows from that.
-/

namespace TapeMachine

/-- A state without its place in the program and its number of steps. -/
structure Memory where
  pointer : Int
  tape : Tape
  input : Input
  output : String

namespace Memory

/-- The state that has this memory at a place after a number of steps. -/
def stateAt (m : Memory) (index steps : Nat) : State :=
  { index := index, pointer := m.pointer, tape := m.tape, input := m.input,
    output := m.output, steps := steps }

def cell? (m : Memory) : Option UInt8 :=
  m.tape.read? m.pointer

/-- The memory with another value in the cell at the pointer. -/
def store? (m : Memory) (v : UInt8) : Option Memory :=
  (m.tape.write? m.pointer v).map fun tape => { m with tape := tape }

def outside (m : Memory) : Fault :=
  .outOfTape m.pointer m.tape.size

end Memory

def State.memory (s : State) : Memory :=
  { pointer := s.pointer, tape := s.tape, input := s.input, output := s.output }

theorem State.stateAt_memory (s : State) : s.memory.stateAt s.index s.steps = s := rfl

theorem Memory.memory_stateAt (m : Memory) (i n : Nat) : (m.stateAt i n).memory = m := rfl

/-!
## Effects
-/

/-- The effect of a token; a jump leaves the memory as it is. -/
inductive Effect where
  | next (m : Memory)
  | jump (b : Bracket)
  | fault (f : Fault) (m : Memory)

def Demand.forget : Demand -> Effect
  | next s => .next s.memory
  | jump b _ => .jump b
  | fault f s => .fault f s.memory

/-- What a token does to a memory. -/
def effect (setup : Setup) (token : Char) (m : Memory) : Effect :=
  (Demand.of setup token (m.stateAt 0 0)).forget

/-- The demand that has an effect on the memory of a state at a place. -/
def Effect.demandAt (e : Effect) (m : Memory) (index steps : Nat) : Demand :=
  match e with
  | next m' => .next (m'.stateAt index steps)
  | jump b => .jump b (m.stateAt index steps)
  | fault f m' => .fault f (m'.stateAt index steps)

def Bracket.jumps (b : Bracket) (v : UInt8) : Bool :=
  (v == 0) == (b == .opening)

theorem State.loop_stateAt (b : Bracket) (m : Memory) (i n : Nat) :
    (m.stateAt i n).loop b =
      match m.cell? with
      | some v => if b.jumps v then .jump b (m.stateAt i n) else .next (m.stateAt i n)
      | none => .fault m.outside (m.stateAt i n) := rfl

/-- What a token demands depends on the place only in that it stays there. -/
theorem Demand.of_stateAt (setup : Setup) (token : Char) (m : Memory) (i n : Nat) :
    Demand.of setup token (m.stateAt i n) = (effect setup token m).demandAt m i n := by
  unfold effect Demand.of
  cases Instruction.ofChar? token with
  | none =>
      rfl
  | some instruction =>
      cases instruction with
      | left =>
          by_cases hpos : 0 < m.pointer <;> by_cases hwrap : setup.wrap = true <;>
            simp [State.moveLeft, Memory.stateAt, hpos, hwrap] <;> rfl
      | right =>
          by_cases hroom : m.pointer < setup.limit - 1 <;> by_cases hwrap : setup.wrap = true <;>
            simp [State.moveRight, Memory.stateAt, hroom, hwrap] <;> rfl
      | increment =>
          cases hcell : m.tape.locate? m.pointer <;>
            simp [State.alter, Memory.stateAt, hcell] <;> rfl
      | decrement =>
          cases hcell : m.tape.locate? m.pointer <;>
            simp [State.alter, Memory.stateAt, hcell] <;> rfl
      | write =>
          cases hcell : m.tape.read? m.pointer <;>
            simp [State.write, Memory.stateAt, hcell] <;> rfl
      | read =>
          rcases hbyte : m.input.takeByte setup.mode with ⟨answer, input⟩
          cases answer <;> cases hcell : m.tape.locate? m.pointer <;>
            simp [State.read, Memory.stateAt, hbyte, hcell] <;> rfl
      | loopStart =>
          simp only [State.loop_stateAt]
          cases m.cell? with
          | none =>
              rfl
          | some v =>
              cases hjumps : Bracket.opening.jumps v <;> simp [hjumps] <;> rfl
      | loopEnd =>
          simp only [State.loop_stateAt]
          cases m.cell? with
          | none =>
              rfl
          | some v =>
              cases hjumps : Bracket.closing.jumps v <;> simp [hjumps] <;> rfl

/-!
## The rules of the instructions

Six instructions act on the memory.  The rules below say when such an
instruction can be carried out and what it leaves, and when it fails and why.
-/

/-- The instructions that act on the memory. -/
inductive Action where
  | left
  | right
  | increment
  | decrement
  | write
  | read
  deriving DecidableEq, Repr

namespace Action

def instruction : Action -> Instruction
  | left => .left
  | right => .right
  | increment => .increment
  | decrement => .decrement
  | write => .write
  | read => .read

def toChar (a : Action) : Char :=
  a.instruction.toChar

end Action

/-- The action turns the first memory into the second. -/
inductive Performs (setup : Setup) : Action -> Memory -> Memory -> Prop where
  | left {m : Memory} :
      0 < m.pointer ->
      Performs setup .left m { m with pointer := m.pointer - 1 }
  | leftRound {m : Memory} :
      m.pointer ≤ 0 ->
      setup.wrap = true ->
      Performs setup .left m { m with pointer := setup.limit - 1 }
  | right {m : Memory} :
      m.pointer < setup.limit - 1 ->
      Performs setup .right m { m with pointer := m.pointer + 1 }
  | rightRound {m : Memory} :
      setup.limit - 1 ≤ m.pointer ->
      setup.wrap = true ->
      Performs setup .right m { m with pointer := 0 }
  | increment {m m' : Memory} {v : UInt8} :
      m.cell? = some v ->
      m.store? (v + 1) = some m' ->
      Performs setup .increment m m'
  | decrement {m m' : Memory} {v : UInt8} :
      m.cell? = some v ->
      m.store? (v - 1) = some m' ->
      Performs setup .decrement m m'
  | write {m : Memory} {v : UInt8} :
      m.cell? = some v ->
      Performs setup .write m { m with output := m.output.push (charOfByte v) }
  | read {m m' : Memory} {v : UInt8} {input : Input} :
      m.input.takeByte setup.mode = (.ok v, input) ->
      Memory.store? { m with input := input } v = some m' ->
      Performs setup .read m m'

/-- The action fails in the first memory and leaves the second. -/
inductive Fails (setup : Setup) : Action -> Memory -> Fault -> Memory -> Prop where
  | left {m : Memory} :
      m.pointer ≤ 0 ->
      setup.wrap = false ->
      Fails setup .left m (.underflow 0) m
  | right {m : Memory} :
      setup.limit - 1 ≤ m.pointer ->
      setup.wrap = false ->
      Fails setup .right m (.overflow setup.limit) m
  | increment {m : Memory} :
      m.cell? = none ->
      Fails setup .increment m m.outside m
  | decrement {m : Memory} :
      m.cell? = none ->
      Fails setup .decrement m m.outside m
  | write {m : Memory} :
      m.cell? = none ->
      Fails setup .write m m.outside m
  | read {m : Memory} {token : List Char} {input : Input} :
      m.input.takeByte setup.mode = (.error token, input) ->
      Fails setup .read m (.notHex token) { m with input := input }
  | readOutside {m : Memory} {v : UInt8} {input : Input} :
      m.input.takeByte setup.mode = (.ok v, input) ->
      m.cell? = none ->
      Fails setup .read m m.outside { m with input := input }

theorem effect_left (setup : Setup) (m : Memory) :
    effect setup Action.left.toChar m =
      if 0 < m.pointer then .next { m with pointer := m.pointer - 1 }
      else if setup.wrap then .next { m with pointer := setup.limit - 1 }
      else .fault (.underflow 0) m := by
  change ((m.stateAt 0 0).moveLeft setup).forget = _
  unfold State.moveLeft Memory.stateAt
  split
  · rfl
  · split <;> rfl

theorem effect_right (setup : Setup) (m : Memory) :
    effect setup Action.right.toChar m =
      if m.pointer < setup.limit - 1 then .next { m with pointer := m.pointer + 1 }
      else if setup.wrap then .next { m with pointer := 0 }
      else .fault (.overflow setup.limit) m := by
  change ((m.stateAt 0 0).moveRight setup).forget = _
  unfold State.moveRight Memory.stateAt
  split
  · rfl
  · split <;> rfl

def alterEffect (change : UInt8 -> UInt8) (m : Memory) : Effect :=
  match m.tape.locate? m.pointer with
  | some i => .next { m with tape := m.tape.set i (change (m.tape.get i)) }
  | none => .fault m.outside m

theorem forget_alter (change : UInt8 -> UInt8) (m : Memory) :
    ((m.stateAt 0 0).alter change).forget = alterEffect change m := by
  unfold State.alter Memory.stateAt alterEffect
  cases m.tape.locate? m.pointer <;> rfl

theorem effect_increment (setup : Setup) (m : Memory) :
    effect setup Action.increment.toChar m = alterEffect (· + 1) m := by
  exact forget_alter (· + 1) m

theorem effect_decrement (setup : Setup) (m : Memory) :
    effect setup Action.decrement.toChar m = alterEffect (· - 1) m := by
  exact forget_alter (· - 1) m

theorem effect_write (setup : Setup) (m : Memory) :
    effect setup Action.write.toChar m =
      match m.cell? with
      | some v => .next { m with output := m.output.push (charOfByte v) }
      | none => .fault m.outside m := by
  change (m.stateAt 0 0).write.forget = _
  unfold State.write Memory.stateAt Memory.cell?
  cases m.tape.read? m.pointer <;> rfl

theorem effect_read (setup : Setup) (m : Memory) :
    effect setup Action.read.toChar m =
      match m.input.takeByte setup.mode with
      | (.error token, input) => .fault (.notHex token) { m with input := input }
      | (.ok v, input) =>
          match m.tape.locate? m.pointer with
          | some i => .next { m with tape := m.tape.set i v, input := input }
          | none => .fault m.outside { m with input := input } := by
  change ((m.stateAt 0 0).read setup).forget = _
  unfold State.read Memory.stateAt
  rcases m.input.takeByte setup.mode with ⟨answer, input⟩
  cases answer with
  | error token =>
      rfl
  | ok v =>
      cases m.tape.locate? m.pointer <;> rfl

theorem Memory.cell?_eq_some_iff {m : Memory} {v : UInt8} :
    m.cell? = some v <->
      exists i, m.tape.locate? m.pointer = some i ∧ m.tape.get i = v := by
  exact Option.map_eq_some_iff

theorem Memory.cell?_eq_none_iff {m : Memory} :
    m.cell? = none <-> m.tape.locate? m.pointer = none := by
  exact Option.map_eq_none_iff

theorem Memory.store?_eq_some_iff {m m' : Memory} {v : UInt8} :
    m.store? v = some m' <->
      exists i, m.tape.locate? m.pointer = some i ∧ { m with tape := m.tape.set i v } = m' := by
  unfold store? Tape.write?
  rw [Option.map_map]
  exact Option.map_eq_some_iff

theorem Memory.store?_of_locate? {m : Memory} {i : Fin m.tape.cells.size}
    (h : m.tape.locate? m.pointer = some i) (v : UInt8) :
    m.store? v = some { m with tape := m.tape.set i v } := by
  exact store?_eq_some_iff.mpr ⟨i, h, rfl⟩

theorem Performs.alter_eq {m m' : Memory} {v : UInt8} (change : UInt8 -> UInt8)
    (hcell : m.cell? = some v) (hstore : m.store? (change v) = some m') :
    alterEffect change m = .next m' := by
  rcases Memory.cell?_eq_some_iff.mp hcell with ⟨i, hi, rfl⟩
  rw [Memory.store?_of_locate? hi] at hstore
  cases hstore
  simp [alterEffect, hi]

theorem Performs.effect_eq {setup : Setup} {a : Action} {m m' : Memory}
    (h : Performs setup a m m') : effect setup a.toChar m = .next m' := by
  cases h with
  | left hpos =>
      rw [effect_left, if_pos hpos]
  | leftRound hle hwrap =>
      rw [effect_left, if_neg (Int.not_lt.mpr hle), if_pos hwrap]
  | right hroom =>
      rw [effect_right, if_pos hroom]
  | rightRound hle hwrap =>
      rw [effect_right, if_neg (Int.not_lt.mpr hle), if_pos hwrap]
  | increment hcell hstore =>
      rw [effect_increment]
      exact Performs.alter_eq (· + 1) hcell hstore
  | decrement hcell hstore =>
      rw [effect_decrement]
      exact Performs.alter_eq (· - 1) hcell hstore
  | write hcell =>
      rw [effect_write, hcell]
  | read hbyte hstore =>
      rcases Memory.store?_eq_some_iff.mp hstore with ⟨i, hi, rfl⟩
      change m.tape.locate? m.pointer = some i at hi
      simp only [effect_read, hbyte, hi]

theorem Fails.effect_eq {setup : Setup} {a : Action} {m m' : Memory} {f : Fault}
    (h : Fails setup a m f m') : effect setup a.toChar m = .fault f m' := by
  cases h with
  | left hle hwrap =>
      rw [effect_left, if_neg (Int.not_lt.mpr hle), hwrap]
      rfl
  | right hle hwrap =>
      rw [effect_right, if_neg (Int.not_lt.mpr hle), hwrap]
      rfl
  | increment hcell =>
      rw [effect_increment, alterEffect, Memory.cell?_eq_none_iff.mp hcell]
  | decrement hcell =>
      rw [effect_decrement, alterEffect, Memory.cell?_eq_none_iff.mp hcell]
  | write hcell =>
      rw [effect_write, hcell]
  | read hbyte =>
      rw [effect_read, hbyte]
  | readOutside hbyte hcell =>
      rw [effect_read, hbyte]
      simp only [Memory.cell?_eq_none_iff.mp hcell]

theorem performs_or_fails (setup : Setup) (a : Action) (m : Memory) :
    (exists m', Performs setup a m m') ∨ (exists f m', Fails setup a m f m') := by
  cases a with
  | left =>
      by_cases hpos : 0 < m.pointer
      · exact Or.inl ⟨_, Performs.left hpos⟩
      · cases hwrap : setup.wrap with
        | true =>
            exact Or.inl ⟨_, Performs.leftRound (Int.not_lt.mp hpos) hwrap⟩
        | false =>
            exact Or.inr ⟨_, _, Fails.left (Int.not_lt.mp hpos) hwrap⟩
  | right =>
      by_cases hroom : m.pointer < setup.limit - 1
      · exact Or.inl ⟨_, Performs.right hroom⟩
      · cases hwrap : setup.wrap with
        | true =>
            exact Or.inl ⟨_, Performs.rightRound (Int.not_lt.mp hroom) hwrap⟩
        | false =>
            exact Or.inr ⟨_, _, Fails.right (Int.not_lt.mp hroom) hwrap⟩
  | increment =>
      cases hcell : m.cell? with
      | none =>
          exact Or.inr ⟨_, _, Fails.increment hcell⟩
      | some v =>
          rcases Memory.cell?_eq_some_iff.mp hcell with ⟨i, hi, _⟩
          exact Or.inl ⟨_, Performs.increment hcell (Memory.store?_of_locate? hi _)⟩
  | decrement =>
      cases hcell : m.cell? with
      | none =>
          exact Or.inr ⟨_, _, Fails.decrement hcell⟩
      | some v =>
          rcases Memory.cell?_eq_some_iff.mp hcell with ⟨i, hi, _⟩
          exact Or.inl ⟨_, Performs.decrement hcell (Memory.store?_of_locate? hi _)⟩
  | write =>
      cases hcell : m.cell? with
      | none =>
          exact Or.inr ⟨_, _, Fails.write hcell⟩
      | some v =>
          exact Or.inl ⟨_, Performs.write hcell⟩
  | read =>
      rcases hbyte : m.input.takeByte setup.mode with ⟨answer, input⟩
      cases answer with
      | error token =>
          exact Or.inr ⟨_, _, Fails.read hbyte⟩
      | ok v =>
          cases hcell : m.cell? with
          | none =>
              exact Or.inr ⟨_, _, Fails.readOutside hbyte hcell⟩
          | some w =>
              rcases Memory.cell?_eq_some_iff.mp hcell with ⟨i, hi, _⟩
              have hstore := Memory.store?_of_locate? (m := { m with input := input }) hi v
              exact Or.inl ⟨_, Performs.read hbyte hstore⟩

/-!
## Tokens

A token is a comment, an action or a bracket.
-/

theorem Instruction.toChar_of_ofChar? {c : Char} {i : Instruction}
    (h : Instruction.ofChar? c = some i) : c = i.toChar := by
  unfold Instruction.ofChar? at h
  split at h <;> cases h <;> rfl

theorem token_cases (c : Char) :
    Instruction.ofChar? c = none ∨ (exists a : Action, c = a.toChar) ∨
      (exists b : Bracket, c = b.toChar) := by
  cases h : Instruction.ofChar? c with
  | none =>
      exact Or.inl rfl
  | some i =>
      apply Or.inr
      rw [Instruction.toChar_of_ofChar? h]
      cases i with
      | left => exact Or.inl ⟨.left, rfl⟩
      | right => exact Or.inl ⟨.right, rfl⟩
      | read => exact Or.inl ⟨.read, rfl⟩
      | write => exact Or.inl ⟨.write, rfl⟩
      | loopStart => exact Or.inr ⟨.opening, rfl⟩
      | loopEnd => exact Or.inr ⟨.closing, rfl⟩
      | increment => exact Or.inl ⟨.increment, rfl⟩
      | decrement => exact Or.inl ⟨.decrement, rfl⟩

theorem effect_comment (setup : Setup) {c : Char} (h : Instruction.ofChar? c = none)
    (m : Memory) : effect setup c m = .next m := by
  simp only [effect, Demand.of, h]
  rfl

theorem effect_bracket (setup : Setup) (b : Bracket) (m : Memory) :
    effect setup b.toChar m =
      match m.cell? with
      | some v => if b.jumps v then .jump b else .next m
      | none => .fault m.outside m := by
  have hloop : effect setup b.toChar m = ((m.stateAt 0 0).loop b).forget := by
    cases b <;> rfl
  rw [hloop, State.loop_stateAt]
  cases m.cell? with
  | none =>
      rfl
  | some v =>
      cases hjumps : b.jumps v <;> simp [hjumps] <;> rfl

/-- All that a token can do to a memory. -/
inductive Does (setup : Setup) : Char -> Memory -> Effect -> Prop where
  | comment {c : Char} {m : Memory} :
      Instruction.ofChar? c = none ->
      Does setup c m (.next m)
  | performs {a : Action} {m m' : Memory} :
      Performs setup a m m' ->
      Does setup a.toChar m (.next m')
  | fails {a : Action} {m m' : Memory} {f : Fault} :
      Fails setup a m f m' ->
      Does setup a.toChar m (.fault f m')
  | outside {b : Bracket} {m : Memory} :
      m.cell? = none ->
      Does setup b.toChar m (.fault m.outside m)
  | stays {b : Bracket} {m : Memory} {v : UInt8} :
      m.cell? = some v ->
      b.jumps v = false ->
      Does setup b.toChar m (.next m)
  | jumps {b : Bracket} {m : Memory} {v : UInt8} :
      m.cell? = some v ->
      b.jumps v = true ->
      Does setup b.toChar m (.jump b)

theorem does_effect (setup : Setup) (c : Char) (m : Memory) :
    Does setup c m (effect setup c m) := by
  rcases token_cases c with hcomment | ⟨a, rfl⟩ | ⟨b, rfl⟩
  · rw [effect_comment setup hcomment]
    exact Does.comment hcomment
  · rcases performs_or_fails setup a m with ⟨m', hperforms⟩ | ⟨f, m', hfails⟩
    · rw [hperforms.effect_eq]
      exact Does.performs hperforms
    · rw [hfails.effect_eq]
      exact Does.fails hfails
  · rw [effect_bracket]
    cases hcell : m.cell? with
    | none =>
        exact Does.outside hcell
    | some v =>
        change Does setup b.toChar m (if b.jumps v then .jump b else .next m)
        cases hjumps : b.jumps v with
        | true =>
            exact Does.jumps hcell hjumps
        | false =>
            exact Does.stays hcell hjumps

/-- Reads off what a token does from its effect. -/
theorem does_of_effect {setup : Setup} {c : Char} {m : Memory} {e : Effect}
    (h : effect setup c m = e) : Does setup c m e := by
  rw [← h]
  exact does_effect setup c m

theorem bracket_of_effect_jump {setup : Setup} {c : Char} {m : Memory} {b : Bracket}
    (h : effect setup c m = .jump b) : c = b.toChar := by
  cases does_of_effect h with
  | jumps _ _ =>
      rfl

def Effect.map (g : Memory -> Memory) : Effect -> Effect
  | next m => .next (g m)
  | jump b => .jump b
  | fault f m => .fault f (g m)

/-- A token has the same effect on two memories, of which one is made from the other,
when the rules of the instructions carry over and both have the same cell at the
pointer. -/
theorem effect_map {setup setup' : Setup} {g : Memory -> Memory} {c : Char} {m : Memory}
    (hperforms : forall a m', c = Action.toChar a -> Performs setup a m m' ->
      Performs setup' a (g m) (g m'))
    (hfails : forall a f m', c = Action.toChar a -> Fails setup a m f m' ->
      Fails setup' a (g m) f (g m'))
    (hcell : (g m).cell? = m.cell?) (houtside : (g m).outside = m.outside) :
    effect setup' c (g m) = (effect setup c m).map g := by
  generalize heffect : effect setup c m = result
  cases does_of_effect heffect with
  | comment h =>
      exact effect_comment setup' h (g m)
  | performs h =>
      exact (hperforms _ _ rfl h).effect_eq
  | fails h =>
      exact (hfails _ _ _ rfl h).effect_eq
  | outside h =>
      rw [effect_bracket, hcell, h, houtside]
      rfl
  | stays h hstays =>
      rw [effect_bracket, hcell, h]
      simp only [hstays]
      rfl
  | jumps h hjumps =>
      rw [effect_bracket, hcell, h]
      simp only [hjumps]
      rfl

/-!
## Steps

One step of the machine at a place, by the effect of the token there.
-/

theorem demand_at (setup : Setup) {code : Tokens} {s : State} {c : Char}
    (hi : code[s.index]? = some c) :
    exists hinside : s.index < code.size,
      Demand.of setup code[s.index] s =
        (effect setup c s.memory).demandAt s.memory s.index s.steps := by
  rcases Array.getElem?_eq_some_iff.mp hi with ⟨hlt, hc⟩
  refine ⟨hlt, ?_⟩
  rw [hc]
  exact Demand.of_stateAt setup c s.memory s.index s.steps

theorem step_of_next {setup : Setup} {code : Tokens} {i : Nat} {c : Char} {m m' : Memory}
    (hi : code[i]? = some c) (h : effect setup c m = .next m') (n : Nat) :
    step setup code (m.stateAt i n) = .running (m'.stateAt (i + 1) (n + 1)) := by
  rcases demand_at setup (s := m.stateAt i n) hi with ⟨hinside, hdemand⟩
  rw [step, dif_pos hinside, hdemand, Memory.memory_stateAt, h]
  rfl

theorem step_of_jump {setup : Setup} {code : Tokens} {i : Nat} {c : Char} {m : Memory}
    {b : Bracket} (hi : code[i]? = some c) (h : effect setup c m = .jump b) (n : Nat) :
    step setup code (m.stateAt i n) =
      match code.partner? b i with
      | some j => .running (m.stateAt (j + 1) (n + 1))
      | none => .faulted (.unmatched b i) (m.stateAt i n) := by
  rcases demand_at setup (s := m.stateAt i n) hi with ⟨hinside, hdemand⟩
  rw [step, dif_pos hinside, hdemand, Memory.memory_stateAt, h]
  rfl

theorem step_of_fault {setup : Setup} {code : Tokens} {i : Nat} {c : Char} {m m' : Memory}
    {f : Fault} (hi : code[i]? = some c) (h : effect setup c m = .fault f m') (n : Nat) :
    step setup code (m.stateAt i n) = .faulted f (m'.stateAt i n) := by
  rcases demand_at setup (s := m.stateAt i n) hi with ⟨hinside, hdemand⟩
  rw [step, dif_pos hinside, hdemand, Memory.memory_stateAt, h]
  rfl

theorem step_of_end {setup : Setup} {code : Tokens} {i : Nat} {m : Memory}
    (hi : code.size ≤ i) (n : Nat) :
    step setup code (m.stateAt i n) = .finished (m.stateAt i n) := by
  have houtside : ¬ (m.stateAt i n).index < code.size := Nat.not_lt.mpr hi
  rw [step, dif_neg houtside]

/-- All that a step can do. -/
inductive StepsTo (setup : Setup) (code : Tokens) (s : State) : Step -> Prop where
  | ended :
      code.size ≤ s.index ->
      StepsTo setup code s (.finished s)
  | next {c : Char} {m : Memory} :
      code[s.index]? = some c ->
      effect setup c s.memory = .next m ->
      StepsTo setup code s (.running (m.stateAt (s.index + 1) (s.steps + 1)))
  | jump {c : Char} {b : Bracket} {j : Nat} :
      code[s.index]? = some c ->
      effect setup c s.memory = .jump b ->
      code.partner? b s.index = some j ->
      StepsTo setup code s (.running (s.goTo (j + 1)))
  | unmatched {c : Char} {b : Bracket} :
      code[s.index]? = some c ->
      effect setup c s.memory = .jump b ->
      code.partner? b s.index = none ->
      StepsTo setup code s (.faulted (.unmatched b s.index) s)
  | fault {c : Char} {f : Fault} {m : Memory} :
      code[s.index]? = some c ->
      effect setup c s.memory = .fault f m ->
      StepsTo setup code s (.faulted f (m.stateAt s.index s.steps))

theorem stepsTo_step (setup : Setup) (code : Tokens) (s : State) :
    StepsTo setup code s (step setup code s) := by
  rw [← s.stateAt_memory]
  cases htoken : code[s.index]? with
  | none =>
      have hend : code.size ≤ s.index := Array.getElem?_eq_none_iff.mp htoken
      rw [step_of_end hend]
      exact StepsTo.ended hend
  | some c =>
      cases heffect : effect setup c s.memory with
      | next m =>
          rw [step_of_next htoken heffect]
          exact StepsTo.next htoken heffect
      | jump b =>
          rw [step_of_jump htoken heffect]
          cases hpartner : code.partner? b s.index with
          | none =>
              exact StepsTo.unmatched htoken heffect hpartner
          | some j =>
              exact StepsTo.jump htoken heffect hpartner
      | fault f m =>
          rw [step_of_fault htoken heffect]
          exact StepsTo.fault htoken heffect

/-- Reads off what a step does from its result. -/
theorem stepsTo_of_step {setup : Setup} {code : Tokens} {s : State} {result : Step}
    (h : step setup code s = result) : StepsTo setup code s result := by
  rw [← h]
  exact stepsTo_step setup code s

theorem steps_count {setup : Setup} {code : Tokens} {n : Nat} {s t : State}
    (h : steps setup code n s = .running t) : t.steps = s.steps + n := by
  induction n generalizing s with
  | zero =>
      cases h
      rfl
  | succ n ih =>
      rw [steps_succ] at h
      cases hresult : step setup code s with
      | running u =>
          rw [hresult] at h
          have hone : u.steps = s.steps + 1 := by
            cases stepsTo_of_step hresult <;> rfl
          rw [ih h, hone, Nat.add_right_comm, Nat.add_assoc]
      | finished u =>
          rw [hresult] at h
          cases h
      | faulted f u =>
          rw [hresult] at h
          cases h

/-!
## Invariants of the memory

What the instructions keep of the memory, a run keeps: comments and brackets do
not touch it.
-/

theorem step_keeps_memory {setup : Setup} {code : Tokens} {P : Memory -> Prop}
    (hperforms : forall a m m', Performs setup a m m' -> P m -> P m')
    (hfails : forall a m f m', Fails setup a m f m' -> P m -> P m')
    {s : State} (hs : P s.memory) : P (step setup code s).state.memory := by
  cases hresult : step setup code s with
  | finished t =>
      cases stepsTo_of_step hresult
      exact hs
  | running t =>
      cases stepsTo_of_step hresult with
      | next _ heffect =>
          cases does_of_effect heffect with
          | comment _ =>
              exact hs
          | performs h =>
              exact hperforms _ _ _ h hs
          | stays _ _ =>
              exact hs
      | jump _ _ _ =>
          exact hs
  | faulted f t =>
      cases stepsTo_of_step hresult with
      | unmatched _ _ _ =>
          exact hs
      | fault _ heffect =>
          cases does_of_effect heffect with
          | fails h =>
              exact hfails _ _ _ _ h hs
          | outside _ =>
              exact hs

theorem steps_keep_memory {setup : Setup} {code : Tokens} (P : Memory -> Prop)
    (hperforms : forall a m m', Performs setup a m m' -> P m -> P m')
    (hfails : forall a m f m', Fails setup a m f m' -> P m -> P m')
    (n : Nat) {s : State} (hs : P s.memory) : P (steps setup code n s).state.memory := by
  apply steps_invariant (fun s => P s.memory)
  · intro s hs
    exact step_keeps_memory hperforms hfails hs
  · exact hs

theorem steps_tape_size (setup : Setup) (code : Tokens) (n : Nat) (s : State) :
    (steps setup code n s).state.tape.size = s.tape.size := by
  refine steps_keep_memory (fun m => m.tape.size = s.tape.size) ?_ ?_ n rfl
  · intro a m m' h hm
    cases h with
    | increment _ hstore =>
        rcases Memory.store?_eq_some_iff.mp hstore with ⟨i, _, rfl⟩
        exact (Tape.size_set m.tape i _).trans hm
    | decrement _ hstore =>
        rcases Memory.store?_eq_some_iff.mp hstore with ⟨i, _, rfl⟩
        exact (Tape.size_set m.tape i _).trans hm
    | read _ hstore =>
        rcases Memory.store?_eq_some_iff.mp hstore with ⟨i, _, rfl⟩
        exact (Tape.size_set m.tape i _).trans hm
    | _ =>
        exact hm
  · intro a m f m' h hm
    cases h <;> exact hm

end TapeMachine
