import TapeMachine.Proofs.Machine.JumpTable
import TapeMachine.Proofs.Program.StackMatching

/-!
# The search for a partner

A machine that knows no pairs yet scans for the partner of the bracket from which it
jumps.  Whatever the program is, the scan ends: it finds the bracket that a stack
pairs with the first one, or it is at fault because the stack leaves that one alone.
So the scans in the two directions are inverse to each other, and the pairs that
they find nest.
-/

namespace TapeMachine

namespace Tokens

/-- Searches for the partner of a bracket without any known pairs. -/
def search (code : Tokens) (b : Bracket) (i : Nat) : Except Fault Nat :=
  match JumpTable.partner? ∅ code b i with
  | some (j, _) => .ok j
  | none => .error (.unmatched b i)

theorem search_of_some {code : Tokens} {b : Bracket} {i j : Nat}
    (h : code.partner? b i = some j) : code.search b i = .ok j := by
  simp only [search, JumpTable.partner?, Std.HashMap.getElem?_empty, h]

theorem search_of_none {code : Tokens} {b : Bracket} {i : Nat}
    (h : code.partner? b i = none) : code.search b i = .error (.unmatched b i) := by
  simp only [search, JumpTable.partner?, Std.HashMap.getElem?_empty, h]

section

variable {code : Tokens} {b : Bracket} {i : Nat} (hi : code[i]? = some b.toChar)
include hi

theorem search_eq_ok_iff {j : Nat} : code.search b i = .ok j <-> code.Partners b i j := by
  rw [← partner?_eq_some_iff hi]
  cases h : code.partner? b i with
  | none =>
      rw [search_of_none h]
      exact iff_of_false nofun nofun
  | some k =>
      rw [search_of_some h, Except.ok.injEq, Option.some.injEq]

theorem search_eq_error_iff :
    code.search b i = .error (.unmatched b i) <-> code.Unpaired i := by
  rw [← partner?_eq_none_iff hi]
  cases h : code.partner? b i with
  | none =>
      exact iff_of_true (search_of_none h) rfl
  | some k =>
      rw [search_of_some h]
      exact iff_of_false nofun nofun

end

end Tokens

/-- The step of a jump: the machine goes on behind the partner, or the bracket is at
fault. -/
def State.jumpTo (s : State) : Except Fault Nat -> Step
  | .ok j => .running (s.goTo (j + 1))
  | .error f => .faulted f s

theorem stepWith_of_jump {setup : Setup} {code : Tokens} {s : State} {b : Bracket}
    (hs : code[s.index]? = some b.toChar) (hjump : Demand.of setup b.toChar s = .jump b s) :
    (stepWith setup code ∅ s).1 = s.jumpTo (code.search b s.index) := by
  rcases Array.getElem?_eq_some_iff.mp hs with ⟨hinside, hchar⟩
  rw [stepWith, dif_pos hinside, hchar, hjump, Tokens.search]
  cases h : JumpTable.partner? ∅ code b s.index with
  | none =>
      simp only [h]
      rfl
  | some found =>
      simp only [h]
      rfl

namespace Tokens

/-- The search from a bracket finds the partner that the stack gives it, and is at
fault exactly where the stack gives it none; that is what a jump goes by.  The
searches from the two ends of a pair find each other, no two pairs share an end, and
of two pairs one lies behind the other or inside it. -/
theorem search_iff_stack_pairs (code : Tokens) :
    (forall o, code[o]? = some '[' ->
      (forall c, code.search .opening o = .ok c <-> (o, c) ∈ code.pairs) ∧
      (code.search .opening o = .error (.unmatched .opening o) <-> code.Unpaired o)) ∧
    (forall c, code[c]? = some ']' ->
      (forall o, code.search .closing c = .ok o <-> (o, c) ∈ code.pairs) ∧
      (code.search .closing c = .error (.unmatched .closing c) <-> code.Unpaired c)) ∧
    (forall setup s b, code[s.index]? = some (Bracket.toChar b) ->
      Demand.of setup b.toChar s = .jump b s ->
      (stepWith setup code ∅ s).1 = s.jumpTo (code.search b s.index)) ∧
    (forall o c, code[o]? = some '[' -> code[c]? = some ']' ->
      (code.search .opening o = .ok c <-> code.search .closing c = .ok o)) ∧
    (forall o c o' c', (o, c) ∈ code.pairs -> (o', c') ∈ code.pairs ->
      o < c ∧ o ≠ c' ∧ (o = o' <-> c = c') ∧ (o < o' -> c < o' ∨ c' < c)) := by
  have hforward : forall {o}, code[o]? = some '[' -> forall c,
      code.search .opening o = .ok c <-> (o, c) ∈ code.pairs := by
    intro o ho c
    rw [mem_pairs_iff]
    exact search_eq_ok_iff ho
  have hbackward : forall {c}, code[c]? = some ']' -> forall o,
      code.search .closing c = .ok o <-> (o, c) ∈ code.pairs := by
    intro c hc o
    rw [mem_pairs_iff]
    exact search_eq_ok_iff hc
  refine ⟨?_, ?_, ?_, ?_, ?_⟩
  · intro o ho
    exact ⟨hforward ho, search_eq_error_iff ho⟩
  · intro c hc
    exact ⟨hbackward hc, search_eq_error_iff hc⟩
  · intro setup s b hs hjump
    exact stepWith_of_jump hs hjump
  · intro o c ho hc
    rw [hforward ho, hbackward hc]
  · intro o c o' c' hpair hpair'
    have h : Encloses code o c := mem_pairs_iff.mp hpair
    have h' : Encloses code o' c' := mem_pairs_iff.mp hpair'
    refine ⟨h.lt, h.opening_ne_closing h', ?_, h.behind_or_inside h'⟩
    constructor
    · rintro rfl
      exact h.closing_unique h'
    · rintro rfl
      exact h.opening_unique h'

/-- The first two brackets and the last one stay alone; the others are two pairs, one
inside the other, with a comment before the inner one. -/
theorem search_iff_stack_pairs_unbalanced :
    let code : Tokens := #[']', '[', '[', 'x', '[', ']', ']', '[']
    code.pairs = [(4, 5), (2, 6)] ∧
      code.search .opening 2 = .ok 6 ∧ code.search .closing 6 = .ok 2 ∧
      code.search .closing 5 = .ok 4 ∧
      code.search .closing 0 = .error (.unmatched .closing 0) ∧
      code.search .opening 1 = .error (.unmatched .opening 1) ∧
      code.search .opening 7 = .error (.unmatched .opening 7) := by
  intro code
  have hpairs : code.pairs = [(4, 5), (2, 6)] := rfl
  have hunpaired : forall i, i ≠ 2 -> i ≠ 4 -> i ≠ 5 -> i ≠ 6 -> code.Unpaired i := by
    intro i h2 h4 h5 h6
    rw [Unpaired, hpairs]
    simp [h2.symm, h4.symm, h5.symm, h6.symm]
  rcases search_iff_stack_pairs code with ⟨hopening, hclosing, _, hinverse, _⟩
  have houter : code.search .opening 2 = .ok 6 :=
    ((hopening 2 rfl).1 6).mpr (by rw [hpairs]; decide)
  refine ⟨hpairs, houter, (hinverse 2 6 rfl rfl).mp houter, ?_, ?_, ?_, ?_⟩
  · exact ((hclosing 5 rfl).1 4).mpr (by rw [hpairs]; decide)
  · exact (hclosing 0 rfl).2.mpr (hunpaired 0 (by decide) (by decide) (by decide) (by decide))
  · exact (hopening 1 rfl).2.mpr (hunpaired 1 (by decide) (by decide) (by decide) (by decide))
  · exact (hopening 7 rfl).2.mpr (hunpaired 7 (by decide) (by decide) (by decide) (by decide))

end Tokens

end TapeMachine
