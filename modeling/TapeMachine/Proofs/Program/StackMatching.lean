import TapeMachine.Proofs.Program.Append

/-!
# Matching brackets with a stack

The usual way to match brackets is one walk from left to right that keeps the
open brackets on a stack: a closing bracket takes the last of them, or stays alone
when there is none, and what is left on the stack at the end stays alone too.  The
scans of the machine find the same pairs, in unbalanced programs as well.
-/

namespace TapeMachine

/-- The pairs that the walk finds in a text at position `i`, with the positions of
the open brackets on the stack, the last one first. -/
def pairsFrom : (i : Nat) -> (stack : List Nat) -> List Char -> List (Nat × Nat)
  | _, _, [] => []
  | i, stack, c :: w =>
      if c = '[' then
        pairsFrom (i + 1) (i :: stack) w
      else if c = ']' then
        match stack with
        | [] => pairsFrom (i + 1) [] w
        | o :: stack => (o, i) :: pairsFrom (i + 1) stack w
      else
        pairsFrom (i + 1) stack w

theorem pairsFrom_opening (i : Nat) (stack : List Nat) (w : List Char) :
    pairsFrom i stack ('[' :: w) = pairsFrom (i + 1) (i :: stack) w := rfl

theorem pairsFrom_closing_nil (i : Nat) (w : List Char) :
    pairsFrom i [] (']' :: w) = pairsFrom (i + 1) [] w := rfl

theorem pairsFrom_closing_cons (i o : Nat) (stack : List Nat) (w : List Char) :
    pairsFrom i (o :: stack) (']' :: w) = (o, i) :: pairsFrom (i + 1) stack w := rfl

theorem pairsFrom_plain {c : Char} (hopening : c ≠ '[') (hclosing : c ≠ ']') (i : Nat)
    (stack : List Nat) (w : List Char) :
    pairsFrom i stack (c :: w) = pairsFrom (i + 1) stack w := by
  simp [pairsFrom, hopening, hclosing]

/-!
## What the walk finds

A pair joins a bracket of the stack with the closing bracket that a scan finds for
its depth, or it lies in the text as a whole.
-/

/-- The bracket at `o` is on the stack, and a scan from its depth stops at `c`. -/
def ClosesOpen (stack : List Nat) (w : List Char) (i o c : Nat) : Prop :=
  exists d k, stack[d]? = some o ∧ scan? .opening w d = some k ∧ c = i + k

/-- The bracket at `o` opens in the text, and a scan behind it stops at `c`. -/
def OpensAndCloses (w : List Char) (i o c : Nat) : Prop :=
  exists x y k, w = x ++ '[' :: y ∧ scan? .opening y 0 = some k ∧ o = i + x.length ∧
    c = o + 1 + k

theorem closesOpen_nil (w : List Char) (i o c : Nat) : ¬ ClosesOpen [] w i o c := by
  intro h
  rcases h with ⟨d, k, ho, _⟩
  cases ho

/-- The last bracket on the stack is closed by the scan that starts behind it, and
for every other bracket the scan from behind it goes one level deeper. -/
theorem closesOpen_opening {stack : List Nat} {w : List Char} {i o c : Nat} :
    ClosesOpen (i :: stack) w (i + 1) o c <->
      (o = i ∧ exists k, scan? .opening w 0 = some k ∧ c = i + 1 + k) ∨
        ClosesOpen stack ('[' :: w) i o c := by
  have hscan : forall d, scan? .opening ('[' :: w) d =
      (scan? .opening w (d + 1)).map (· + 1) := scan?_same .opening w
  constructor
  · intro h
    rcases h with ⟨d, k, ho, hk, rfl⟩
    cases d with
    | zero =>
        cases ho
        exact Or.inl ⟨rfl, k, hk, rfl⟩
    | succ d =>
        refine Or.inr ⟨d, k + 1, ho, ?_, by rw [Nat.add_right_comm, Nat.add_assoc]⟩
        rw [hscan, hk]
        rfl
  · intro h
    rcases h with ⟨rfl, k, hk, rfl⟩ | ⟨d, k, ho, hk, rfl⟩
    · exact ⟨0, k, rfl, hk, rfl⟩
    · rw [hscan] at hk
      rcases Option.map_eq_some_iff.mp hk with ⟨l, hl, rfl⟩
      exact ⟨d + 1, l, ho, hl, by rw [Nat.add_right_comm, Nat.add_assoc]⟩

/-- A closing bracket takes the last bracket of the stack, and for every other
bracket the scan goes on behind it, one level up. -/
theorem closesOpen_closing {stack : List Nat} {w : List Char} {i last o c : Nat} :
    ClosesOpen (last :: stack) (']' :: w) i o c <->
      (o = last ∧ c = i) ∨ ClosesOpen stack w (i + 1) o c := by
  have hzero : scan? .opening (']' :: w) 0 = some 0 := scan?_other_zero .opening w
  have hsucc : forall d, scan? .opening (']' :: w) (d + 1) =
      (scan? .opening w d).map (· + 1) := scan?_other_succ .opening w
  constructor
  · intro h
    rcases h with ⟨d, k, ho, hk, rfl⟩
    cases d with
    | zero =>
        rw [hzero] at hk
        cases ho
        cases hk
        exact Or.inl ⟨rfl, rfl⟩
    | succ d =>
        rw [hsucc] at hk
        rcases Option.map_eq_some_iff.mp hk with ⟨l, hl, rfl⟩
        exact Or.inr ⟨d, l, ho, hl, by rw [Nat.add_right_comm, Nat.add_assoc]⟩
  · intro h
    rcases h with ⟨rfl, rfl⟩ | ⟨d, k, ho, hk, rfl⟩
    · exact ⟨0, 0, rfl, hzero, rfl⟩
    · refine ⟨d + 1, k + 1, ho, ?_, by rw [Nat.add_right_comm, Nat.add_assoc]⟩
      rw [hsucc, hk]
      rfl

theorem closesOpen_plain {stack : List Nat} {a : Char} {w : List Char} {i o c : Nat}
    (hopening : a ≠ '[') (hclosing : a ≠ ']') :
    ClosesOpen stack (a :: w) i o c <-> ClosesOpen stack w (i + 1) o c := by
  have hscan : forall d, scan? .opening (a :: w) d = (scan? .opening w d).map (· + 1) :=
    scan?_plain hopening hclosing w
  constructor
  · intro h
    rcases h with ⟨d, k, ho, hk, rfl⟩
    rw [hscan] at hk
    rcases Option.map_eq_some_iff.mp hk with ⟨l, hl, rfl⟩
    exact ⟨d, l, ho, hl, by rw [Nat.add_right_comm, Nat.add_assoc]⟩
  · intro h
    rcases h with ⟨d, k, ho, hk, rfl⟩
    refine ⟨d, k + 1, ho, ?_, by rw [Nat.add_right_comm, Nat.add_assoc]⟩
    rw [hscan, hk]
    rfl

theorem opensAndCloses_cons {a : Char} {w : List Char} {i o c : Nat} :
    OpensAndCloses (a :: w) i o c <->
      (a = '[' ∧ o = i ∧ exists k, scan? .opening w 0 = some k ∧ c = i + 1 + k) ∨
        OpensAndCloses w (i + 1) o c := by
  constructor
  · intro h
    rcases h with ⟨x, y, k, hw, hk, rfl, rfl⟩
    rcases List.cons_eq_append_iff.mp hw with ⟨rfl, hcons⟩ | ⟨x, rfl, rfl⟩
    · cases hcons
      exact Or.inl ⟨rfl, rfl, k, hk, rfl⟩
    · refine Or.inr ⟨x, y, k, rfl, hk, ?_, rfl⟩
      rw [List.length_cons, Nat.add_right_comm, Nat.add_assoc]
  · intro h
    rcases h with ⟨rfl, rfl, k, hk, rfl⟩ | ⟨x, y, k, rfl, hk, rfl, rfl⟩
    · exact ⟨[], w, k, rfl, hk, rfl, rfl⟩
    · refine ⟨a :: x, y, k, rfl, hk, ?_, rfl⟩
      rw [List.length_cons, Nat.add_right_comm, Nat.add_assoc]

theorem mem_pairsFrom_iff {w : List Char} {i o c : Nat} {stack : List Nat} :
    (o, c) ∈ pairsFrom i stack w <-> ClosesOpen stack w i o c ∨ OpensAndCloses w i o c := by
  induction w generalizing i stack with
  | nil =>
      constructor
      · intro h
        cases h
      · intro h
        rcases h with ⟨d, k, _, hk, _⟩ | ⟨x, y, k, hw, _⟩
        · cases hk
        · cases x <;> cases hw
  | cons a w ih =>
      rw [opensAndCloses_cons]
      by_cases hopening : a = '['
      · subst hopening
        rw [pairsFrom_opening, ih, closesOpen_opening]
        simp only [true_and, or_assoc, or_left_comm]
      · simp only [hopening, false_and, false_or]
        by_cases hclosing : a = ']'
        · subst hclosing
          cases stack with
          | nil =>
              rw [pairsFrom_closing_nil, ih]
              simp only [closesOpen_nil, false_or]
          | cons last stack =>
              rw [pairsFrom_closing_cons, List.mem_cons, ih, closesOpen_closing, Prod.mk.injEq,
                or_assoc]
        · rw [pairsFrom_plain hopening hclosing, ih, closesOpen_plain hopening hclosing]

/-!
## Pairs of a program
-/

namespace Tokens

/-- The pairs of brackets of a program, found with a stack. -/
def pairs (code : Tokens) : List (Nat × Nat) :=
  pairsFrom 0 [] code.toList

/-- The stack leaves the bracket at a position alone. -/
def Unpaired (code : Tokens) (i : Nat) : Prop :=
  forall pair, pair ∈ code.pairs -> pair.1 ≠ i ∧ pair.2 ≠ i

theorem mem_pairs_iff {code : Tokens} {i j : Nat} :
    (i, j) ∈ code.pairs <-> Encloses code i j := by
  rw [pairs, mem_pairsFrom_iff]
  simp only [closesOpen_nil, false_or]
  constructor
  · intro h
    rcases h with ⟨x, y, k, hcode, hk, rfl, rfl⟩
    rcases balanced_of_scan? hk with ⟨u, v, hu, rfl, rfl⟩
    refine ⟨x, u, v, hu, hcode, (Nat.zero_add _).symm, Nat.add_right_comm _ _ _⟩
  · intro h
    rcases h with ⟨x, u, v, hu, hcode, rfl, rfl⟩
    have hscan : scan? .opening (u ++ ']' :: v) 0 = some u.length :=
      scan?_eq_some_iff.mpr ⟨u, v, hu, rfl, rfl⟩
    exact ⟨x, u ++ ']' :: v, u.length, hcode, hscan, (Nat.zero_add _).symm,
      Nat.add_right_comm _ _ _⟩

/-- A scan finds no partner exactly where the stack leaves the bracket alone. -/
theorem partner?_eq_none_iff {code : Tokens} {b : Bracket} {i : Nat}
    (hi : code[i]? = some b.toChar) : code.partner? b i = none <-> code.Unpaired i := by
  rw [Option.eq_none_iff_forall_ne_some]
  constructor
  · intro hnone pair hpair
    have hencloses : Encloses code pair.1 pair.2 := mem_pairs_iff.mp hpair
    have hpartner : forall j, ¬ Partners code b i j := by
      intro j hpartners
      exact hnone j ((partner?_eq_some_iff hi).mpr hpartners)
    -- The kind of the bracket says on which side of a pair it can stand.
    constructor
    · intro hleft
      rw [hleft] at hencloses
      have hopening := hencloses.opening_at
      rw [hi] at hopening
      cases b with
      | opening =>
          exact hpartner _ hencloses
      | closing =>
          cases hopening
    · intro hright
      rw [hright] at hencloses
      have hclosing := hencloses.closing_at
      rw [hi] at hclosing
      cases b with
      | opening =>
          cases hclosing
      | closing =>
          exact hpartner _ hencloses
  · intro halone j hfound
    have hpartners := (partner?_eq_some_iff hi).mp hfound
    cases b with
    | opening =>
        exact (halone (i, j) (mem_pairs_iff.mpr hpartners)).1 rfl
    | closing =>
        exact (halone (j, i) (mem_pairs_iff.mpr hpartners)).2 rfl

/-- In a balanced program no bracket is left alone. -/
theorem not_unpaired_of_balanced {code : Tokens} {b : Bracket} {i : Nat}
    (h : Balanced .opening code.toList) (hi : code[i]? = some b.toChar) : ¬ code.Unpaired i := by
  intro halone
  have hnone := (partner?_eq_none_iff hi).mpr halone
  have hlt : i < code.size := (Array.getElem?_eq_some_iff.mp hi).choose
  have hsplit := toList_eq_take_append hi
  rw [partner?_eq_scan? code b hlt, Option.map_eq_none_iff] at hnone
  cases b with
  | opening =>
      rcases h.exists_scan? hsplit with ⟨k, hk⟩
      rw [away, hk] at hnone
      cases hnone
  | closing =>
      have hreverse : code.toList.reverse =
          (code.toList.drop (i + 1)).reverse ++ ']' :: (code.toList.take i).reverse := by
        have h := congrArg List.reverse hsplit
        rwa [List.reverse_append, List.reverse_cons, List.append_assoc] at h
      have hbackward : Balanced .closing code.toList.reverse := h.reverse
      rcases hbackward.exists_scan? hreverse with ⟨k, hk⟩
      rw [away, hk] at hnone
      cases hnone

/-!
## Nesting
-/

namespace Encloses

variable {code : Tokens} {i j k l : Nat}

theorem lt (h : Encloses code i j) : i < j := by
  rcases h with ⟨x, u, v, _, _, rfl, rfl⟩
  exact Nat.lt_succ_of_le (Nat.le_add_right x.length u.length)

theorem opening_ne_closing (h : Encloses code i j) (h' : Encloses code k l) : i ≠ l := by
  rintro rfl
  have hkind := h.opening_at
  rw [h'.closing_at] at hkind
  cases hkind

theorem closing_unique (h : Encloses code i j) (h' : Encloses code i l) : j = l := by
  have hj := (closing?_eq_some_iff h.opening_at).mpr h
  rw [(closing?_eq_some_iff h.opening_at).mpr h'] at hj
  exact (Option.some.inj hj).symm

theorem opening_unique (h : Encloses code i j) (h' : Encloses code k j) : i = k := by
  have hi := (opening?_eq_some_iff h.closing_at).mpr h
  rw [(opening?_eq_some_iff h.closing_at).mpr h'] at hi
  exact (Option.some.inj hi).symm

/-- A pair that opens inside another pair closes inside it. -/
theorem closing_lt (h : Encloses code i j) (h' : Encloses code k l) (hopens : i < k)
    (hinside : k < j) : l < j := by
  rcases h with ⟨x, u, v, hu, hcode, rfl, rfl⟩
  rcases Nat.exists_eq_add_of_lt hopens with ⟨d, rfl⟩
  have hd : d < u.length := by omega
  -- The bracket is at distance `d` in the enclosed text, which closes it.
  have hopening : u.toArray[d]? = some '[' := by
    have hk := h'.opening_at
    rw [← Array.getElem?_toList, hcode, Nat.add_assoc, List.getElem?_append_right (by omega),
      Nat.add_sub_cancel_left, List.getElem?_cons_succ, List.getElem?_append_left hd] at hk
    rwa [List.getElem?_toArray]
  have hsplit : u = u.take d ++ '[' :: u.drop (d + 1) := toList_eq_take_append hopening
  rcases hu.exists_scan? hsplit with ⟨n, hn⟩
  have hdrop : code.toList.drop (x.length + d + 1 + 1) = u.drop (d + 1) ++ ']' :: v := by
    rw [hcode, Nat.add_assoc, Nat.add_assoc, List.drop_length_add_append, List.drop_succ_cons,
      List.drop_append_of_le_length hd]
  have hfound : code.closing? (x.length + d + 1) = some (n + (x.length + d + 1 + 1)) := by
    show code.closingFrom? (x.length + d + 1 + 1) 0 = _
    rw [closingFrom?_eq_scan?, hdrop, scan?_append_of_some hn]
    rfl
  rw [(closing?_eq_some_iff h'.opening_at).mpr h'] at hfound
  have hshort := lt_length_of_scan? hn
  rw [List.length_drop] at hshort
  rw [Option.some.inj hfound]
  omega

/-- Of two pairs, one lies behind the other or inside it. -/
theorem behind_or_inside (h : Encloses code i j) (h' : Encloses code k l) (hopens : i < k) :
    j < k ∨ l < j := by
  rcases Nat.lt_trichotomy j k with hbehind | rfl | hinside
  · exact Or.inl hbehind
  · exact absurd rfl (h'.opening_ne_closing h)
  · exact Or.inr (h.closing_lt h' hopens hinside)

end Encloses

end Tokens

end TapeMachine
