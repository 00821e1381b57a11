import TapeMachine.Proofs.Program.Scan

/-!
# Exchanging a stretch without brackets

When a stretch of a program that has no brackets is exchanged for another such
stretch, the brackets around it keep their partners.  Positions before the
stretch stay the same, and positions behind it move by the difference of the two
lengths.
-/

namespace TapeMachine

/-- A text without brackets. -/
def Plain (w : List Char) : Prop :=
  forall b : Bracket, b.toChar ∉ w

theorem Plain.reverse {w : List Char} (h : Plain w) : Plain w.reverse := by
  intro b hb
  exact h b (List.mem_reverse.mp hb)

theorem Plain.balanced {w : List Char} (h : Plain w) (b : Bracket) : Balanced b w := by
  induction w with
  | nil =>
      exact Balanced.nil
  | cons c w ih =>
      apply Balanced.plain
      · intro hc
        exact h b (hc ▸ List.mem_cons_self)
      · intro hc
        exact h b.other (hc ▸ List.mem_cons_self)
      · apply ih
        intro b' hb'
        exact h b' (List.mem_cons_of_mem c hb')

/-!
## Positions
-/

/-- Corresponding positions outside a stretch that begins at `start`, where its
length is `d` in the one text and `d'` in the other. -/
inductive Across (start d d' : Nat) : Nat -> Nat -> Prop where
  | before {i : Nat} : i < start -> Across start d d' i i
  | behind (j : Nat) : Across start d d' (start + d + j) (start + d' + j)

namespace Across

theorem add {start d d' i i' : Nat} (h : Across start d d' i i') (n : Nat) :
    Across (start + n) d d' (i + n) (i' + n) := by
  cases h with
  | before hi =>
      exact before (Nat.add_lt_add_right hi n)
  | behind j =>
      have hbehind : Across (start + n) d d' _ _ := behind j
      have hmove : start + n + d + j = start + d + j + n := by omega
      have hmove' : start + n + d' + j = start + d' + j + n := by omega
      rwa [hmove, hmove'] at hbehind

end Across

/-- Where a position outside the stretch is when the stretch has been exchanged. -/
def placeAcross (start d d' i : Nat) : Nat :=
  if i < start then i else i - d + d'

theorem Across.place_eq {start d d' i i' : Nat} (h : Across start d d' i i') :
    placeAcross start d d' i = i' := by
  unfold placeAcross
  cases h with
  | before hi =>
      rw [if_pos hi]
  | behind j =>
      rw [if_neg (by omega)]
      omega

theorem getElem?_across {x w w' y : List Char} {i i' : Nat}
    (h : Across x.length w.length w'.length i i') :
    (x ++ (w ++ y))[i]? = (x ++ (w' ++ y))[i']? := by
  cases h with
  | before hi =>
      rw [List.getElem?_append_left hi, List.getElem?_append_left hi]
  | behind j =>
      rw [Nat.add_assoc, Nat.add_assoc, List.getElem?_append_right (Nat.le_add_right _ _),
        List.getElem?_append_right (Nat.le_add_right _ _), Nat.add_sub_cancel_left,
        Nat.add_sub_cancel_left, List.getElem?_append_right (Nat.le_add_right _ _),
        List.getElem?_append_right (Nat.le_add_right _ _), Nat.add_sub_cancel_left,
        Nat.add_sub_cancel_left]

/-!
## Partners
-/

theorem rel_map {R R' : Nat -> Nat -> Prop} {f f' : Nat -> Nat} {found found' : Option Nat}
    (h : Option.Rel R found found')
    (hf : forall k k', found = some k -> R k k' -> R' (f k) (f' k')) :
    Option.Rel R' (found.map f) (found'.map f') := by
  cases h with
  | none =>
      exact Option.Rel.none
  | some hk =>
      exact Option.Rel.some (hf _ _ rfl hk)

/-- A scan across the stretch meets the same brackets in both texts. -/
theorem scan?_across {w w' : List Char} (hw : Plain w) (hw' : Plain w') (b : Bracket)
    (u v : List Char) (depth : Nat) :
    Option.Rel (Across u.length w.length w'.length) (scan? b (u ++ (w ++ v)) depth)
      (scan? b (u ++ (w' ++ v)) depth) := by
  induction u generalizing depth with
  | nil =>
      rw [List.nil_append, List.nil_append, (hw.balanced b).scan?_append,
        (hw'.balanced b).scan?_append]
      cases scan? b v depth with
      | none =>
          exact Option.Rel.none
      | some k =>
          have hbehind : Across 0 w.length w'.length _ _ := Across.behind k
          rw [Nat.zero_add, Nat.zero_add, Nat.add_comm, Nat.add_comm w'.length] at hbehind
          exact Option.Rel.some hbehind
  | cons c u ih =>
      have hnext : forall depth', Option.Rel (Across (c :: u).length w.length w'.length)
          ((scan? b (u ++ (w ++ v)) depth').map (· + 1))
          ((scan? b (u ++ (w' ++ v)) depth').map (· + 1)) := by
        intro depth'
        apply rel_map (ih depth')
        intro k k' _ hk
        exact hk.add 1
      rw [List.cons_append, List.cons_append]
      rcases b.char_cases c with rfl | rfl | ⟨hsame, hother⟩
      · rw [scan?_same, scan?_same]
        exact hnext (depth + 1)
      · cases depth with
        | zero =>
            rw [scan?_other_zero, scan?_other_zero]
            exact Option.Rel.some (Across.before (Nat.succ_pos _))
        | succ depth =>
            rw [scan?_other_succ, scan?_other_succ]
            exact hnext depth
      · rw [scan?_plain hsame hother, scan?_plain hsame hother]
        exact hnext depth

theorem drop_behind (x w y : List Char) (j : Nat) :
    (x ++ (w ++ y)).drop (x.length + w.length + j + 1) = y.drop (j + 1) := by
  rw [Nat.add_assoc, Nat.add_assoc, List.drop_length_add_append, List.drop_length_add_append]

theorem take_behind (x w y : List Char) (j : Nat) :
    (x ++ (w ++ y)).take (x.length + w.length + j) = x ++ (w ++ y.take j) := by
  rw [Nat.add_assoc, List.take_length_add_append, List.take_length_add_append]

namespace Tokens

theorem closing_across {x w w' y : List Char} (hw : Plain w) (hw' : Plain w') {i i' : Nat}
    (h : Across x.length w.length w'.length i i') :
    Option.Rel (Across x.length w.length w'.length)
      ((scan? .opening ((x ++ (w ++ y)).drop (i + 1)) 0).map (placeAway .opening i))
      ((scan? .opening ((x ++ (w' ++ y)).drop (i' + 1)) 0).map (placeAway .opening i')) := by
  cases h with
  | before hi =>
      rw [List.drop_append_of_le_length hi, List.drop_append_of_le_length hi]
      apply rel_map (scan?_across hw hw' .opening (x.drop (i + 1)) y 0)
      intro k k' _ hk
      have hmoved := hk.add (i + 1)
      rwa [List.length_drop, Nat.sub_add_cancel hi] at hmoved
  | behind j =>
      rw [drop_behind, drop_behind]
      cases scan? .opening (y.drop (j + 1)) 0 with
      | none =>
          exact Option.Rel.none
      | some k =>
          have hbehind : Across x.length w.length w'.length _ _ := Across.behind (j + 1 + k)
          have hplace : forall d,
              x.length + d + (j + 1 + k) = placeAway .opening (x.length + d + j) k := by
            intro d
            simp only [placeAway]
            omega
          rw [hplace, hplace] at hbehind
          exact Option.Rel.some hbehind

theorem opening_across {x w w' y : List Char} (hw : Plain w) (hw' : Plain w') {i i' : Nat}
    (h : Across x.length w.length w'.length i i') (hi : i < (x ++ (w ++ y)).length) :
    Option.Rel (Across x.length w.length w'.length)
      ((scan? .closing ((x ++ (w ++ y)).take i).reverse 0).map (placeAway .closing i))
      ((scan? .closing ((x ++ (w' ++ y)).take i').reverse 0).map (placeAway .closing i')) := by
  cases h with
  | before hi =>
      rw [List.take_append_of_le_length (Nat.le_of_lt hi),
        List.take_append_of_le_length (Nat.le_of_lt hi)]
      cases scan? .closing (x.take i).reverse 0 with
      | none =>
          exact Option.Rel.none
      | some k =>
          exact Option.Rel.some (Across.before (Nat.lt_of_le_of_lt (Nat.sub_le _ _) hi))
  | behind j =>
      have hj : (y.take j).reverse.length = j := by
        simp only [List.length_append] at hi
        simp only [List.length_reverse, List.length_take]
        omega
      have hreverse : forall v : List Char,
          (x ++ (v ++ y.take j)).reverse = (y.take j).reverse ++ (v.reverse ++ x.reverse) := by
        intro v
        simp
      have hscan := scan?_across hw.reverse hw'.reverse .closing (y.take j).reverse x.reverse 0
      rw [hj, List.length_reverse, List.length_reverse] at hscan
      rw [take_behind, take_behind, hreverse, hreverse]
      apply rel_map hscan
      intro k k' hfound hk
      simp only [placeAway]
      cases hk with
      | before hk =>
          have hbehind : Across x.length w.length w'.length _ _ := Across.behind (j - (k + 1))
          rwa [← Nat.add_sub_assoc hk, ← Nat.add_sub_assoc hk] at hbehind
      | behind l =>
          -- The scan has come to the part before the stretch, `l` tokens from its end.
          have hinside := lt_length_of_scan? hfound
          simp only [List.length_append, List.length_reverse, hj] at hinside
          have hplace : forall d, x.length + d + j - (j + d + l + 1) = x.length - (l + 1) := by
            intro d
            omega
          rw [hplace, hplace]
          exact Across.before (by omega)

/-- The partner of a bracket outside the stretch is at the corresponding position,
or there is none in either text. -/
theorem partner?_across {x w w' y : List Char} (hw : Plain w) (hw' : Plain w') {b : Bracket}
    {i i' : Nat} (h : Across x.length w.length w'.length i i')
    (hi : (x ++ (w ++ y))[i]? = some b.toChar) :
    Option.Rel (Across x.length w.length w'.length)
      (partner? (x ++ (w ++ y)).toArray b i) (partner? (x ++ (w' ++ y)).toArray b i') := by
  have hi' : (x ++ (w' ++ y))[i']? = some b.toChar := by
    rw [← getElem?_across h, hi]
  have hlt : i < (x ++ (w ++ y)).toArray.size := (List.getElem?_eq_some_iff.mp hi).choose
  have hlt' : i' < (x ++ (w' ++ y)).toArray.size := (List.getElem?_eq_some_iff.mp hi').choose
  rw [partner?_eq_scan? _ b hlt, partner?_eq_scan? _ b hlt']
  cases b with
  | opening =>
      exact closing_across hw hw' h
  | closing =>
      exact opening_across hw hw' h hlt

end Tokens

end TapeMachine
