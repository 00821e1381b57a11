import TapeMachine.Program.Bracket

/-!
# The two scans for a partner

The forward scan and the backward scan are one scan of a text: the tokens behind
the bracket for the one, the tokens before it in reverse for the other.  This
module states that scan, shows that it stops behind a balanced text, and derives
that the two scans find the same pairs.
-/

namespace TapeMachine

def Bracket.other : Bracket -> Bracket
  | opening => closing
  | closing => opening

theorem Bracket.other_other (b : Bracket) : b.other.other = b := by
  cases b <;> rfl

theorem Bracket.toChar_other_ne (b : Bracket) : b.other.toChar ≠ b.toChar := by
  cases b <;> decide

theorem map_add_map_add (found : Option Nat) (m n : Nat) :
    (found.map (· + m)).map (· + n) = found.map (· + (m + n)) := by
  cases found with
  | none =>
      rfl
  | some k =>
      simp [Nat.add_assoc]

/-- The distance to the first bracket of the other kind that nothing on the way
accounts for, when `depth` brackets of kind `b` are open already. -/
def scan? (b : Bracket) : List Char -> Nat -> Option Nat
  | [], _ => none
  | c :: w, depth =>
      if c = b.toChar then
        (scan? b w (depth + 1)).map (· + 1)
      else if c = b.other.toChar then
        match depth with
        | 0 => some 0
        | depth + 1 => (scan? b w depth).map (· + 1)
      else
        (scan? b w depth).map (· + 1)

theorem scan?_same (b : Bracket) (w : List Char) (depth : Nat) :
    scan? b (b.toChar :: w) depth = (scan? b w (depth + 1)).map (· + 1) := by
  simp [scan?]

theorem scan?_other_zero (b : Bracket) (w : List Char) :
    scan? b (b.other.toChar :: w) 0 = some 0 := by
  simp [scan?, b.toChar_other_ne]

theorem scan?_other_succ (b : Bracket) (w : List Char) (depth : Nat) :
    scan? b (b.other.toChar :: w) (depth + 1) = (scan? b w depth).map (· + 1) := by
  simp [scan?, b.toChar_other_ne]

theorem scan?_plain {b : Bracket} {c : Char}
    (hsame : c ≠ b.toChar) (hother : c ≠ b.other.toChar)
    (w : List Char) (depth : Nat) :
    scan? b (c :: w) depth = (scan? b w depth).map (· + 1) := by
  simp [scan?, hsame, hother]

theorem Bracket.char_cases (b : Bracket) (c : Char) :
    c = b.toChar ∨ c = b.other.toChar ∨ (c ≠ b.toChar ∧ c ≠ b.other.toChar) := by
  by_cases hsame : c = b.toChar
  · exact Or.inl hsame
  · by_cases hother : c = b.other.toChar
    · exact Or.inr (Or.inl hother)
    · exact Or.inr (Or.inr ⟨hsame, hother⟩)

/-!
## Balanced texts

Read from a bracket of kind `b`, a text is balanced when its brackets of that
kind and of the other kind nest.  A text that is balanced from left to right is
balanced from right to left with the kinds exchanged, which is what ties the two
scans together.
-/

/-- A text whose brackets nest, where `b` is the kind that comes first. -/
inductive Balanced (b : Bracket) : List Char -> Prop where
  | nil : Balanced b []
  | plain {c : Char} {w : List Char} :
      c ≠ b.toChar ->
      c ≠ b.other.toChar ->
      Balanced b w ->
      Balanced b (c :: w)
  | nest {u v : List Char} :
      Balanced b u ->
      Balanced b v ->
      Balanced b (b.toChar :: (u ++ b.other.toChar :: v))

namespace Balanced

theorem append {b : Bracket} {u v : List Char}
    (hu : Balanced b u) (hv : Balanced b v) : Balanced b (u ++ v) := by
  induction hu with
  | nil =>
      exact hv
  | plain hsame hother _ ih =>
      exact Balanced.plain hsame hother ih
  | nest hinner _ _ ihrest =>
      rw [List.cons_append, List.append_assoc, List.cons_append]
      exact Balanced.nest hinner ihrest

theorem reverse {b : Bracket} {w : List Char} (h : Balanced b w) :
    Balanced b.other w.reverse := by
  induction h with
  | nil =>
      exact Balanced.nil
  | plain hsame hother _ ih =>
      rw [List.reverse_cons]
      apply ih.append
      apply Balanced.plain hother
      · rw [b.other_other]
        exact hsame
      · exact Balanced.nil
  | nest hinner hrest ihinner ihrest =>
      rename_i u v
      -- Reading backwards, the rest comes first and the nested text is entered
      -- through its last bracket.
      have hnested : Balanced b.other (b.other.toChar :: (u.reverse ++ [b.toChar])) := by
        have h := Balanced.nest ihinner (Balanced.nil (b := b.other))
        rwa [b.other_other] at h
      have happend := ihrest.append hnested
      simpa using happend

/-- A scan passes over a balanced text without noticing it. -/
theorem scan?_append {b : Bracket} {u : List Char} (h : Balanced b u)
    (w : List Char) (depth : Nat) :
    scan? b (u ++ w) depth = (scan? b w depth).map (· + u.length) := by
  induction h generalizing w depth with
  | nil =>
      simp
  | plain hsame hother _ ih =>
      rw [List.cons_append, scan?_plain hsame hother, ih, map_add_map_add]
      rfl
  | nest hinner hrest ihinner ihrest =>
      rename_i u v
      have hlength :
          (b.toChar :: (u ++ b.other.toChar :: v)).length =
            v.length + (1 + (u.length + 1)) := by
        simp only [List.length_cons, List.length_append]
        omega
      rw [List.cons_append, List.append_assoc, List.cons_append, scan?_same, ihinner,
        scan?_other_succ, ihrest, map_add_map_add, map_add_map_add, map_add_map_add, hlength]

end Balanced

/-!
## What a scan finds
-/

/-- A scan that starts `depth + n + 1` deep first does what a scan that starts
`depth` deep does, and goes on `n` deep behind the bracket where that one stops. -/
theorem scan?_add_succ (b : Bracket) (w : List Char) (depth n : Nat) :
    scan? b w (depth + n + 1) =
      (scan? b w depth).bind fun k => (scan? b (w.drop (k + 1)) n).map (· + (k + 1)) := by
  induction w generalizing depth with
  | nil =>
      rfl
  | cons c w ih =>
      rcases b.char_cases c with rfl | rfl | ⟨hsame, hother⟩
      · have hdepth : depth + n + 1 + 1 = (depth + 1) + n + 1 := by omega
        rw [scan?_same, scan?_same, hdepth, ih]
        cases scan? b w (depth + 1) with
        | none =>
            rfl
        | some k =>
            exact map_add_map_add _ _ _
      · cases depth with
        | zero =>
            rw [scan?_other_succ, scan?_other_zero]
            simp
        | succ depth =>
            have hdepth : depth + 1 + n + 1 = (depth + n + 1) + 1 := by omega
            rw [hdepth, scan?_other_succ, scan?_other_succ, ih]
            cases scan? b w depth with
            | none =>
                rfl
            | some k =>
                exact map_add_map_add _ _ _
      · rw [scan?_plain hsame hother, scan?_plain hsame hother, ih]
        cases scan? b w depth with
        | none =>
            rfl
        | some k =>
            exact map_add_map_add _ _ _

/-- Where a scan stops there is a bracket of the other kind, and before it a
balanced text. -/
theorem balanced_of_scan? {b : Bracket} {w : List Char} {k : Nat}
    (h : scan? b w 0 = some k) :
    exists u v, Balanced b u ∧ w = u ++ b.other.toChar :: v ∧ u.length = k := by
  -- A nested text splits the scan in two, each over a shorter text.
  induction hlen : w.length using Nat.strongRecOn generalizing w k with
  | ind n ih =>
      cases w with
      | nil =>
          cases h
      | cons c w =>
          have hshorter : w.length < n := by
            rw [← hlen]
            exact Nat.lt_succ_self w.length
          rcases b.char_cases c with rfl | rfl | ⟨hsame, hother⟩
          · rw [scan?_same, scan?_add_succ b w 0 0] at h
            simp only [Option.map_eq_some_iff, Option.bind_eq_some_iff] at h
            rcases h with ⟨_, ⟨k₁, hfirst, k₂, hsecond, rfl⟩, rfl⟩
            rcases ih w.length hshorter hfirst rfl with ⟨u, rest, hu, rfl, rfl⟩
            have hdrop : (u ++ b.other.toChar :: rest).drop (u.length + 1) = rest := by
              simp
            rw [hdrop] at hsecond
            have hrest : rest.length < n := by
              simp only [List.length_append, List.length_cons] at hshorter
              omega
            rcases ih rest.length hrest hsecond rfl with ⟨u', v, hu', rfl, rfl⟩
            refine ⟨_, v, Balanced.nest hu hu', by simp, ?_⟩
            simp only [List.length_cons, List.length_append]
            omega
          · rw [scan?_other_zero] at h
            cases h
            exact ⟨[], w, Balanced.nil, rfl, rfl⟩
          · rw [scan?_plain hsame hother] at h
            rcases Option.map_eq_some_iff.mp h with ⟨k, hk, rfl⟩
            rcases ih w.length hshorter hk rfl with ⟨u, v, hu, rfl, rfl⟩
            exact ⟨c :: u, v, Balanced.plain hsame hother hu, rfl, rfl⟩

theorem lt_length_of_scan? {b : Bracket} {w : List Char} {k : Nat}
    (h : scan? b w 0 = some k) : k < w.length := by
  rcases balanced_of_scan? h with ⟨u, v, _, rfl, rfl⟩
  simp

theorem scan?_eq_some_iff {b : Bracket} {w : List Char} {k : Nat} :
    scan? b w 0 = some k <->
      exists u v, Balanced b u ∧ w = u ++ b.other.toChar :: v ∧ u.length = k := by
  constructor
  · exact balanced_of_scan?
  · intro h
    rcases h with ⟨u, v, hu, rfl, rfl⟩
    rw [hu.scan?_append, scan?_other_zero]
    simp

/-!
## Pairs of brackets

Both scans find the pairs of brackets that enclose a balanced text.
-/

namespace Tokens

/-- The tokens that a scan from a bracket at position `i` looks at, in its order. -/
def away (code : Tokens) (b : Bracket) (i : Nat) : List Char :=
  match b with
  | .opening => code.toList.drop (i + 1)
  | .closing => (code.toList.take i).reverse

/-- The position at distance `k` from position `i` on the way of a scan. -/
def placeAway (b : Bracket) (i k : Nat) : Nat :=
  match b with
  | .opening => k + (i + 1)
  | .closing => i - (k + 1)

theorem drop_eq_cons (code : Tokens) {i : Nat} (hi : i < code.size) :
    code.toList.drop i = code[i] :: code.toList.drop (i + 1) := by
  rw [List.drop_eq_getElem_cons (by simpa using hi), Array.getElem_toList]

theorem reverse_take_succ (code : Tokens) {i : Nat} (hi : i < code.size) :
    (code.toList.take (i + 1)).reverse = code[i] :: (code.toList.take i).reverse := by
  rw [List.take_succ_eq_append_getElem (by simpa using hi), List.reverse_append,
    Array.getElem_toList]
  rfl

theorem closingFrom?_eq_scan? (code : Tokens) (i depth : Nat) :
    code.closingFrom? i depth = (scan? .opening (code.toList.drop i) depth).map (· + i) := by
  fun_induction closingFrom? code i depth with
  | case1 i depth hi hopening ih =>
      rw [ih, drop_eq_cons code hi, hopening]
      have hscan := scan?_same .opening (code.toList.drop (i + 1)) depth
      rw [show Bracket.opening.toChar = '[' from rfl] at hscan
      rw [hscan, map_add_map_add, Nat.add_comm 1 i]
  | case2 i hi hopening hclosing =>
      rw [drop_eq_cons code hi, hclosing]
      have hscan := scan?_other_zero .opening (code.toList.drop (i + 1))
      rw [show Bracket.opening.other.toChar = ']' from rfl] at hscan
      rw [hscan]
      simp
  | case3 i hi hopening hclosing depth ih =>
      rw [ih, drop_eq_cons code hi, hclosing]
      have hscan := scan?_other_succ .opening (code.toList.drop (i + 1)) depth
      rw [show Bracket.opening.other.toChar = ']' from rfl] at hscan
      rw [hscan, map_add_map_add, Nat.add_comm 1 i]
  | case4 i depth hi hopening hclosing ih =>
      rw [ih, drop_eq_cons code hi, scan?_plain hopening hclosing, map_add_map_add,
        Nat.add_comm 1 i]
  | case5 i depth hi =>
      have hdrop : code.toList.drop i = [] := by
        apply List.drop_eq_nil_of_le
        simpa using hi
      rw [hdrop]
      rfl

theorem openingBefore?_eq_scan? (code : Tokens) {i : Nat} (hi : i ≤ code.size) (depth : Nat) :
    code.openingBefore? i depth =
      (scan? .closing (code.toList.take i).reverse depth).map (fun k => i - (k + 1)) := by
  induction i generalizing depth with
  | zero =>
      rfl
  | succ i ih =>
      have hlt : i < code.size := hi
      have hshift : forall found : Option Nat,
          (found.map (· + 1)).map (fun k => i + 1 - (k + 1)) =
            found.map (fun k => i - (k + 1)) := by
        intro found
        cases found with
        | none =>
            rfl
        | some k =>
            simp
      have hget : code[i]? = some code[i] := Array.getElem?_eq_getElem hlt
      rw [reverse_take_succ code hlt]
      rcases Bracket.closing.char_cases code[i] with hc | hc | ⟨hsame, hother⟩
      · rw [hc, scan?_same, hshift, ← ih (Nat.le_of_lt hlt)]
        rw [hc] at hget
        simp only [openingBefore?, hget, Bracket.toChar]
      · rw [hc] at hget
        cases depth with
        | zero =>
            rw [hc, scan?_other_zero]
            simp [openingBefore?, hget, Bracket.toChar, Bracket.other]
        | succ depth =>
            rw [hc, scan?_other_succ, hshift, ← ih (Nat.le_of_lt hlt)]
            simp only [openingBefore?, hget, Bracket.toChar, Bracket.other]
      · rw [scan?_plain hsame hother, hshift, ← ih (Nat.le_of_lt hlt)]
        simp only [openingBefore?, hget]
        split
        · next h => exact absurd (Option.some.inj h) hsame
        · next h => exact absurd (Option.some.inj h) hother
        · rfl

theorem partner?_eq_scan? (code : Tokens) (b : Bracket) {i : Nat} (hi : i < code.size) :
    code.partner? b i = (scan? b (code.away b i) 0).map (placeAway b i) := by
  cases b with
  | opening =>
      exact closingFrom?_eq_scan? code (i + 1) 0
  | closing =>
      exact openingBefore?_eq_scan? code (Nat.le_of_lt hi) 0

/-- An opening bracket at `i` and a closing bracket at `j` with a balanced text
between them. -/
def Encloses (code : Tokens) (i j : Nat) : Prop :=
  exists x u v : List Char, Balanced .opening u ∧
    code.toList = x ++ '[' :: (u ++ ']' :: v) ∧ x.length = i ∧ i + u.length + 1 = j

theorem Encloses.opening_at {code : Tokens} {i j : Nat} (h : Encloses code i j) :
    code[i]? = some '[' := by
  rcases h with ⟨x, u, v, _, hcode, rfl, rfl⟩
  rw [← Array.getElem?_toList, hcode]
  simp

theorem Encloses.closing_at {code : Tokens} {i j : Nat} (h : Encloses code i j) :
    code[j]? = some ']' := by
  rcases h with ⟨x, u, v, _, hcode, rfl, rfl⟩
  have hindex : x.length + u.length + 1 - x.length = u.length + 1 := by omega
  rw [← Array.getElem?_toList, hcode, List.getElem?_append_right (by omega), hindex]
  simp

theorem toList_eq_take_append {code : Tokens} {i : Nat} {c : Char}
    (h : code[i]? = some c) :
    code.toList = code.toList.take i ++ c :: code.toList.drop (i + 1) := by
  rcases Array.getElem?_eq_some_iff.mp h with ⟨hi, hc⟩
  rw [← hc, ← drop_eq_cons code hi, List.take_append_drop]

theorem closing?_eq_some_iff {code : Tokens} {i j : Nat} (hi : code[i]? = some '[') :
    code.closing? i = some j <-> Encloses code i j := by
  have hscan : code.closing? i =
      (scan? .opening (code.toList.drop (i + 1)) 0).map (· + (i + 1)) :=
    closingFrom?_eq_scan? code (i + 1) 0
  have hlt : i < code.size := (Array.getElem?_eq_some_iff.mp hi).choose
  constructor
  · intro h
    rw [hscan] at h
    rcases Option.map_eq_some_iff.mp h with ⟨k, hk, rfl⟩
    rcases balanced_of_scan? hk with ⟨u, v, hu, hdrop, rfl⟩
    refine ⟨code.toList.take i, u, v, hu, ?_, ?_, by omega⟩
    · rw [toList_eq_take_append hi, hdrop]
      simp [Bracket.toChar, Bracket.other, Nat.le_of_lt hlt]
    · simp [Nat.le_of_lt hlt]
  · intro h
    rcases h with ⟨x, u, v, hu, hcode, rfl, rfl⟩
    have hdrop : code.toList.drop (x.length + 1) = u ++ Bracket.opening.other.toChar :: v := by
      rw [hcode]
      simp [Bracket.toChar, Bracket.other]
    rw [hscan, hdrop, scan?_eq_some_iff.mpr ⟨u, v, hu, rfl, rfl⟩, Option.map_some]
    congr 1
    omega

theorem opening?_eq_some_iff {code : Tokens} {i j : Nat} (hj : code[j]? = some ']') :
    code.opening? j = some i <-> Encloses code i j := by
  have hlt : j < code.size := (Array.getElem?_eq_some_iff.mp hj).choose
  have hscan : code.opening? j =
      (scan? .closing (code.toList.take j).reverse 0).map (fun k => j - (k + 1)) :=
    openingBefore?_eq_scan? code (Nat.le_of_lt hlt) 0
  constructor
  · intro h
    rw [hscan] at h
    rcases Option.map_eq_some_iff.mp h with ⟨k, hk, rfl⟩
    rcases balanced_of_scan? hk with ⟨u, v, hu, hreverse, rfl⟩
    have htake : code.toList.take j = v.reverse ++ '[' :: u.reverse := by
      rw [← List.reverse_reverse (code.toList.take j), hreverse]
      simp [Bracket.toChar, Bracket.other]
    have hlength : j = v.length + 1 + u.length := by
      have h := congrArg List.length htake
      simp only [List.length_take, List.length_append, List.length_cons, List.length_reverse,
        Array.length_toList] at h
      omega
    refine ⟨v.reverse, u.reverse, code.toList.drop (j + 1), hu.reverse, ?_, ?_, ?_⟩
    · have hsplit := toList_eq_take_append hj
      rw [htake] at hsplit
      simpa using hsplit
    · simp only [List.length_reverse]
      omega
    · simp only [List.length_reverse]
      omega
  · intro h
    rcases h with ⟨x, u, v, hu, hcode, rfl, rfl⟩
    have htake : code.toList.take (x.length + u.length + 1) = x ++ '[' :: u := by
      have hindex : x.length + u.length + 1 = (x ++ '[' :: u).length := by
        simp [Nat.add_assoc]
      have hassoc : code.toList = (x ++ '[' :: u) ++ ']' :: v := by
        rw [hcode]
        simp
      rw [hassoc, hindex, List.take_left]
    have hreverse : (code.toList.take (x.length + u.length + 1)).reverse =
        u.reverse ++ Bracket.closing.other.toChar :: x.reverse := by
      rw [htake]
      simp [Bracket.toChar, Bracket.other]
    have hbackward : Balanced .closing u.reverse := hu.reverse
    rw [hscan, hreverse, scan?_eq_some_iff.mpr ⟨_, _, hbackward, rfl, rfl⟩, Option.map_some]
    congr 1
    simp only [List.length_reverse]
    omega

/-- The bracket of kind `b` at `i` and the bracket of the other kind at `j` are
partners. -/
def Partners (code : Tokens) (b : Bracket) (i j : Nat) : Prop :=
  match b with
  | .opening => Encloses code i j
  | .closing => Encloses code j i

theorem Partners.symm {code : Tokens} {b : Bracket} {i j : Nat} (h : Partners code b i j) :
    Partners code b.other j i := by
  cases b <;> exact h

theorem Partners.bracket_at {code : Tokens} {b : Bracket} {i j : Nat}
    (h : Partners code b i j) : code[i]? = some b.toChar := by
  cases b with
  | opening =>
      exact Encloses.opening_at h
  | closing =>
      exact Encloses.closing_at h

theorem partner?_eq_some_iff {code : Tokens} {b : Bracket} {i j : Nat}
    (hi : code[i]? = some b.toChar) :
    code.partner? b i = some j <-> Partners code b i j := by
  cases b with
  | opening =>
      exact closing?_eq_some_iff hi
  | closing =>
      exact opening?_eq_some_iff hi

end Tokens

end TapeMachine
