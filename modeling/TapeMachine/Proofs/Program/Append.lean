import TapeMachine.Proofs.Program.Scan

/-!
# A balanced text before another

The brackets of a balanced text have their partners within it.  So when another
text is appended, no scan from the first text looks into the second, and a scan
that comes from the second passes through all of the first and finds nothing
there.  Each part keeps its own pairs.
-/

namespace TapeMachine

/-- Where a scan stops does not depend on what follows. -/
theorem scan?_append_of_some {b : Bracket} {w : List Char} {depth k : Nat}
    (h : scan? b w depth = some k) (v : List Char) : scan? b (w ++ v) depth = some k := by
  induction w generalizing depth k with
  | nil =>
      cases h
  | cons c w ih =>
      have hnext : forall {depth'},
          (scan? b w depth').map (· + 1) = some k ->
          (scan? b (w ++ v) depth').map (· + 1) = some k := by
        intro depth' hfound
        rcases Option.map_eq_some_iff.mp hfound with ⟨l, hl, rfl⟩
        rw [ih hl]
        rfl
      rw [List.cons_append]
      rcases b.char_cases c with rfl | rfl | ⟨hsame, hother⟩
      · rw [scan?_same] at h ⊢
        exact hnext h
      · cases depth with
        | zero =>
            rw [scan?_other_zero] at h ⊢
            exact h
        | succ depth =>
            rw [scan?_other_succ] at h ⊢
            exact hnext h
      · rw [scan?_plain hsame hother] at h ⊢
        exact hnext h

namespace Balanced

/-- A scan finds nothing in a balanced text behind the text where it began. -/
theorem scan?_append_left {b : Bracket} {v : List Char} (hv : Balanced b v) (u : List Char)
    (depth : Nat) : scan? b (u ++ v) depth = scan? b u depth := by
  induction u generalizing depth with
  | nil =>
      have hthrough := hv.scan?_append [] depth
      rw [List.append_nil] at hthrough
      rw [List.nil_append, hthrough]
      rfl
  | cons c u ih =>
      rw [List.cons_append]
      rcases b.char_cases c with rfl | rfl | ⟨hsame, hother⟩
      · rw [scan?_same, scan?_same, ih]
      · cases depth with
        | zero =>
            rw [scan?_other_zero, scan?_other_zero]
        | succ depth =>
            rw [scan?_other_succ, scan?_other_succ, ih]
      · rw [scan?_plain hsame hother, scan?_plain hsame hother, ih]

/-- The partner of a bracket in a balanced text is in that text. -/
theorem exists_scan? {b : Bracket} {w x y : List Char} (h : Balanced b w)
    (hw : w = x ++ b.toChar :: y) : exists k, scan? b y 0 = some k := by
  induction h generalizing x y with
  | nil =>
      cases x <;> cases hw
  | plain hsame hother _ ih =>
      rcases List.cons_eq_append_iff.mp hw with ⟨rfl, hcons⟩ | ⟨x', rfl, hrest⟩
      · cases hcons
        exact absurd rfl hsame
      · exact ih hrest
  | nest hinner hrest ihinner ihrest =>
      rename_i u v
      rcases List.cons_eq_append_iff.mp hw with ⟨rfl, hcons⟩ | ⟨x', rfl, hsplit⟩
      · cases hcons
        exact ⟨u.length, scan?_eq_some_iff.mpr ⟨u, v, hinner, rfl, rfl⟩⟩
      · rcases List.append_eq_append_iff.mp hsplit with ⟨z, rfl, hz⟩ | ⟨z, hu, hz⟩
        · -- The bracket is behind the nested text.
          rcases List.cons_eq_append_iff.mp hz with ⟨rfl, hcons⟩ | ⟨z', rfl, hv⟩
          · exact absurd (List.cons.inj hcons).1.symm b.toChar_other_ne
          · exact ihrest hv
        · -- The bracket is in the nested text, unless that ends before it.
          cases z with
          | nil =>
              exact absurd (List.cons.inj hz).1.symm b.toChar_other_ne
          | cons c z =>
              rcases List.cons.inj hz with ⟨rfl, rfl⟩
              rcases ihinner hu with ⟨k, hk⟩
              exact ⟨k, scan?_append_of_some hk _⟩

/-- A balanced text with brackets has brackets of both kinds. -/
theorem other_mem {b : Bracket} {w : List Char} (h : Balanced b w) (hmem : b.toChar ∈ w) :
    b.other.toChar ∈ w := by
  rcases List.append_of_mem hmem with ⟨x, y, rfl⟩
  rcases h.exists_scan? rfl with ⟨k, hk⟩
  rcases balanced_of_scan? hk with ⟨u, v, _, rfl, _⟩
  simp

end Balanced

/-- A bracket that opens before the first one that closes takes that one, so a scan
from further left goes beyond it. -/
theorem length_lt_of_scan? {b : Bracket} {u v : List Char} {k : Nat}
    (hmem : b.toChar ∈ u) (hother : b.other.toChar ∉ u)
    (h : scan? b (u ++ b.other.toChar :: v) 0 = some k) : u.length < k := by
  rcases balanced_of_scan? h with ⟨u', v', hu', hsplit, rfl⟩
  have hne : u' ≠ u := by
    intro hsame
    rw [hsame] at hu'
    exact hother (hu'.other_mem hmem)
  rcases List.append_eq_append_iff.mp hsplit with ⟨z, rfl, _⟩ | ⟨z, rfl, hz⟩
  · cases z with
    | nil =>
        exact absurd (List.append_nil u) hne
    | cons c z =>
        simp
  · cases z with
    | nil =>
        exact absurd (List.append_nil u').symm hne
    | cons c z =>
        -- The scan would have stopped before the first bracket that closes.
        rw [(List.cons.inj hz).1] at hother
        simp at hother

/-!
## Partners
-/

namespace Tokens

section

variable {a : List Char} (ha : Balanced .opening a) (rest : List Char) {b : Bracket} {i : Nat}
include ha

theorem partner?_append_left (hi : a[i]? = some b.toChar) :
    partner? (a ++ rest).toArray b i = partner? a.toArray b i := by
  have hlt : i < a.length := (List.getElem?_eq_some_iff.mp hi).choose
  have hlt' : i < (a ++ rest).toArray.size := by
    simp only [List.size_toArray, List.length_append]
    omega
  rw [partner?_eq_scan? _ b hlt', partner?_eq_scan? _ b hlt]
  cases b with
  | opening =>
      rw [← List.getElem?_toArray] at hi
      rcases ha.exists_scan? (toList_eq_take_append hi) with ⟨k, hk⟩
      simp only at hk
      change (scan? .opening ((a ++ rest).drop (i + 1)) 0).map _ =
        (scan? .opening (a.drop (i + 1)) 0).map _
      rw [List.drop_append_of_le_length hlt, hk, scan?_append_of_some hk]
  | closing =>
      change (scan? .closing ((a ++ rest).take i).reverse 0).map _ =
        (scan? .closing (a.take i).reverse 0).map _
      rw [List.take_append_of_le_length (Nat.le_of_lt hlt)]

theorem partner?_append_right (hi : rest[i]? = some b.toChar) :
    partner? (a ++ rest).toArray b (i + a.length) =
      (partner? rest.toArray b i).map (· + a.length) := by
  have hlt : i < rest.length := (List.getElem?_eq_some_iff.mp hi).choose
  have hlt' : i + a.length < (a ++ rest).toArray.size := by
    simp only [List.size_toArray, List.length_append]
    omega
  rw [partner?_eq_scan? _ b hlt', partner?_eq_scan? _ b hlt, Option.map_map]
  cases b with
  | opening =>
      have hdrop : (a ++ rest).drop (i + a.length + 1) = rest.drop (i + 1) := by
        rw [Nat.add_right_comm, Nat.add_comm _ a.length, List.drop_length_add_append]
      change (scan? .opening ((a ++ rest).drop (i + a.length + 1)) 0).map _ =
        (scan? .opening (rest.drop (i + 1)) 0).map _
      rw [hdrop]
      congr 1
      funext k
      simp only [placeAway, Function.comp_apply]
      omega
  | closing =>
      have htake : ((a ++ rest).take (i + a.length)).reverse =
          (rest.take i).reverse ++ a.reverse := by
        rw [Nat.add_comm, List.take_length_add_append, List.reverse_append]
      change (scan? .closing ((a ++ rest).take (i + a.length)).reverse 0).map _ =
        (scan? .closing (rest.take i).reverse 0).map _
      have hbackward : Balanced .closing a.reverse := ha.reverse
      rw [htake, hbackward.scan?_append_left]
      cases hfound : scan? .closing (rest.take i).reverse 0 with
      | none =>
          rfl
      | some k =>
          have hk := lt_length_of_scan? hfound
          rw [List.length_reverse, List.length_take] at hk
          simp only [Option.map_some, placeAway, Function.comp_apply, Option.some.injEq]
          omega

end

/-- The partner of a bracket is a token of the program. -/
theorem partner?_lt {code : Tokens} {b : Bracket} {i j : Nat} (hi : code[i]? = some b.toChar)
    (h : code.partner? b i = some j) : j < code.size := by
  have hj := ((partner?_eq_some_iff hi).mp h).symm.bracket_at
  exact (Array.getElem?_eq_some_iff.mp hj).choose

end Tokens

end TapeMachine
