import TapeMachine.Proofs.Machine.Reading

/-!
# Input that a run leaves

A request takes a whole piece of the input, and where a piece with something behind
it ends does not depend on what is behind it.  A run that leaves something has met
whole pieces only, never the end of the input, so that it goes the same way
whatever is put in the place of what it leaves.
-/

namespace TapeMachine

/-!
## Pieces with something behind them
-/

theorem Text.lines_append_of_cons {text p q : List Char} {later : List (List Char)}
    (h : lines text = p :: q :: later) (w : List Char) : lines (p ++ w) = p :: lines w := by
  induction text generalizing p with
  | nil =>
      cases h
  | cons c rest ih =>
      by_cases hc : c = '\n'
      · rw [hc, lines_feed] at h
        rw [← (List.cons.inj h).1]
        exact lines_feed w
      · cases hlines : lines rest with
        | nil =>
            rw [lines_of_lines_nil hc hlines] at h
            cases h
        | cons line lines' =>
            rw [lines_of_lines_cons hc hlines] at h
            cases h
            exact lines_of_lines_cons hc (ih hlines)

namespace Input

variable {mode : InputMode}

theorem pieces_append_of_cons {text p q : List Char} {later : List (List Char)}
    (h : pieces mode text = p :: q :: later) (w : List Char) :
    pieces mode (p ++ w) = p :: pieces mode w := by
  cases mode with
  | key =>
      cases text with
      | nil =>
          cases h
      | cons c rest =>
          rw [← (List.cons.inj h).1]
          rfl
  | hexLine =>
      exact Text.lines_append_of_cons h w
  | line =>
      exact Text.lines_append_of_cons h w

/-- Pieces that are not the last ones stay pieces when the rest is replaced. -/
theorem pieces_append_of_lt {text : List Char} {k : Nat} (hk : k < (pieces mode text).length)
    (w : List Char) :
    pieces mode (((pieces mode text).take k).flatten ++ w) =
      (pieces mode text).take k ++ pieces mode w := by
  induction k generalizing text with
  | zero =>
      rfl
  | succ k ih =>
      have hlater := pieces_flatten_tail mode text
      rcases hpieces : pieces mode text with _ | ⟨p, _ | ⟨q, later⟩⟩
      · rw [hpieces] at hk
        exact absurd hk (Nat.not_lt_zero _)
      · rw [hpieces] at hk
        exact absurd hk (Nat.not_lt.mpr (Nat.le_add_left 1 k))
      · rw [hpieces] at hk hlater
        rw [List.tail_cons] at hlater
        -- The first piece is cut off, and the others are the pieces of what is left.
        have hk' : k < (pieces mode (q :: later).flatten).length := by
          rw [hlater]
          exact Nat.lt_of_succ_lt_succ hk
        have hrest := ih hk'
        rw [hlater] at hrest
        rw [List.take_succ_cons, List.flatten_cons, List.append_assoc,
          pieces_append_of_cons hpieces, hrest]
        rfl

section

variable {u v : List Char} {k : Nat} (hv : v ≠ [])
variable (hlength : ((pieces mode (u ++ v)).take k).flatten.length = u.length)
include hlength

theorem flatten_take_eq : ((pieces mode (u ++ v)).take k).flatten = u := by
  have hsplit : ((pieces mode (u ++ v)).take k).flatten ++
      ((pieces mode (u ++ v)).drop k).flatten = u ++ v := by
    rw [← List.flatten_append, List.take_append_drop, flatten_pieces]
  exact (List.append_inj hsplit hlength).1

include hv

theorem lt_length_pieces : k < (pieces mode (u ++ v)).length := by
  apply Nat.lt_of_not_le
  intro hle
  have hall := flatten_take_eq hlength
  rw [List.take_of_length_le hle, flatten_pieces] at hall
  exact hv (List.append_right_eq_self.mp hall)

/-- What `k` requests took, they take from every text that begins with it. -/
theorem pieces_append_eq (w : List Char) :
    pieces mode (u ++ w) = (pieces mode (u ++ v)).take k ++ pieces mode w := by
  have happend := pieces_append_of_lt (lt_length_pieces hv hlength) w
  rwa [flatten_take_eq hlength] at happend

theorem length_take_pieces : ((pieces mode (u ++ v)).take k).length = k :=
  List.length_take_of_le (Nat.le_of_lt (lt_length_pieces hv hlength))

theorem received_append {j : Nat} (hj : j < k) (w : List Char) :
    received mode (u ++ w) j = received mode (u ++ v) j := by
  have hlt : j < ((pieces mode (u ++ v)).take k).length := by
    rwa [length_take_pieces hv hlength]
  rw [received, received, pieces_append_eq hv hlength w, List.getElem?_append_left hlt,
    List.getElem?_take_of_lt hj]

theorem after_append {input : Input} {w : List Char} (hrest : input.rest = u ++ w) :
    input.after mode k = { rest := w, consumed := input.consumed + u.length } := by
  have hk := length_take_pieces hv hlength
  rw [after, hrest, pieces_append_eq hv hlength w, List.drop_left' hk, List.take_left' hk,
    flatten_pieces, flatten_take_eq hlength]

end

end Input

/-!
## Requests of a run that ends
-/

section

variable {setup : Setup} {code : Tokens} {s : State}

theorem requests_le_add (m n : Nat) : requests setup code m s ≤ requests setup code (m + n) s := by
  induction n with
  | zero =>
      exact Nat.le_refl _
  | succ n ih =>
      rw [← Nat.add_assoc, requests_succ]
      exact Nat.le_trans ih (Nat.le_add_right _ _)

theorem requests_add_of_end {m : Nat} {e : Ending} (h : scanning setup code m s = some e)
    (n : Nat) : requests setup code (m + n) s = requests setup code m s := by
  induction n with
  | zero =>
      rfl
  | succ n ih =>
      have hend := scanning_add h n
      rw [scanning_eq_ending?] at hend
      rw [← Nat.add_assoc, requests_succ, ih]
      cases hresult : steps setup code (m + n) s with
      | running t =>
          rw [hresult] at hend
          cases hend
      | finished t =>
          rfl
      | faulted f t =>
          rfl

theorem requests_le_of_end {m : Nat} {e : Ending} (h : scanning setup code m s = some e)
    (n : Nat) : requests setup code n s ≤ requests setup code m s := by
  rw [← requests_add_of_end h n, Nat.add_comm m n]
  exact requests_le_add n m

end

/-!
## Runs
-/

namespace Interpreter

theorem forget_report_withInput (itp : Interpreter) (first : Log.Entry) (e : Ending)
    (known known' : JumpTable) (input : Input) :
    (itp.report first (e.withInput input) known').forget =
      { (itp.report first e known).forget with input := input } := rfl

/-- What a run leaves of its input does not influence it.  If a run on the text `u`
followed by something ends when exactly `u` is consumed, then on `u` followed by
anything else it passes through the same states, ends at the same moment, leaves that
other text and has the same report otherwise. -/
theorem run_ignores_unread (itp : Interpreter) (source u v v' : List Char)
    (input input' : Input) (fuel : Nat) (r : RunReport) (hrest : input.rest = u ++ v)
    (hrest' : input'.rest = u ++ v') (hv : v ≠ [])
    (hrun : itp.run fuel source input = .ok (some r))
    (hconsumed : r.input.consumed = input.consumed + u.length) :
    (forall n, itp.ReadsAlike itp source input input' n) ∧
      exists r', itp.run fuel source input' = .ok (some r') ∧
        r'.forget = { r.forget with
          input := { rest := v', consumed := input'.consumed + u.length } } := by
  rcases scanning_of_run hrun with ⟨setup, e, known, hsetup, hend, rfl⟩
  have hmode := Settings.mode_of_setup? hsetup
  have hinput := steps_input setup (itp.settings.tokens source) fuel (itp.start input)
  rw [steps_state_of_scanning hend] at hinput
  -- The pieces of all requests together are the text that was consumed.
  have hlength : ((Input.pieces setup.mode (u ++ v)).take
      (TapeMachine.requests setup (itp.settings.tokens source) fuel
        (itp.start input))).flatten.length = u.length := by
    have hcount : e.state.input.consumed = input.consumed + u.length := hconsumed
    rw [hinput, Input.after] at hcount
    rw [← hrest]
    exact Nat.add_left_cancel hcount
  have hreceived : forall n k,
      k < TapeMachine.requests setup (itp.settings.tokens source) n (itp.start input) ->
      Input.received setup.mode input'.rest k = Input.received setup.mode input.rest k := by
    intro n k hk
    rw [hrest, hrest']
    exact Input.received_append hv hlength (Nat.lt_of_lt_of_le hk (requests_le_of_end hend n)) v'
  constructor
  · intro n
    show itp.ReadsAlike
      (itp.withInputFlags itp.settings.realtimeInput itp.settings.binaryInput) source _ _ n
    apply readsAlike_of_received hsetup
    rw [hmode] at hreceived
    rw [requests_eq hsetup]
    exact hreceived n
  · have hsteps : steps setup (itp.settings.tokens source) fuel (itp.start input') =
        (steps setup (itp.settings.tokens source) fuel (itp.start input)).withInput
          (input'.after setup.mode
            (TapeMachine.requests setup (itp.settings.tokens source) fuel (itp.start input))) :=
      steps_reading (hreceived fuel)
    have hend' := congrArg Step.ending? hsteps
    rw [Step.ending?_withInput, ← scanning_eq_ending?, ← scanning_eq_ending?, hend,
      Input.after_append hv hlength hrest'] at hend'
    rcases run_of_scanning hsetup hend' with ⟨known', hrun'⟩
    exact ⟨_, hrun', forget_report_withInput itp _ e known known' _⟩

/-- A run reads a line and then leaves its tape to the right.  Where it left the
second line, nothing may stand instead. -/
theorem run_ignores_unread_line :
    let itp : Interpreter := { settings := { tapeSize := .int 1 }, tape := Tape.blank 0 }
    let source := [',', '.', '>', ',']
    exists r, itp.run 3 source (Input.ofString "ab\nc") = .ok (some r) ∧
      r.result = .error (.overflow 1) ∧ r.input.consumed = 3 ∧
      exists r', itp.run 3 source (Input.ofString "ab\n") = .ok (some r') ∧
        r'.forget = { r.forget with input := { rest := [], consumed := 3 } } := by
  intro itp source
  have hrun : exists r, itp.run 3 source (Input.ofString "ab\nc") = .ok (some r) ∧
      r.result = .error (.overflow 1) ∧ r.input.consumed = 3 := ⟨_, rfl, rfl, rfl⟩
  rcases hrun with ⟨r, hrun, hresult, hconsumed⟩
  rcases run_ignores_unread itp source ['a', 'b', '\n'] ['c'] [] (Input.ofString "ab\nc")
    (Input.ofString "ab\n") 3 r (by decide) (by decide) (by decide) hrun hconsumed with
    ⟨_, r', hrun', hforget⟩
  exact ⟨r, hrun, hresult, hconsumed, r', hrun', hforget⟩

end Interpreter

end TapeMachine
