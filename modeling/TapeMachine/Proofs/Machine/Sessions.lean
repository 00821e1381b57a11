import TapeMachine.Proofs.Machine.Bounds

/-!
# Sessions

However a run ends, it leaves the interpreter cleared.  Apart from the pairs of
brackets that it still knows, which the next run does not ask, a used interpreter
is therefore like a new one with the same settings, and a session of several runs
on one interpreter gives the reports of runs on new interpreters.
-/

namespace TapeMachine

namespace Tape

theorem get_clear (t : Tape) (i : Fin t.clear.cells.size) : t.clear.get i = 0 := by
  exact Array.getElem_replicate i.isLt

theorem eq_blank_of_get {t : Tape} {n : Nat} (hsize : t.size = n + 1)
    (hget : forall i, t.get i = 0) : t = blank n := by
  have hcells : t.cells = Array.replicate (n + 1) 0 := by
    apply Array.ext
    · rw [Array.size_replicate]
      exact hsize
    · intro i hi _
      rw [Array.getElem_replicate]
      exact hget ⟨i, hi⟩
  cases t
  cases hcells
  rfl

end Tape

/-!
## What a run leaves
-/

namespace Interpreter

/-- What a run leaves of an interpreter. -/
structure Leaves (itp after : Interpreter) : Prop where
  cells : forall i, after.tape.get i = 0
  size : after.tape.size = itp.tape.size
  pointer : after.pointer = 0
  running : after.running = false
  settings : after.settings = itp.settings

theorem leaves_of_run {itp : Interpreter} {fuel : Nat} {source : List Char} {input : Input}
    {r : RunReport} (h : itp.run fuel source input = .ok (some r)) : itp.Leaves r.after := by
  rcases after_run h with ⟨hpointer, hsize⟩
  rcases run_eq_some_iff.mp h with ⟨setup, e, known, _, _, rfl⟩
  exact ⟨e.state.tape.get_clear, hsize, hpointer, rfl, rfl⟩

/-- Apart from the pairs of brackets that it knows, the interpreter is the one
that its settings make. -/
def AsNew (allocate : Allocator) (itp : Interpreter) : Prop :=
  make allocate itp.settings = .ok { itp with known := ∅ }

variable {allocate : Allocator}

theorem asNew_of_make {settings : Settings} {made : Interpreter}
    (h : make allocate settings = .ok made) : made.AsNew allocate := by
  have hmade := (make_eq_ok_iff.mp h).2
  unfold AsNew
  rw [settings_of_make h, h, hmade]

theorem AsNew.leaves {itp after : Interpreter} (h : itp.AsNew allocate)
    (hleaves : itp.Leaves after) : after.AsNew allocate := by
  rcases make_eq_ok_iff.mp h with ⟨htape, hmade⟩
  rcases blank_of_ofSetting htape with ⟨n, hblank⟩
  have hsize : after.tape.size = n + 1 := by
    rw [hleaves.size]
    exact (congrArg Tape.size hblank).trans (Tape.size_blank n)
  have hafter : after.tape = itp.tape :=
    (Tape.eq_blank_of_get hsize hleaves.cells).trans hblank.symm
  apply make_eq_ok_iff.mpr
  rw [hleaves.settings]
  constructor
  · rw [hafter]
    exact htape
  · rw [hleaves.pointer, hleaves.running]

/-- A run depends on the settings, the tape and the pointer only. -/
theorem AsNew.run_eq {itp made : Interpreter} (h : itp.AsNew allocate)
    (hmade : make allocate itp.settings = .ok made) (fuel : Nat) (source : List Char)
    (input : Input) : made.run fuel source input = itp.run fuel source input := by
  have hsame : made = { itp with known := ∅ } := by
    rw [AsNew, hmade] at h
    exact Except.ok.inj h
  rw [hsame]
  rfl

end Interpreter

/-!
## Turns
-/

/-- Flags that are turned around, and a program that is then run. -/
structure Turn where
  flags : List Flag
  source : List Char

def Settings.toggleAll (settings : Settings) (flags : List Flag) : Settings :=
  flags.foldl Settings.toggle settings

theorem Settings.tapeSize_toggleAll (settings : Settings) (flags : List Flag) :
    (settings.toggleAll flags).tapeSize = settings.tapeSize := by
  induction flags generalizing settings with
  | nil =>
      rfl
  | cons f flags ih =>
      exact (ih (settings.toggle f)).trans (settings.tapeSize_setFlag f _)

namespace Interpreter

def toggleAll (itp : Interpreter) (flags : List Flag) : Interpreter :=
  { itp with settings := itp.settings.toggleAll flags }

variable {allocate : Allocator}

theorem AsNew.toggleAll {itp : Interpreter} (h : itp.AsNew allocate) (flags : List Flag) :
    (itp.toggleAll flags).AsNew allocate := by
  rcases make_eq_ok_iff.mp h with ⟨htape, hmade⟩
  apply make_eq_ok_iff.mpr
  constructor
  · change Tape.ofSetting allocate (itp.settings.toggleAll flags).tapeSize = .ok itp.tape
    rw [Settings.tapeSize_toggleAll]
    exact htape
  · exact congrArg (fun i : Interpreter => i.toggleAll flags) hmade

/-!
## Sessions
-/

/-- The reports of a run and of the runs after it, if all of them end. -/
def followedBy (result : Except Error (Option RunReport))
    (rest : RunReport -> Except Error (Option (List RunReport))) :
    Except Error (Option (List RunReport)) :=
  match result with
  | .error e => .error e
  | .ok none => .ok none
  | .ok (some r) => (rest r).map (Option.map (r :: ·))

theorem followedBy_congr {result : Except Error (Option RunReport)}
    {rest rest' : RunReport -> Except Error (Option (List RunReport))}
    (h : forall r, result = .ok (some r) -> rest r = rest' r) :
    followedBy result rest = followedBy result rest' := by
  cases result with
  | error e =>
      rfl
  | ok ended =>
      cases ended with
      | none =>
          rfl
      | some r =>
          exact congrArg (Except.map (Option.map (r :: ·))) (h r rfl)

/-- Takes turns on one interpreter.  Each run takes the input that the runs before
it left, and at most `fuel` steps. -/
def session (fuel : Nat) : List Turn -> Interpreter -> Input ->
    Except Error (Option (List RunReport))
  | [], _, _ => .ok (some [])
  | turn :: turns, itp, input =>
      followedBy ((itp.toggleAll turn.flags).run fuel turn.source input) fun r =>
        session fuel turns r.after r.input

/-- Takes turns with the same settings, but makes a new interpreter for each. -/
def sessionAfresh (allocate : Allocator) (fuel : Nat) : List Turn -> Settings -> Input ->
    Except Error (Option (List RunReport))
  | [], _, _ => .ok (some [])
  | turn :: turns, settings, input =>
      match make allocate (settings.toggleAll turn.flags) with
      | .error e => .error e
      | .ok made =>
          followedBy (made.run fuel turn.source input) fun r =>
            sessionAfresh allocate fuel turns (settings.toggleAll turn.flags) r.input

theorem AsNew.session_eq {itp : Interpreter} (h : itp.AsNew allocate) (fuel : Nat)
    (turns : List Turn) (input : Input) :
    session fuel turns itp input = sessionAfresh allocate fuel turns itp.settings input := by
  induction turns generalizing itp input with
  | nil =>
      rfl
  | cons turn turns ih =>
      have hturned := h.toggleAll turn.flags
      have hmade : make allocate (itp.settings.toggleAll turn.flags) =
        .ok { itp.toggleAll turn.flags with known := ∅ } := hturned
      rw [session, sessionAfresh, hmade]
      change _ = followedBy _ _
      rw [hturned.run_eq hmade]
      apply followedBy_congr
      intro r hrun
      -- The settings would make again what the run leaves, so the rest of the
      -- session starts as this one did.
      have hleaves := leaves_of_run hrun
      rw [ih (hturned.leaves hleaves), hleaves.settings]
      rfl

/-- A session on an interpreter like a new one is never refused. -/
theorem AsNew.session_eq_ok {itp : Interpreter} (h : itp.AsNew allocate) (fuel : Nat)
    (turns : List Turn) (input : Input) :
    exists reports, session fuel turns itp input = .ok reports := by
  induction turns generalizing itp input with
  | nil =>
      exact ⟨_, rfl⟩
  | cons turn turns ih =>
      have hturned := h.toggleAll turn.flags
      rcases setup?_of_make hturned with ⟨setup, hsetup, _, _⟩
      have hstarts : exists ended,
          (itp.toggleAll turn.flags).run fuel turn.source input = .ok ended := by
        unfold run
        rw [hsetup]
        exact ⟨_, rfl⟩
      rcases hstarts with ⟨ended, hrun⟩
      rw [session, hrun]
      cases ended with
      | none =>
          exact ⟨none, rfl⟩
      | some r =>
          rcases ih (hturned.leaves (leaves_of_run hrun)) r.input with ⟨reports, hrest⟩
          exact ⟨reports.map (r :: ·), congrArg (Except.map (Option.map (r :: ·))) hrest⟩

/-- Runs leave no trace.  However a run ends, the tape is afterwards cleared and
of its old size, the pointer is at zero, and the settings are as they were.  So
a session on a new interpreter, in which flags are turned around between the runs
and runs may end in faults, gives the reports that new interpreters give: the same
results, outputs, inputs left over and logs. -/
theorem run_leaves_no_trace :
    (forall (itp : Interpreter) fuel source input r,
      itp.run fuel source input = .ok (some r) -> itp.Leaves r.after) ∧
    forall allocate settings made, make allocate settings = .ok made -> forall fuel turns input,
      session fuel turns made input = sessionAfresh allocate fuel turns settings input ∧
        exists reports, session fuel turns made input = .ok reports := by
  constructor
  · intro itp fuel source input r hrun
    exact leaves_of_run hrun
  · intro allocate settings made hmade fuel turns input
    have hnew := asNew_of_make hmade
    constructor
    · rw [hnew.session_eq, settings_of_make hmade]
    · exact hnew.session_eq_ok fuel turns input

/-- A session of three turns on one cell: the first run is at fault with the cell
at one, the second writes the cell, and the third, in which the pointer goes
round, ends. -/
theorem run_leaves_no_trace_cell :
    let settings : Settings := { tapeSize := .int 1 }
    let made : Interpreter := { settings := settings, tape := Tape.blank 0 }
    let turns : List Turn :=
      [⟨[], ['+', '<']⟩, ⟨[], ['.']⟩, ⟨[.wrapBuffer, .rawInput], ['+', '<', 'x', '.']⟩]
    make (fun _ => none) settings = .ok made ∧
      (exists r₁ r₂ r₃, session 5 turns made default = .ok (some [r₁, r₂, r₃]) ∧
        r₁.result = .error (.underflow 0) ∧ r₂.output = "\x00" ∧ r₃.result = .ok 4) ∧
      session 5 turns made default = sessionAfresh (fun _ => none) 5 turns settings default := by
  intro settings made turns
  have hmade : make (fun _ => none) settings = .ok made := rfl
  refine ⟨hmade, ⟨_, _, _, rfl, rfl, rfl, rfl⟩, ?_⟩
  exact (run_leaves_no_trace.2 _ settings made hmade 5 turns default).1

end Interpreter

end TapeMachine
