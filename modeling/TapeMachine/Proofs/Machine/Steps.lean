import TapeMachine.Machine.Run

/-!
# The machine after a number of steps

A run is looked at through the result of its first `n` steps, which is either
the state that it has reached or the way it ended before.  Invariants are proved
for one step and then hold after every number of steps.
-/

namespace TapeMachine

namespace Step

def state : Step -> State
  | running s => s
  | finished s => s
  | faulted _ s => s

/-- How the run ended, if this step ends it. -/
def ending? : Step -> Option Ending
  | running _ => none
  | finished s => some ⟨s, none⟩
  | faulted f s => some ⟨s, some f⟩

/-- Goes on from a running machine; an ended one stays as it is. -/
def andThen (result : Step) (next : State -> Step) : Step :=
  match result with
  | running s => next s
  | finished s => finished s
  | faulted f s => faulted f s

theorem andThen_assoc (result : Step) (next last : State -> Step) :
    (result.andThen next).andThen last = result.andThen fun s => (next s).andThen last := by
  cases result <;> rfl

end Step

/-- The machine that scans at every jump, after `n` steps. -/
def steps (setup : Setup) (code : Tokens) : (n : Nat) -> State -> Step
  | 0, s => .running s
  | n + 1, s => (step setup code s).andThen (steps setup code n)

theorem steps_zero (setup : Setup) (code : Tokens) (s : State) :
    steps setup code 0 s = .running s := rfl

theorem steps_succ (setup : Setup) (code : Tokens) (n : Nat) (s : State) :
    steps setup code (n + 1) s = (step setup code s).andThen (steps setup code n) := rfl

theorem steps_add (setup : Setup) (code : Tokens) (m n : Nat) (s : State) :
    steps setup code (m + n) s = (steps setup code m s).andThen (steps setup code n) := by
  induction m generalizing s with
  | zero =>
      rw [Nat.zero_add]
      rfl
  | succ m ih =>
      have hsucc : m + 1 + n = (m + n) + 1 := by omega
      rw [hsucc, steps_succ, steps_succ, Step.andThen_assoc]
      congr 1
      funext t
      exact ih t

theorem steps_one (setup : Setup) (code : Tokens) (s : State) :
    steps setup code 1 s = step setup code s := by
  rw [steps_succ]
  cases step setup code s <;> rfl

theorem steps_succ_last (setup : Setup) (code : Tokens) (n : Nat) (s : State) :
    steps setup code (n + 1) s = (steps setup code n s).andThen (step setup code) := by
  have hone : steps setup code 1 = step setup code := by
    funext t
    exact steps_one setup code t
  rw [steps_add, hone]

theorem scanning_eq_ending? (setup : Setup) (code : Tokens) (n : Nat) (s : State) :
    scanning setup code n s = (steps setup code n s).ending? := by
  induction n generalizing s with
  | zero =>
      rfl
  | succ n ih =>
      rw [scanning, steps_succ]
      cases step setup code s with
      | running t =>
          exact ih t
      | finished t =>
          rfl
      | faulted f t =>
          rfl

theorem steps_of_scanning_fault {setup : Setup} {code : Tokens} {n : Nat} {s t : State} {f : Fault}
    (h : scanning setup code n s = some ⟨t, some f⟩) : steps setup code n s = .faulted f t := by
  rw [scanning_eq_ending?] at h
  cases hresult : steps setup code n s with
  | running t' =>
      rw [hresult] at h
      cases h
  | finished t' =>
      rw [hresult] at h
      cases h
  | faulted f' t' =>
      rw [hresult] at h
      cases h
      rfl

theorem steps_of_scanning_end {setup : Setup} {code : Tokens} {n : Nat} {s t : State}
    (h : scanning setup code n s = some ⟨t, none⟩) : steps setup code n s = .finished t := by
  rw [scanning_eq_ending?] at h
  cases hresult : steps setup code n s with
  | running t' =>
      rw [hresult] at h
      cases h
  | finished t' =>
      rw [hresult] at h
      cases h
      rfl
  | faulted f t' =>
      rw [hresult] at h
      cases h

theorem steps_state_of_scanning {setup : Setup} {code : Tokens} {n : Nat} {s : State} {e : Ending}
    (h : scanning setup code n s = some e) : (steps setup code n s).state = e.state := by
  rw [scanning_eq_ending?] at h
  cases hresult : steps setup code n s <;> rw [hresult] at h <;> cases h <;> rfl

/-- A run that ended within a bound ends the same way within a greater one. -/
theorem scanning_add {setup : Setup} {code : Tokens} {n : Nat} {s : State} {e : Ending}
    (h : scanning setup code n s = some e) (m : Nat) :
    scanning setup code (n + m) s = some e := by
  rw [scanning_eq_ending?] at h
  rw [scanning_eq_ending?, steps_add]
  cases hsteps : steps setup code n s with
  | running t =>
      rw [hsteps] at h
      cases h
  | finished t =>
      rw [hsteps] at h
      exact h
  | faulted f t =>
      rw [hsteps] at h
      exact h

theorem scanning_unique {setup : Setup} {code : Tokens} {m n : Nat} {s : State} {e e' : Ending}
    (h : scanning setup code m s = some e) (h' : scanning setup code n s = some e') :
    e = e' := by
  have hlonger := scanning_add h n
  have hlonger' := scanning_add h' m
  rw [Nat.add_comm n m, hlonger] at hlonger'
  exact Option.some.inj hlonger'

/-- A run that goes on from a later state ends as it does from there. -/
theorem scanning_of_steps {setup : Setup} {code : Tokens} {n : Nat} {s t : State}
    (h : steps setup code n s = .running t) (m : Nat) :
    scanning setup code (n + m) s = scanning setup code m t := by
  rw [scanning_eq_ending?, scanning_eq_ending?, steps_add, h]
  rfl

/-- A run that is at fault was going on until its last step. -/
theorem steps_before_fault {setup : Setup} {code : Tokens} {n : Nat} {s t : State} {f : Fault}
    (h : steps setup code n s = .faulted f t) :
    exists k s', steps setup code k s = .running s' ∧ step setup code s' = .faulted f t := by
  induction n generalizing s with
  | zero =>
      cases h
  | succ n ih =>
      rw [steps_succ] at h
      cases hresult : step setup code s with
      | running u =>
          rw [hresult] at h
          rcases ih h with ⟨k, s', hsteps, hlast⟩
          refine ⟨k + 1, s', ?_, hlast⟩
          rw [steps_succ, hresult]
          exact hsteps
      | finished u =>
          rw [hresult] at h
          cases h
      | faulted e u =>
          rw [hresult] at h
          cases h
          exact ⟨0, s, rfl, hresult⟩

/-- The fault of a run is the fault of its last step. -/
theorem step_of_steps_faulted {setup : Setup} {code : Tokens} {n : Nat} {s t : State} {f : Fault}
    (h : steps setup code n s = .faulted f t) :
    exists s', step setup code s' = .faulted f t := by
  rcases steps_before_fault h with ⟨k, s', _, hlast⟩
  exact ⟨s', hlast⟩

/-- A run that finished was going on until it found no further token. -/
theorem steps_before_end {setup : Setup} {code : Tokens} {n : Nat} {s t : State}
    (h : steps setup code n s = .finished t) :
    exists k s', steps setup code k s = .running s' ∧ step setup code s' = .finished t := by
  induction n generalizing s with
  | zero =>
      cases h
  | succ n ih =>
      rw [steps_succ] at h
      cases hresult : step setup code s with
      | running u =>
          rw [hresult] at h
          rcases ih h with ⟨k, s', hsteps, hlast⟩
          refine ⟨k + 1, s', ?_, hlast⟩
          rw [steps_succ, hresult]
          exact hsteps
      | finished u =>
          rw [hresult] at h
          cases h
          exact ⟨0, s, rfl, hresult⟩
      | faulted f u =>
          rw [hresult] at h
          cases h

/-- A run that goes on was going on at every earlier moment. -/
theorem steps_running_of_le {setup : Setup} {code : Tokens} {j k : Nat} {s t : State}
    (h : steps setup code k s = .running t) (hle : j ≤ k) :
    exists u, steps setup code j s = .running u := by
  rw [← Nat.add_sub_cancel' hle, steps_add] at h
  cases hresult : steps setup code j s with
  | running u =>
      exact ⟨u, rfl⟩
  | finished u =>
      rw [hresult] at h
      cases h
  | faulted f u =>
      rw [hresult] at h
      cases h

theorem steps_invariant {setup : Setup} {code : Tokens} (P : State -> Prop)
    (hstep : forall s, P s -> P (step setup code s).state)
    (n : Nat) {s : State} (hs : P s) : P (steps setup code n s).state := by
  induction n generalizing s with
  | zero =>
      exact hs
  | succ n ih =>
      have hnext := hstep s hs
      rw [steps_succ]
      cases hresult : step setup code s with
      | running t =>
          rw [hresult] at hnext
          exact ih hnext
      | finished t =>
          rw [hresult] at hnext
          exact hnext
      | faulted f t =>
          rw [hresult] at hnext
          exact hnext

end TapeMachine
