import TapeMachine.Proofs.Machine.Header

/-!
# Named options

The words of a header are applied one after another, each turning a flag around or
setting the size.  Taken together they have a closed form: a flag counts how often
it is named, under all its spellings, and only the parity matters; of several sizes
the last one stays.
-/

namespace TapeMachine

/-!
## Turning a flag around
-/

namespace Value

/-- The value of a flag that is named `n` times: as it was given if it is not named,
and otherwise a truth value that the parity decides. -/
def turned (v : Value) (n : Nat) : Value :=
  if n = 0 then v else .bool (v.truthy ^^ decide (n % 2 = 1))

theorem truthy_turned (v : Value) (n : Nat) :
    (v.turned n).truthy = (v.truthy ^^ decide (n % 2 = 1)) := by
  cases n with
  | zero =>
      simp [turned]
  | succ n =>
      rfl

theorem turned_turned (v : Value) (m n : Nat) : (v.turned m).turned n = v.turned (m + n) := by
  cases n with
  | zero =>
      rfl
  | succ n =>
      have hparity : (decide (m % 2 = 1) ^^ decide ((n + 1) % 2 = 1)) =
          decide ((m + (n + 1)) % 2 = 1) := by
        rcases Nat.mod_two_eq_zero_or_one m with hm | hm <;>
          rcases Nat.mod_two_eq_zero_or_one (n + 1) with hn | hn <;>
          simp [hm, hn, Nat.add_mod]
      change Value.bool ((v.turned m).truthy ^^ _) = Value.bool (v.truthy ^^ _)
      rw [truthy_turned, Bool.xor_assoc, hparity]

theorem turned_one (v : Value) : v.turned 1 = .bool (!v.truthy) := by
  change Value.bool (v.truthy ^^ true) = _
  rw [Bool.xor_true]

end Value

namespace Settings

/-- Settings are the same when the size and all flags are. -/
theorem eq_of_flag {s t : Settings} (hsize : s.tapeSize = t.tapeSize)
    (hflag : forall f, s.flag f = t.flag f) : s = t := by
  cases s
  cases t
  have hwrap := hflag .wrapBuffer
  have hbinary := hflag .binaryInput
  have hraw := hflag .rawInput
  have hrealtime := hflag .realtimeInput
  simp only [flag] at hsize hwrap hbinary hraw hrealtime
  rw [hsize, hwrap, hbinary, hraw, hrealtime]

theorem flag_toggle (s : Settings) (f g : Flag) :
    (s.toggle f).flag g = (s.flag g).turned (if f = g then 1 else 0) := by
  by_cases h : f = g
  · subst h
    rw [if_pos rfl, Value.turned_one]
    exact s.flag_setFlag f _
  · rw [if_neg h]
    exact s.flag_setFlag_of_ne h _

end Settings

/-!
## Spellings
-/

namespace OptionName

theorem ofString?_of_mem (option : OptionName) :
    forall name, name ∈ option.spellings -> ofString? name = some option := by
  cases option with
  | flag f =>
      cases f <;> decide
  | size =>
      decide

theorem mem_of_ofString? {option : OptionName} {name : String}
    (h : ofString? name = some option) : name ∈ option.spellings := by
  have hnamed := List.find?_some h
  exact List.contains_iff_mem.mp hnamed

theorem ofString?_eq_some_iff {option : OptionName} {name : String} :
    ofString? name = some option <-> name ∈ option.spellings :=
  ⟨mem_of_ofString?, ofString?_of_mem option name⟩

end OptionName

/-!
## Pieces of a header
-/

/-- The number of pieces that name a flag. -/
def timesNamed (f : Flag) (pieces : List (List Char)) : Nat :=
  pieces.countP fun piece => f.spellings.contains (pieceName piece)

/-- Whether a piece names the size. -/
def namesSize (piece : List Char) : Bool :=
  sizeSpellings.contains (pieceName piece)

/-- The integer that the value of a piece spells, if there is a value and it spells
one. -/
def pieceSize? (piece : List Char) : Option Int :=
  match pieceValue piece with
  | .text s => Number.readInt? s.toList
  | _ => none

/-- The sizes that pieces name, in their order. -/
def namedSizes (pieces : List (List Char)) : List Int :=
  (pieces.filter namesSize).filterMap pieceSize?

/-- Every piece that names the size has an integer as its value. -/
def SizesSpelled (pieces : List (List Char)) : Prop :=
  forall piece, piece ∈ pieces -> namesSize piece = true -> (pieceSize? piece).isSome = true

/-- Whether a piece names neither a flag nor the size. -/
def namesNothing (piece : List Char) : Bool :=
  !(namesSize piece) && [Flag.wrapBuffer, .binaryInput, .rawInput, .realtimeInput].all fun f =>
    !(f.spellings.contains (pieceName piece))

/-- The warnings about pieces that name nothing. -/
def warnings (pieces : List (List Char)) : List Log.Entry :=
  (pieces.filter namesNothing).map fun piece => .unknownOption (String.ofList piece)

/-- The settings after all options that pieces name. -/
def Settings.named (s : Settings) (pieces : List (List Char)) : Settings where
  tapeSize := ((namedSizes pieces).getLast?.map Value.int).getD s.tapeSize
  wrapBuffer := s.wrapBuffer.turned (timesNamed .wrapBuffer pieces)
  binaryInput := s.binaryInput.turned (timesNamed .binaryInput pieces)
  rawInput := s.rawInput.turned (timesNamed .rawInput pieces)
  realtimeInput := s.realtimeInput.turned (timesNamed .realtimeInput pieces)

theorem Settings.flag_named (s : Settings) (pieces : List (List Char)) (f : Flag) :
    (s.named pieces).flag f = (s.flag f).turned (timesNamed f pieces) := by
  cases f <;> rfl

/-!
## One piece

What a piece counts for is decided by the option that its name spells.
-/

theorem OptionName.contains_spellings (option : OptionName) (name : String) :
    option.spellings.contains name = decide (ofString? name = some option) := by
  rw [Bool.eq_iff_iff, List.contains_iff_mem, decide_eq_true_iff, ofString?_eq_some_iff]

section

variable {piece : List Char} (pieces : List (List Char))

theorem namesSize_eq (piece : List Char) :
    namesSize piece = decide (OptionName.ofString? (pieceName piece) = some .size) :=
  OptionName.size.contains_spellings (pieceName piece)

theorem namesNothing_eq (piece : List Char) :
    namesNothing piece = decide (OptionName.ofString? (pieceName piece) = none) := by
  have hflag : forall f : Flag, f.spellings.contains (pieceName piece) =
      decide (OptionName.ofString? (pieceName piece) = some (.flag f)) := by
    intro f
    exact (OptionName.flag f).contains_spellings (pieceName piece)
  simp only [namesNothing, namesSize_eq, hflag]
  cases OptionName.ofString? (pieceName piece) with
  | none =>
      rfl
  | some option =>
      cases option with
      | flag f =>
          cases f <;> rfl
      | size =>
          rfl

theorem timesNamed_cons (f : Flag) :
    timesNamed f (piece :: pieces) =
      (if OptionName.ofString? (pieceName piece) = some (.flag f) then 1 else 0) +
        timesNamed f pieces := by
  have hflag := (OptionName.flag f).contains_spellings (pieceName piece)
  change f.spellings.contains (pieceName piece) = _ at hflag
  rw [timesNamed, List.countP_cons, hflag, Nat.add_comm]
  simp only [decide_eq_true_iff]
  rfl

theorem namedSizes_cons_of_ne (h : OptionName.ofString? (pieceName piece) ≠ some .size) :
    namedSizes (piece :: pieces) = namedSizes pieces := by
  simp [namedSizes, namesSize_eq, h]

theorem namedSizes_cons_of_size {n : Int}
    (h : OptionName.ofString? (pieceName piece) = some .size) (hn : pieceSize? piece = some n) :
    namedSizes (piece :: pieces) = n :: namedSizes pieces := by
  simp [namedSizes, namesSize_eq, h, hn]

theorem warnings_cons_of_nothing (h : OptionName.ofString? (pieceName piece) = none) :
    warnings (piece :: pieces) = .unknownOption (String.ofList piece) :: warnings pieces := by
  simp [warnings, namesNothing_eq, h]

theorem warnings_cons_of_some {option : OptionName}
    (h : OptionName.ofString? (pieceName piece) = some option) :
    warnings (piece :: pieces) = warnings pieces := by
  simp [warnings, namesNothing_eq, h]

end

theorem pieceValue_cases (piece : List Char) :
    pieceValue piece = .null ∨ exists s, pieceValue piece = .text s := by
  simp only [pieceValue]
  split
  · exact Or.inl rfl
  · exact Or.inr ⟨_, rfl⟩

theorem toInt_pieceValue (piece : List Char) :
    (pieceValue piece).toInt =
      match pieceSize? piece with
      | some n => .ok n
      | none => .error .unreadable := by
  unfold pieceSize?
  rcases pieceValue_cases piece with hnull | ⟨s, htext⟩
  · rw [hnull]
    rfl
  · cases hread : Number.readInt? s.toList <;> simp only [htext, Value.toInt, hread]

theorem isWritable_pieceValue (piece : List Char) : (pieceValue piece).isWritable = true := by
  rcases pieceValue_cases piece with hnull | ⟨s, htext⟩
  · rw [hnull]
    rfl
  · rw [htext]
    rfl

namespace Settings

section

variable (s : Settings) {piece : List Char} (pieces : List (List Char))

theorem applyNamed_of_flag {f : Flag}
    (h : OptionName.ofString? (pieceName piece) = some (.flag f)) :
    s.applyNamed (pieceName piece) (pieceValue piece) = .ok (some (s.toggle f)) := by
  rw [applyNamed, h]
  rfl

theorem applyNamed_of_size (h : OptionName.ofString? (pieceName piece) = some .size) :
    s.applyNamed (pieceName piece) (pieceValue piece) =
      match pieceSize? piece with
      | some n => .ok (some (s.setTapeSize (.int n)))
      | none => .error (.configuration (.bufferSize (pieceValue piece))) := by
  rw [applyNamed, h]
  simp only [applyOption, toInt_pieceValue]
  cases pieceSize? piece with
  | some n =>
      rfl
  | none =>
      change Except.error (Error.ofMisconfiguration (.bufferSize (pieceValue piece))) = _
      rw [Error.ofMisconfiguration, Misconfiguration.isWritable, isWritable_pieceValue,
        if_pos rfl]

theorem applyNamed_of_nothing (h : OptionName.ofString? (pieceName piece) = none) :
    s.applyNamed (pieceName piece) (pieceValue piece) = .ok none := by
  rw [applyNamed, h]

theorem named_cons_of_flag {f : Flag}
    (h : OptionName.ofString? (pieceName piece) = some (.flag f)) :
    (s.toggle f).named pieces = s.named (piece :: pieces) := by
  have hne : OptionName.ofString? (pieceName piece) ≠ some .size := by
    rw [h]
    simp
  apply eq_of_flag
  · simp only [named, namedSizes_cons_of_ne pieces hne]
    rw [toggle, tapeSize_setFlag]
  · intro g
    rw [flag_named, flag_named, flag_toggle, Value.turned_turned, timesNamed_cons, h]
    simp only [Option.some.injEq, OptionName.flag.injEq]

theorem named_cons_of_size {n : Int} (h : OptionName.ofString? (pieceName piece) = some .size)
    (hn : pieceSize? piece = some n) :
    (s.setTapeSize (.int n)).named pieces = s.named (piece :: pieces) := by
  apply eq_of_flag
  · simp only [named, namedSizes_cons_of_size pieces h hn, setTapeSize]
    rw [List.getLast?_cons]
    cases (namedSizes pieces).getLast? <;> rfl
  · intro g
    have hzero : timesNamed g (piece :: pieces) = timesNamed g pieces := by
      simp [timesNamed_cons, h]
    rw [flag_named, flag_named, hzero]
    cases g <;> rfl

theorem named_cons_of_nothing (h : OptionName.ofString? (pieceName piece) = none) :
    s.named pieces = s.named (piece :: pieces) := by
  have hne : OptionName.ofString? (pieceName piece) ≠ some .size := by
    rw [h]
    simp
  apply eq_of_flag
  · simp only [named, namedSizes_cons_of_ne pieces hne]
  · intro g
    have hzero : timesNamed g (piece :: pieces) = timesNamed g pieces := by
      simp [timesNamed_cons, h]
    rw [flag_named, flag_named, hzero]

end

/-!
## All pieces
-/

/-- Pieces with spelled sizes are applied in full, whatever follows them. -/
theorem applyPieces_append (s : Settings) {pieces : List (List Char)}
    (hsizes : SizesSpelled pieces) (rest : List (List Char)) :
    s.applyPieces (pieces ++ rest) =
      { (s.named pieces).applyPieces rest with
        log := warnings pieces ++ ((s.named pieces).applyPieces rest).log } := by
  induction pieces generalizing s with
  | nil =>
      rfl
  | cons piece pieces ih =>
      have hrest : SizesSpelled pieces := by
        intro other hother
        exact hsizes other (List.mem_cons_of_mem piece hother)
      rw [List.cons_append, applyPieces]
      cases hname : OptionName.ofString? (pieceName piece) with
      | none =>
          rw [applyNamed_of_nothing s hname, warnings_cons_of_nothing pieces hname,
            ← named_cons_of_nothing s pieces hname]
          simp only [ih s hrest]
          rfl
      | some option =>
          rw [warnings_cons_of_some pieces hname]
          cases option with
          | flag f =>
              rw [applyNamed_of_flag s hname, ← named_cons_of_flag s pieces hname]
              exact ih (s.toggle f) hrest
          | size =>
              have hspelled := hsizes piece List.mem_cons_self (by rw [namesSize_eq, hname]; rfl)
              rcases Option.isSome_iff_exists.mp hspelled with ⟨n, hn⟩
              rw [applyNamed_of_size s hname, hn, ← named_cons_of_size s pieces hname hn]
              exact ih (s.setTapeSize (.int n)) hrest

theorem applyPieces_of_spelled (s : Settings) {pieces : List (List Char)}
    (hsizes : SizesSpelled pieces) :
    s.applyPieces pieces = ⟨s.named pieces, warnings pieces, none⟩ := by
  have happend := s.applyPieces_append hsizes []
  rw [List.append_nil] at happend
  rw [happend, applyPieces, List.append_nil]

/-- A size that is not spelled stops the rest. -/
theorem applyPieces_of_unspelled (s : Settings) {pieces : List (List Char)}
    (hsizes : SizesSpelled pieces) {piece : List Char} (hsize : namesSize piece = true)
    (hnone : pieceSize? piece = none) (rest : List (List Char)) :
    s.applyPieces (pieces ++ piece :: rest) =
      ⟨s.named pieces, warnings pieces,
        some (.configuration (.bufferSize (pieceValue piece)))⟩ := by
  rw [namesSize_eq, decide_eq_true_iff] at hsize
  have hlast : (s.named pieces).applyPieces (piece :: rest) =
      ⟨s.named pieces, [], some (.configuration (.bufferSize (pieceValue piece)))⟩ := by
    rw [applyPieces, applyNamed_of_size _ hsize, hnone]
  rw [applyPieces_append s hsizes, hlast, List.append_nil]

end Settings

/-- Among pieces whose sizes are not all spelled there is a first such size. -/
theorem exists_unspelled {pieces : List (List Char)} (h : ¬ SizesSpelled pieces) :
    exists good piece rest, pieces = good ++ piece :: rest ∧ SizesSpelled good ∧
      namesSize piece = true ∧ pieceSize? piece = none := by
  induction pieces with
  | nil =>
      refine absurd ?_ h
      intro piece hpiece
      cases hpiece
  | cons first pieces ih =>
      by_cases hfirst : namesSize first = true -> (pieceSize? first).isSome = true
      · have hrest : ¬ SizesSpelled pieces := by
          intro hall
          apply h
          intro piece hpiece
          rcases List.mem_cons.mp hpiece with rfl | hpiece
          · exact hfirst
          · exact hall piece hpiece
        rcases ih hrest with ⟨good, piece, rest, rfl, hgood, hsize, hnone⟩
        refine ⟨first :: good, piece, rest, rfl, ?_, hsize, hnone⟩
        intro other hother
        rcases List.mem_cons.mp hother with rfl | hother
        · exact hfirst
        · exact hgood other hother
      · rcases Classical.not_imp.mp hfirst with ⟨hsize, hnone⟩
        refine ⟨[], first, pieces, rfl, ?_, hsize, Option.not_isSome_iff_eq_none.mp hnone⟩
        intro piece hpiece
        cases hpiece

namespace Settings

end Settings

end TapeMachine
