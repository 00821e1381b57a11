import TapeMachine.Options.Header
import TapeMachine.Proofs.Machine.Sequence
import TapeMachine.Proofs.Program.Exchange

/-!
# The header as a skipped loop

The header of a program is delimited twice: its options are read up to the first
closing bracket of the text, and a run jumps from its opening bracket to the
partner of that bracket among the tokens.  The two agree exactly if no bracket
opens within the header.  Then the run goes on behind the header as the rest of
the program runs alone, whatever the rest is.
-/

namespace TapeMachine

/-- The header with a text. -/
def header (text : List Char) : List Char :=
  headerStart.toList ++ (text ++ [']'])

/-!
## The text of a header
-/

/-- A program with a header comes apart behind the first closing bracket. -/
theorem header_split {source : List Char} {e : Nat} (hstart : headerStart.toList <+: source)
    (hfirst : source.findIdx? (· == ']') = some e) :
    exists text, ']' ∉ text ∧ source.take (e + 1) = header text ∧
      source = header text ++ source.drop (e + 1) := by
  rcases hstart with ⟨tail, rfl⟩
  have hnone : headerStart.toList.findIdx? (· == ']') = none := by decide
  rw [List.findIdx?_append, hnone, Option.none_or] at hfirst
  rcases Option.map_eq_some_iff.mp hfirst with ⟨i, hi, rfl⟩
  rcases List.findIdx?_eq_some_iff_getElem.mp hi with ⟨hlt, hclosing, hbefore⟩
  have htake : (headerStart.toList ++ tail).take (i + headerStart.toList.length + 1) =
      header (tail.take i) := by
    rw [header, ← beq_iff_eq.mp hclosing, ← List.take_succ_eq_append_getElem hlt,
      Nat.add_right_comm, Nat.add_comm, List.take_length_add_append]
  refine ⟨tail.take i, ?_, htake, ?_⟩
  · intro hmem
    rcases List.mem_take_iff_getElem.mp hmem with ⟨j, hj, hget⟩
    apply hbefore j (by omega)
    rw [hget]
    rfl
  · rw [← htake, List.take_append_drop]

theorem headerText?_header {text : List Char} (hclosing : ']' ∉ text) (rest : List Char) :
    headerText? (header text ++ rest) = some text := by
  have hsource : header text ++ rest = (headerStart.toList ++ text) ++ ']' :: rest := by
    simp [header]
  have hstart : headerStart.toList.isPrefixOf (header text ++ rest) = true := by
    rw [List.isPrefixOf_iff_prefix, hsource, List.append_assoc]
    exact List.prefix_append _ _
  have hcontains : (header text ++ rest).contains ']' = true := by
    simp [header]
  have hopen : forall c, c ∈ headerStart.toList ++ text -> (c != ']') = true := by
    intro c hc
    rw [bne_iff_ne]
    rintro rfl
    rcases List.mem_append.mp hc with hc | hc
    · exact absurd hc (by decide)
    · exact hclosing hc
  have htake : (header text ++ rest).takeWhile (· != ']') = headerStart.toList ++ text := by
    rw [hsource, List.takeWhile_append_of_pos hopen]
    simp
  rw [headerText?, hstart, hcontains, htake]
  exact congrArg some (List.drop_left' rfl)

/-!
## The tokens of a header
-/

section

variable (settings : Settings)

theorem bracket_mem_tokens (b : Bracket) (w : List Char) :
    b.toChar ∈ (settings.tokens w).toList <-> b.toChar ∈ w := by
  unfold Settings.tokens stripComments
  split
  · simp [b.isInstruction_toChar]
  · rfl

/-- The tokens between the brackets of a header have the brackets of its text. -/
theorem tokens_header (text : List Char) :
    exists u, (forall b : Bracket, b.toChar ∈ u <-> b.toChar ∈ text) ∧
      settings.tokens (header text) = ('[' :: (u ++ [']'])).toArray ∧
      forall rest, settings.tokens (header text ++ rest) =
        ('[' :: (u ++ ']' :: (settings.tokens rest).toList)).toArray := by
  have hbracket : forall b : Bracket, settings.tokens [b.toChar] = #[b.toChar] := by
    intro b
    apply Interpreter.tokens_of_instructions
    intro c hc
    rw [List.mem_singleton.mp hc]
    exact b.isInstruction_toChar
  have hsplit : header text = [Bracket.opening.toChar] ++
      (("options:".toList ++ text) ++ [Bracket.closing.toChar]) := by
    rw [List.append_assoc]
    rfl
  have hheader : settings.tokens (header text) =
      ('[' :: ((settings.tokens ("options:".toList ++ text)).toList ++ [']'])).toArray := by
    rw [hsplit, Interpreter.tokens_append, Interpreter.tokens_append, hbracket, hbracket]
    rfl
  refine ⟨(settings.tokens ("options:".toList ++ text)).toList, ?_, hheader, ?_⟩
  · intro b
    have hplain : b.toChar ∉ "options:".toList := by
      cases b <;> decide
    rw [bracket_mem_tokens, List.mem_append]
    simp only [hplain, false_or]
  · intro rest
    rw [Interpreter.tokens_append, hheader, List.cons_append, List.append_assoc]
    rfl

end

/-!
## The first step

The tape of a new interpreter has only zeros, so a bracket that opens the program
jumps.
-/

theorem step_of_zero (setup : Setup) {m : Memory} (hzero : m.cell? = some 0) (w : List Char)
    (n : Nat) :
    step setup ('[' :: w).toArray (m.stateAt 0 n) =
      match scan? .opening w 0 with
      | some k => .running (m.stateAt (k + 2) (n + 1))
      | none => .faulted (.unmatched .opening 0) (m.stateAt 0 n) := by
  have htoken : ('[' :: w).toArray[0]? = some Bracket.opening.toChar := rfl
  have heffect : effect setup Bracket.opening.toChar m = .jump .opening := by
    rw [effect_bracket, hzero]
    rfl
  have hinside : 0 < ('[' :: w).toArray.size := Nat.succ_pos _
  rw [step_of_jump htoken heffect, Tokens.partner?_eq_scan? _ .opening hinside]
  change (match (scan? .opening w 0).map (Tokens.placeAway .opening 0) with
    | some j => _
    | none => _) = _
  cases scan? .opening w 0 <;> rfl

namespace Interpreter

variable {allocate : Allocator}

theorem cell?_of_make {settings : Settings} {made : Interpreter}
    (h : make allocate settings = .ok made) (input : Input) : (made.start input).memory.cell? = some 0 := by
  rcases blank_of_ofSetting (make_eq_ok_iff.mp h).1 with ⟨n, hblank⟩
  change made.tape.read? made.pointer = some 0
  rw [(of_make h).1, hblank]
  simp [Tape.read?, Tape.locate?, Tape.blank, Tape.get]

theorem moment?_one {settings : Settings} {made : Interpreter} {source w : List Char}
    (hmade : make allocate settings = .ok made)
    (htokens : made.settings.tokens source = ('[' :: w).toArray) (input : Input) :
    made.moment? source input 1 = some (
      match scan? .opening w 0 with
      | some k => .running ((made.start input).goTo (k + 2))
      | none => .faulted (.unmatched .opening 0) (made.start input)) := by
  rcases setup?_of_make hmade with ⟨setup, hsetup, _⟩
  rw [moment?_eq_steps hsetup, htokens, steps_one]
  exact congrArg some (step_of_zero setup (cell?_of_make hmade input) w 0)

end Interpreter

/-!
## Runs of a program with a header
-/

/-- What lies behind a machine that has skipped some tokens in one step. -/
def Lead.skipping (code : Tokens) : Lead where
  tokens := code.size
  steps := 1
  output := ""

namespace Interpreter

/-- The first step of a run goes behind the tokens of a text with which the program
begins. -/
def Skips (itp : Interpreter) (source : List Char) (input : Input) (part : List Char) : Prop :=
  exists s, itp.moment? source input 1 = some (.running s) ∧
    (itp.settings.tokens source).toList.take s.index = (itp.settings.tokens part).toList

section

variable {allocate : Allocator} {settings : Settings} {made : Interpreter} {text : List Char}
variable (hmade : make allocate settings = .ok made) (rest : List Char) (input : Input)
variable (hclosing : ']' ∉ text)
include hmade hclosing

theorem moment?_header (hopening : '[' ∉ text) :
    Balanced .opening (made.settings.tokens (header text)).toList ∧
      made.moment? (header text ++ rest) input 1 = some (.running
        ((made.start input).behind (.skipping (made.settings.tokens (header text))))) := by
  rcases tokens_header made.settings text with ⟨u, hbrackets, hheader, htokens⟩
  have hplain : Plain u := by
    intro b hb
    cases b with
    | opening =>
        exact hopening ((hbrackets .opening).mp hb)
    | closing =>
        exact hclosing ((hbrackets .closing).mp hb)
  constructor
  · rw [hheader]
    exact Balanced.nest (hplain.balanced .opening) Balanced.nil
  · have hscan : scan? .opening (u ++ ']' :: (made.settings.tokens rest).toList) 0 =
        some u.length :=
      scan?_eq_some_iff.mpr ⟨u, _, hplain.balanced .opening, rfl, rfl⟩
    rw [moment?_one hmade (htokens rest), hscan, start_behind, hheader]
    simp [Lead.skipping, State.goTo, start]

theorem moment?_header_of_inner (hopening : '[' ∈ text) :
    made.moment? (header text ++ rest) input 1 =
        some (.faulted (.unmatched .opening 0) (made.start input)) ∨
      exists j, (made.settings.tokens (header text)).size ≤ j ∧
        (made.settings.tokens (header text ++ rest))[j]? = some ']' ∧
        made.moment? (header text ++ rest) input 1 =
          some (.running ((made.start input).goTo (j + 1))) := by
  rcases tokens_header made.settings text with ⟨u, hbrackets, hheader, htokens⟩
  rw [moment?_one hmade (htokens rest)]
  cases hscan : scan? .opening (u ++ ']' :: (made.settings.tokens rest).toList) 0 with
  | none =>
      exact Or.inl rfl
  | some k =>
      have hlater : u.length < k := by
        apply length_lt_of_scan? _ _ hscan
        · exact (hbrackets .opening).mpr hopening
        · intro hmem
          exact hclosing ((hbrackets .closing).mp hmem)
      refine Or.inr ⟨k + 1, ?_, ?_, rfl⟩
      · rw [hheader, List.size_toArray, List.length_cons, List.length_append]
        exact Nat.succ_le_succ hlater
      · rcases balanced_of_scan? hscan with ⟨u', v', _, hsplit, rfl⟩
        rw [htokens, hsplit, List.getElem?_toArray, List.getElem?_cons_succ,
          List.getElem?_append_right (Nat.le_refl _), Nat.sub_self]
        rfl

theorem skips_header_iff :
    made.Skips (header text ++ rest) input (header text) <-> '[' ∉ text := by
  have htokens := tokens_append made.settings (header text) rest
  constructor
  · intro hskips hopening
    rcases hskips with ⟨s, hfirst, htake⟩
    rcases moment?_header_of_inner hmade rest input hclosing hopening with
      hfault | ⟨j, hlater, hplace, hjump⟩
    · rw [hfault] at hfirst
      cases hfirst
    · -- The jump passes more tokens than the header has.
      rw [hjump] at hfirst
      cases hfirst
      have hlength := congrArg List.length htake
      have hinside := (Array.getElem?_eq_some_iff.mp hplace).choose
      rw [List.length_take, Array.length_toList, Array.length_toList] at hlength
      change min (j + 1) _ = _ at hlength
      omega
  · intro hopening
    refine ⟨_, (moment?_header hmade rest input hclosing hopening).2, ?_⟩
    have hindex : ((made.start input).behind
        (.skipping (made.settings.tokens (header text)))).index =
          (made.settings.tokens (header text)).toList.length := by
      rw [start_behind]
      rfl
    rw [hindex, htokens, List.take_left]

end

/-- A header is skipped as a loop.  Its options are read from the text before the
first closing bracket.  If no bracket opens in that text, the first step goes behind
the header, and from there on the run is the run of the rest of the program, with
one more step and with positions that are greater by the tokens of the header; no
moment after the first is within the header.  If a bracket opens in it, the first
step jumps behind a later closing bracket, or finds none.  So the run skips exactly
the text that the options are read from when no bracket opens in it. -/
theorem run_skips_header (allocate : Allocator) (settings : Settings) (made : Interpreter)
    (source : List Char) (input : Input) (e : Nat) (hmade : make allocate settings = .ok made)
    (hstart : headerStart.toList <+: source)
    (hfirst : source.findIdx? (· == ']') = some e) :
    exists text, headerText? source = some text ∧ source.take (e + 1) = header text ∧
      ('[' ∉ text ->
        (forall n, made.moment? source input (1 + n) =
          (made.moment? (source.drop (e + 1)) input n).map
            (Step.behind (.skipping (made.settings.tokens (source.take (e + 1)))))) ∧
        (forall fuel, RunsRelated
          (RunReport.Behind (.skipping (made.settings.tokens (source.take (e + 1)))))
          (made.run fuel (source.drop (e + 1)) input) (made.run (1 + fuel) source input)) ∧
        forall n now, 0 < n -> made.moment? source input n = some now ->
          (made.settings.tokens (source.take (e + 1))).size ≤ now.state.index) ∧
      ('[' ∈ text ->
        (exists r, made.run 1 source input = .ok (some r) ∧
          r.result = .error (.unmatched .opening 0)) ∨
        exists j, (made.settings.tokens (source.take (e + 1))).size ≤ j ∧
          (made.settings.tokens source)[j]? = some ']' ∧
          made.moment? source input 1 = some (.running ((made.start input).goTo (j + 1)))) ∧
      (made.Skips source input (source.take (e + 1)) <-> '[' ∉ text) := by
  rcases header_split hstart hfirst with ⟨text, hclosing, htake, hsource⟩
  rcases setup?_of_make hmade with ⟨setup, hsetup, _⟩
  rw [htake]
  generalize source.drop (e + 1) = rest at hsource ⊢
  subst hsource
  refine ⟨text, headerText?_header hclosing rest, rfl, ?_, ?_, ?_⟩
  · intro hopening
    rcases moment?_header hmade rest input hclosing hopening with ⟨hbalanced, hskips⟩
    rw [moment?_eq_steps hsetup] at hskips
    have hcomes := Option.some.inj hskips
    have hmoments := moment?_behind hsetup rfl hbalanced rfl hcomes
    refine ⟨hmoments, runsRelated_behind hsetup rfl hbalanced rfl hcomes, ?_⟩
    intro n now hn hnow
    rw [← Nat.add_sub_cancel' hn, hmoments] at hnow
    rcases Option.map_eq_some_iff.mp hnow with ⟨before, _, rfl⟩
    cases before <;> exact Nat.le_add_left _ _
  · intro hopening
    rcases moment?_header_of_inner hmade rest input hclosing hopening with hfault | hjump
    · rw [moment?_eq_steps hsetup] at hfault
      exact Or.inl (run_of_steps_faulted hsetup (Option.some.inj hfault))
    · exact Or.inr hjump
  · exact skips_header_iff hmade rest input hclosing

/-- Behind the header comes a bracket without a partner; the scan for it passes
through the header. -/
theorem run_skips_header_unmatched :
    let settings : Settings := { tapeSize := .int 2 }
    let made : Interpreter := { settings := settings, tape := Tape.blank 1 }
    let source := "[options: -w,]+]".toList
    let input := Input.ofString "k"
    make (fun _ => none) settings = .ok made ∧ headerStart.toList <+: source ∧
      source.findIdx? (· == ']') = some 13 ∧ headerText? source = some " -w,".toList ∧
      (forall fuel, RunsRelated (RunReport.Behind (.skipping #['[', '-', ',', ']']))
        (made.run fuel "+]".toList input) (made.run (1 + fuel) source input)) ∧
      made.Skips source input "[options: -w,]".toList := by
  intro settings made source input
  have hmade : make (fun _ => none) settings = .ok made := rfl
  have hstart : headerStart.toList <+: source := by decide
  have hfirst : source.findIdx? (· == ']') = some 13 := by decide
  rcases run_skips_header _ settings made source input 13 hmade hstart hfirst with
    ⟨text, htext, _, hplain, _, hskips⟩
  have hread : headerText? source = some " -w,".toList := by decide
  rw [htext] at hread
  cases hread
  have hopening : '[' ∉ " -w,".toList := by decide
  exact ⟨hmade, hstart, hfirst, htext, (hplain hopening).2.1, hskips.mpr hopening⟩

end Interpreter

end TapeMachine
