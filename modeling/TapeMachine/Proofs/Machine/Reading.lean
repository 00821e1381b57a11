import TapeMachine.Proofs.Machine.Lockstep

/-!
# What the requests of a run receive

The input is cut into pieces, which are single characters or lines.  Each request
of a run takes the next piece and receives what that piece gives, and nothing else
looks at the input or at the way it is read.  Runs of one program that receive the
same are therefore the same but for the text that they consume.
-/

namespace TapeMachine

/-!
## Lines
-/

namespace Text

/-- The lines of a text.  Each ends with its line feed; the last may have none. -/
def lines : List Char -> List (List Char)
  | [] => []
  | c :: rest =>
      if c = '\n' then
        [c] :: lines rest
      else
        match lines rest with
        | [] => [[c]]
        | line :: later => (c :: line) :: later

theorem lines_feed (rest : List Char) : lines ('\n' :: rest) = ['\n'] :: lines rest := rfl

theorem lines_of_lines_nil {c : Char} {rest : List Char} (hc : c ≠ '\n')
    (h : lines rest = []) : lines (c :: rest) = [[c]] := by
  simp only [lines, if_neg hc, h]

theorem lines_of_lines_cons {c : Char} {rest line : List Char} {later : List (List Char)}
    (hc : c ≠ '\n') (h : lines rest = line :: later) :
    lines (c :: rest) = (c :: line) :: later := by
  simp only [lines, if_neg hc, h]

theorem flatten_lines (text : List Char) : (lines text).flatten = text := by
  induction text with
  | nil =>
      rfl
  | cons c rest ih =>
      by_cases hc : c = '\n'
      · rw [hc, lines_feed, List.flatten_cons, ih]
        rfl
      · cases hlines : lines rest with
        | nil =>
            rw [hlines] at ih
            rw [lines_of_lines_nil hc hlines, ← ih]
            rfl
        | cons line later =>
            rw [hlines] at ih
            rw [lines_of_lines_cons hc hlines, ← ih]
            rfl

theorem ne_nil_of_mem_lines {text line : List Char} (h : line ∈ lines text) : line ≠ [] := by
  induction text generalizing line with
  | nil =>
      cases h
  | cons c rest ih =>
      by_cases hc : c = '\n'
      · rw [hc, lines_feed] at h
        rcases List.mem_cons.mp h with rfl | h
        · exact List.cons_ne_nil _ _
        · exact ih h
      · cases hlines : lines rest with
        | nil =>
            rw [lines_of_lines_nil hc hlines] at h
            rw [List.mem_singleton.mp h]
            exact List.cons_ne_nil _ _
        | cons first later =>
            rw [lines_of_lines_cons hc hlines] at h
            rcases List.mem_cons.mp h with rfl | h
            · exact List.cons_ne_nil _ _
            · apply ih
              rw [hlines]
              exact List.mem_cons_of_mem first h

/-- Cutting a line off takes the first line and leaves the others. -/
theorem cutLine_eq_lines (text : List Char) :
    cutLine text = ((lines text).headD [], (lines text).tail.flatten) := by
  induction text with
  | nil =>
      rfl
  | cons c rest ih =>
      by_cases hc : c = '\n'
      · rw [hc, lines_feed, List.tail_cons, flatten_lines]
        rfl
      · have hcut : cutLine (c :: rest) = (c :: (cutLine rest).1, (cutLine rest).2) := by
          simp [cutLine, hc]
        rw [hcut, ih]
        cases hlines : lines rest with
        | nil =>
            rw [lines_of_lines_nil hc hlines]
            rfl
        | cons line later =>
            rw [lines_of_lines_cons hc hlines]
            rfl

theorem lines_flatten_tail (text : List Char) :
    lines (lines text).tail.flatten = (lines text).tail := by
  induction text with
  | nil =>
      rfl
  | cons c rest ih =>
      by_cases hc : c = '\n'
      · rw [hc, lines_feed, List.tail_cons, flatten_lines]
      · cases hlines : lines rest with
        | nil =>
            rw [lines_of_lines_nil hc hlines]
            rfl
        | cons line later =>
            rw [hlines] at ih
            rw [lines_of_lines_cons hc hlines]
            exact ih

end Text

/-!
## Pieces of the input and what they give
-/

theorem hexByte?_eq_hexNumber? (token : List Char) :
    hexByte? token = (hexNumber? token).map UInt8.ofNat := by
  fun_cases hexByte? token with
  | case1 a =>
      rw [hexNumber?]
      cases Text.hexValue? a <;> rfl
  | case2 a b =>
      rw [hexNumber?]
      cases Text.hexValue? a with
      | none =>
          rfl
      | some x =>
          cases Text.hexValue? b <;> rfl
  | case3 _ hone htwo =>
      rw [hexNumber?]
      · rfl
      · exact hone
      · exact htwo

theorem ofNat_leadingNumber (c : Char) (piece : List Char) :
    UInt8.ofNat (leadingNumber (c :: piece)) = byteOfChar c := by
  exact UInt8.ofNat_mod_size

namespace Input

/-- The pieces of a text that requests take one after another. -/
def pieces (mode : InputMode) (text : List Char) : List (List Char) :=
  match mode with
  | .key => text.map fun c => [c]
  | .hexLine => Text.lines text
  | .line => Text.lines text

/-- What a request receives from its piece.  Past the last piece it finds none, which
is to say an empty one. -/
def answer (mode : InputMode) (piece : List Char) : Except (List Char) UInt8 :=
  match mode with
  | .key => .ok (UInt8.ofNat (leadingNumber piece))
  | .hexLine =>
      match hexNumber? (Text.trim piece) with
      | some n => .ok (UInt8.ofNat n)
      | none => .error (Text.trim piece)
  | .line => .ok (UInt8.ofNat (leadingNumber piece))

/-- What the request receives before which there were `k` others. -/
def received (mode : InputMode) (text : List Char) (k : Nat) : Except (List Char) UInt8 :=
  answer mode ((pieces mode text)[k]?.getD [])

/-- The input after `k` requests. -/
def after (mode : InputMode) (input : Input) (k : Nat) : Input where
  rest := ((pieces mode input.rest).drop k).flatten
  consumed := input.consumed + ((pieces mode input.rest).take k).flatten.length

theorem flatten_pieces (mode : InputMode) (text : List Char) :
    (pieces mode text).flatten = text := by
  cases mode with
  | key =>
      induction text with
      | nil =>
          rfl
      | cons c rest ih =>
          exact congrArg (c :: ·) ih
  | hexLine =>
      exact Text.flatten_lines text
  | line =>
      exact Text.flatten_lines text

theorem pieces_flatten_tail (mode : InputMode) (text : List Char) :
    pieces mode (pieces mode text).tail.flatten = (pieces mode text).tail := by
  cases mode with
  | key =>
      cases text with
      | nil =>
          rfl
      | cons c rest =>
          exact congrArg (pieces .key) (flatten_pieces .key rest)
  | hexLine =>
      exact Text.lines_flatten_tail text
  | line =>
      exact Text.lines_flatten_tail text

/-- The pieces of what is left are the pieces that are left. -/
theorem pieces_flatten_drop (mode : InputMode) (text : List Char) (k : Nat) :
    pieces mode ((pieces mode text).drop k).flatten = (pieces mode text).drop k := by
  induction k with
  | zero =>
      rw [List.drop_zero, flatten_pieces]
  | succ k ih =>
      have htail := pieces_flatten_tail mode ((pieces mode text).drop k).flatten
      rw [ih, List.tail_drop] at htail
      exact htail

theorem after_zero (mode : InputMode) (input : Input) : input.after mode 0 = input := by
  unfold after
  rw [List.drop_zero, flatten_pieces]
  rfl

theorem after_after (mode : InputMode) (input : Input) (j k : Nat) :
    (input.after mode j).after mode k = input.after mode (j + k) := by
  unfold after
  rw [pieces_flatten_drop, List.drop_drop, List.take_add, List.flatten_append,
    List.length_append, Nat.add_assoc]

theorem after_one (mode : InputMode) (input : Input) :
    input.after mode 1 =
      { rest := (pieces mode input.rest).tail.flatten
        consumed := input.consumed + ((pieces mode input.rest).headD []).length } := by
  unfold after
  cases pieces mode input.rest <;> simp

theorem takeByte_eq (mode : InputMode) (input : Input) :
    input.takeByte mode =
      (answer mode ((pieces mode input.rest).headD []), input.after mode 1) := by
  rw [after_one]
  rcases input with ⟨text, consumed⟩
  cases mode with
  | key =>
      cases text with
      | nil =>
          rfl
      | cons c rest =>
          have hrest : (pieces .key (c :: rest)).tail.flatten = rest := flatten_pieces .key rest
          simp only [hrest, answer]
          exact congrArg (fun v => (Except.ok v, _)) (ofNat_leadingNumber c []).symm
  | hexLine =>
      simp only [takeByte, takeLine, Text.cutLine_eq_lines, answer, pieces,
        hexByte?_eq_hexNumber?]
      cases hexNumber? (Text.trim ((Text.lines text).headD [])) <;> rfl
  | line =>
      simp only [takeByte, takeLine, Text.cutLine_eq_lines, answer, pieces]
      cases (Text.lines text).headD [] with
      | nil =>
          rfl
      | cons c piece =>
          rw [ofNat_leadingNumber]

/-- Requests take the pieces in order, and receive what these give. -/
theorem takeByte_after (mode : InputMode) (input : Input) (k : Nat) :
    (input.after mode k).takeByte mode =
      (received mode input.rest k, input.after mode (k + 1)) := by
  have hpieces : pieces mode (input.after mode k).rest = (pieces mode input.rest).drop k :=
    pieces_flatten_drop mode input.rest k
  rw [takeByte_eq, hpieces, after_after, List.headD_eq_head?_getD, List.head?_drop]
  rfl

theorem leadingNumber_heads {ls : List (List Char)} (hls : forall line, line ∈ ls -> line ≠ [])
    (k : Nat) :
    leadingNumber ((pieces .key (ls.filterMap List.head?))[k]?.getD []) =
      leadingNumber (ls[k]?.getD []) := by
  induction ls generalizing k with
  | nil =>
      rfl
  | cons line ls ih =>
      cases line with
      | nil =>
          exact absurd rfl (hls [] List.mem_cons_self)
      | cons c line =>
          cases k with
          | zero =>
              rfl
          | succ k =>
              apply ih
              intro other hother
              exact hls other (List.mem_cons_of_mem _ hother)

/-- The characters that begin the lines of a text give as keys what the lines give. -/
theorem received_key_heads (text : List Char) (k : Nat) :
    received .key ((Text.lines text).filterMap List.head?) k = received .line text k := by
  apply congrArg fun n => Except.ok (UInt8.ofNat n)
  apply leadingNumber_heads
  intro line hline
  exact Text.ne_nil_of_mem_lines hline

/-- Bytes written as characters are received as keys. -/
theorem received_key_bytes {bytes : List UInt8} {k : Nat} {v : UInt8} (h : bytes[k]? = some v) :
    received .key (bytes.map charOfByte) k = .ok v := by
  have hpiece : (pieces .key (bytes.map charOfByte))[k]? = some [charOfByte v] := by
    rw [pieces, List.map_map, List.getElem?_map, h]
    rfl
  have hbyte : byteOfChar (charOfByte v) = v := by
    rw [byteOfChar, toNat_charOfByte]
    exact UInt8.ofNat_toNat
  rw [received, hpiece]
  exact congrArg Except.ok ((ofNat_leadingNumber (charOfByte v) []).trans hbyte)

end Input

/-!
## Tokens that request nothing

Such a token does the same whatever the input is and however it is read.
-/

def Setup.inMode (setup : Setup) (mode : InputMode) : Setup :=
  { setup with mode := mode }

def Memory.withInput (input : Input) (m : Memory) : Memory :=
  { m with input := input }

def State.withInput (input : Input) (s : State) : State :=
  { s with input := input }

def Step.withInput (input : Input) : Step -> Step
  | running s => .running (s.withInput input)
  | finished s => .finished (s.withInput input)
  | faulted f s => .faulted f (s.withInput input)

theorem Memory.withInput_stateAt (input : Input) (m : Memory) (i n : Nat) :
    (m.stateAt i n).withInput input = (m.withInput input).stateAt i n := rfl

theorem Step.withInput_withInput (input input' : Input) (result : Step) :
    (result.withInput input).withInput input' = result.withInput input' := by
  cases result <;> rfl

theorem Step.input_withInput (input : Input) (result : Step) :
    (result.withInput input).state.input = input := by
  cases result <;> rfl

section

variable {setup : Setup} {a : Action} {m m' : Memory} (mode : InputMode) (input : Input)

theorem Memory.store?_withInput {v : UInt8} (h : m.store? v = some m') :
    (m.withInput input).store? v = some (m'.withInput input) := by
  rcases Memory.store?_eq_some_iff.mp h with ⟨i, hi, rfl⟩
  exact Memory.store?_eq_some_iff.mpr ⟨i, hi, rfl⟩

theorem Performs.withInput (h : Performs setup a m m') (ha : a ≠ .read) :
    Performs (setup.inMode mode) a (m.withInput input) (m'.withInput input) := by
  cases h with
  | left hpos =>
      exact Performs.left hpos
  | leftRound hend hwrap =>
      exact Performs.leftRound hend hwrap
  | right hroom =>
      exact Performs.right hroom
  | rightRound hend hwrap =>
      exact Performs.rightRound hend hwrap
  | increment hcell hstore =>
      exact Performs.increment hcell (Memory.store?_withInput input hstore)
  | decrement hcell hstore =>
      exact Performs.decrement hcell (Memory.store?_withInput input hstore)
  | write hcell =>
      exact Performs.write hcell
  | read _ _ =>
      exact absurd rfl ha

theorem Fails.withInput {f : Fault} (h : Fails setup a m f m') (ha : a ≠ .read) :
    Fails (setup.inMode mode) a (m.withInput input) f (m'.withInput input) := by
  cases h with
  | left hend hwrap =>
      exact Fails.left hend hwrap
  | right hend hwrap =>
      exact Fails.right hend hwrap
  | increment hcell =>
      exact Fails.increment hcell
  | decrement hcell =>
      exact Fails.decrement hcell
  | write hcell =>
      exact Fails.write hcell
  | read _ =>
      exact absurd rfl ha
  | readOutside _ _ =>
      exact absurd rfl ha

theorem effect_withInput (setup : Setup) {c : Char} (hc : c ≠ ',') (m : Memory) :
    effect (setup.inMode mode) c (m.withInput input) =
      (effect setup c m).map (Memory.withInput input) := by
  have hread : forall a, c = Action.toChar a -> a ≠ .read := by
    rintro a rfl rfl
    exact hc rfl
  apply effect_map
  · intro a m' ha hperforms
    exact hperforms.withInput mode input (hread a ha)
  · intro a f m' ha hfails
    exact hfails.withInput mode input (hread a ha)
  · rfl
  · rfl

theorem step_withInput (setup : Setup) {code : Tokens} {s : State}
    (hs : code[s.index]? ≠ some ',') :
    step (setup.inMode mode) code (s.withInput input) = (step setup code s).withInput input := by
  rw [← s.stateAt_memory, Memory.withInput_stateAt]
  cases htoken : code[s.index]? with
  | none =>
      have hend : code.size ≤ s.index := Array.getElem?_eq_none_iff.mp htoken
      rw [step_of_end hend, step_of_end hend]
      rfl
  | some c =>
      have hc : c ≠ ',' := by
        rintro rfl
        exact hs htoken
      have hsame := effect_withInput mode input setup hc s.memory
      cases heffect : effect setup c s.memory with
      | next m =>
          rw [heffect] at hsame
          rw [step_of_next htoken heffect, step_of_next htoken hsame]
          rfl
      | fault f m =>
          rw [heffect] at hsame
          rw [step_of_fault htoken heffect, step_of_fault htoken hsame]
          rfl
      | jump b =>
          rw [heffect] at hsame
          rw [step_of_jump htoken heffect, step_of_jump htoken hsame]
          cases code.partner? b s.index <;> rfl

end

/-!
## Requests
-/

/-- The step of a machine that receives an answer: a byte goes into the cell at the
pointer; anything else is at fault and leaves the cells as they are. -/
def State.receive (s : State) (answer : Except (List Char) UInt8) : Step :=
  match answer with
  | .error token => .faulted (.notHex token) s
  | .ok v =>
      match s.tape.write? s.pointer v with
      | some tape => .running (State.next { s with tape := tape })
      | none => .faulted s.outside s

theorem State.receive_withInput (s : State) (answer : Except (List Char) UInt8)
    (input : Input) : (s.withInput input).receive answer = (s.receive answer).withInput input := by
  cases answer with
  | error token =>
      rfl
  | ok v =>
      have hsame : (s.withInput input).tape.write? (s.withInput input).pointer v =
          s.tape.write? s.pointer v := rfl
      simp only [receive, hsame]
      cases s.tape.write? s.pointer v <;> rfl

theorem step_request {setup : Setup} {code : Tokens} {s : State} {input : Input}
    {answer : Except (List Char) UInt8} (hs : code[s.index]? = some ',')
    (hbyte : s.input.takeByte setup.mode = (answer, input)) :
    step setup code s = (s.receive answer).withInput input := by
  have hmemory : s.memory.input.takeByte setup.mode = (answer, input) := hbyte
  cases answer with
  | error token =>
      exact step_of_fault hs (Fails.read hmemory).effect_eq s.steps
  | ok v =>
      cases hwrite : s.tape.write? s.pointer v with
      | none =>
          have hcell : s.memory.cell? = none :=
            Memory.cell?_eq_none_iff.mpr (Option.map_eq_none_iff.mp hwrite)
          simp only [State.receive, hwrite]
          exact step_of_fault hs (Fails.readOutside hmemory hcell).effect_eq s.steps
      | some tape =>
          have hstore : Memory.store? { s.memory with input := input } v =
              some { s.memory with input := input, tape := tape } := by
            exact congrArg (Option.map _) hwrite
          simp only [State.receive, hwrite]
          exact step_of_next hs (Performs.read hmemory hstore).effect_eq s.steps

def Step.atRequest (code : Tokens) : Step -> Bool
  | running s => code[s.index]? == some ','
  | finished _ => false
  | faulted _ _ => false

/-- The number of requests among the tokens of the first `n` steps. -/
def requests (setup : Setup) (code : Tokens) (n : Nat) (s : State) : Nat :=
  (List.range n).countP fun k => (steps setup code k s).atRequest code

theorem requests_succ (setup : Setup) (code : Tokens) (n : Nat) (s : State) :
    requests setup code (n + 1) s =
      requests setup code n s + (if (steps setup code n s).atRequest code then 1 else 0) := by
  unfold requests
  rw [List.range_succ, List.countP_append, List.countP_singleton]

section

variable {setup : Setup} {code : Tokens}

/-- A step goes the same way in another mode and with another input, if both receive
the same where they request something. -/
theorem step_reading {s : State} {mode : InputMode} {input input' : Input} {k : Nat}
    (hs : s.input = input.after setup.mode k)
    (hsame : code[s.index]? = some ',' ->
      Input.received mode input'.rest k = Input.received setup.mode input.rest k) :
    step (setup.inMode mode) code (s.withInput (input'.after mode k)) =
      (step setup code s).withInput
        (input'.after mode (k + if (Step.running s).atRequest code then 1 else 0)) := by
  by_cases hrequest : code[s.index]? = some ','
  · have hat : (Step.running s).atRequest code = true := beq_iff_eq.mpr hrequest
    have hbyte := input.takeByte_after setup.mode k
    rw [← hs] at hbyte
    have hbyte' : (s.withInput (input'.after mode k)).input.takeByte (setup.inMode mode).mode =
        (Input.received setup.mode input.rest k, input'.after mode (k + 1)) := by
      rw [← hsame hrequest]
      exact input'.takeByte_after mode k
    have hrequest' : code[(s.withInput (input'.after mode k)).index]? = some ',' := hrequest
    rw [if_pos hat, step_request hrequest hbyte, step_request hrequest' hbyte',
      State.receive_withInput, Step.withInput_withInput, Step.withInput_withInput]
  · have hat : ¬ (Step.running s).atRequest code = true := by
      intro hat
      exact hrequest (beq_iff_eq.mp hat)
    rw [if_neg hat]
    exact step_withInput mode _ setup hrequest

theorem step_input_after {s : State} {input : Input} {k : Nat}
    (hs : s.input = input.after setup.mode k) :
    (step setup code s).state.input =
      input.after setup.mode (k + if (Step.running s).atRequest code then 1 else 0) := by
  have hself : step setup code s = (step setup code s).withInput
      (input.after setup.mode (k + if (Step.running s).atRequest code then 1 else 0)) := by
    have hstate : s.withInput (input.after setup.mode k) = s := by
      rw [← hs]
      rfl
    have hreading : step (setup.inMode setup.mode) code (s.withInput (input.after setup.mode k)) =
        _ := step_reading hs fun _ => rfl
    rw [hstate] at hreading
    exact hreading
  rw [hself, Step.input_withInput]

variable (setup code)

/-- At every moment the input is what the requests so far have left. -/
theorem steps_input (n : Nat) (s : State) :
    (steps setup code n s).state.input =
      s.input.after setup.mode (requests setup code n s) := by
  induction n with
  | zero =>
      exact (s.input.after_zero setup.mode).symm
  | succ n ih =>
      rw [steps_succ_last, requests_succ]
      cases hresult : steps setup code n s with
      | running t =>
          rw [hresult] at ih
          exact step_input_after ih
      | finished t =>
          rw [hresult] at ih
          exact ih
      | faulted f t =>
          rw [hresult] at ih
          exact ih

/-- A run that receives the same in another mode and from another input is, after
every number of steps, where the first one is. -/
theorem steps_reading {setup : Setup} {code : Tokens} {s : State} {mode : InputMode}
    {input : Input} {n : Nat}
    (hsame : forall k, k < requests setup code n s ->
      Input.received mode input.rest k = Input.received setup.mode s.input.rest k) :
    steps (setup.inMode mode) code n (s.withInput input) =
      (steps setup code n s).withInput (input.after mode (requests setup code n s)) := by
  induction n with
  | zero =>
      show Step.running _ = Step.running (s.withInput (input.after mode 0))
      rw [input.after_zero]
  | succ n ih =>
      rw [requests_succ] at hsame
      have hbefore := ih fun k hk => hsame k (Nat.lt_add_right _ hk)
      have hinput := steps_input setup code n s
      rw [steps_succ_last, steps_succ_last, requests_succ, hbefore]
      cases hresult : steps setup code n s with
      | running t =>
          rw [hresult] at hsame hinput
          apply step_reading hinput
          intro hrequest
          apply hsame
          have hat : (Step.running t).atRequest code = true := beq_iff_eq.mpr hrequest
          rw [if_pos hat]
          exact Nat.lt_succ_self _
      | finished t =>
          rfl
      | faulted f t =>
          rfl

end

/-!
## Runs of an interpreter
-/

theorem Settings.mode_of_setup? {settings : Settings} {setup : Setup}
    (h : settings.setup? = some setup) : setup.mode = settings.inputMode := by
  rcases Option.map_eq_some_iff.mp h with ⟨limit, _, rfl⟩
  rfl

def Ending.withInput (input : Input) (e : Ending) : Ending :=
  ⟨e.state.withInput input, e.fault⟩

theorem Step.ending?_withInput (input : Input) (result : Step) :
    (result.withInput input).ending? = result.ending?.map (Ending.withInput input) := by
  cases result <;> rfl

/-- The second report says the same as the first but for the input. -/
structure RunReport.Alike (r r' : RunReport) : Prop where
  result : r'.result = r.result
  output : r'.output = r.output
  tape : r'.before.tape = r.before.tape
  pointer : r'.before.pointer = r.before.pointer
  log : r'.log = r.log

namespace Interpreter

def withInputFlags (itp : Interpreter) (realtime binary : Value) : Interpreter :=
  { itp with
    settings := (itp.settings.setFlag .realtimeInput realtime).setFlag .binaryInput binary }

/-- The number of requests among the tokens of the first `n` steps of a run. -/
def requests (itp : Interpreter) (source : List Char) (input : Input) (n : Nat) : Nat :=
  (List.range n).countP fun k =>
    (itp.moment? source input k).any (Step.atRequest (itp.settings.tokens source))

/-- After `n` steps the second run is where the first one is, with the input that as
many requests leave of its own, and its report is the same. -/
structure ReadsAlike (itp itp' : Interpreter) (source : List Char) (input input' : Input)
    (n : Nat) : Prop where
  moment : itp'.moment? source input' n = (itp.moment? source input n).map
    (Step.withInput (input'.after itp'.settings.inputMode (itp.requests source input n)))
  run : RunsRelated RunReport.Alike (itp.run n source input) (itp'.run n source input')

section

variable {itp : Interpreter} {setup : Setup} {source : List Char} {input : Input} {n : Nat}
variable (hsetup : itp.settings.setup? = some setup)
include hsetup

theorem requests_eq :
    itp.requests source input n =
      TapeMachine.requests setup (itp.settings.tokens source) n (itp.start input) := by
  unfold requests TapeMachine.requests
  congr 1
  funext k
  rw [moment?_eq_steps hsetup]
  rfl

theorem setup?_withInputFlags (realtime binary : Value) :
    (itp.withInputFlags realtime binary).settings.setup? =
      some (setup.inMode (itp.withInputFlags realtime binary).settings.inputMode) := by
  rcases Option.map_eq_some_iff.mp hsetup with ⟨limit, hlimit, rfl⟩
  exact Option.map_eq_some_iff.mpr ⟨limit, hlimit, rfl⟩

theorem readsAlike_of_received {realtime binary : Value} {input' : Input}
    (hsame : forall k, k < itp.requests source input n ->
      Input.received (itp.withInputFlags realtime binary).settings.inputMode input'.rest k =
        Input.received itp.settings.inputMode input.rest k) :
    itp.ReadsAlike (itp.withInputFlags realtime binary) source input input' n := by
  have hsetup' := setup?_withInputFlags hsetup realtime binary
  rw [requests_eq hsetup, ← Settings.mode_of_setup? hsetup] at hsame
  have hsteps := steps_reading (s := itp.start input) hsame
  constructor
  · rw [moment?_eq_steps hsetup, moment?_eq_steps hsetup', requests_eq hsetup]
    exact congrArg some hsteps
  · have hscan := congrArg Step.ending? hsteps
    rw [Step.ending?_withInput, ← scanning_eq_ending?, ← scanning_eq_ending?] at hscan
    apply runsRelated_of_scanning hsetup hsetup' hscan
    intro e known known'
    rcases e with ⟨s, fault⟩
    cases fault <;> exact ⟨rfl, rfl, rfl, rfl, rfl⟩

end

/-- A run depends on its input and on the way it is read only through what its
requests receive.  Each request takes the next piece of the text, so that at every
moment the pieces of the requests so far are consumed and the others are left, and
the run goes on with what that piece gives.  Two runs whose requests receive the
same are the same but for the input.  So a run that reads lines is the run on the
characters that begin them, read as keys, and a run that reads bytes in hexadecimal
is the run on the characters of these bytes until it requests more. -/
theorem run_determined_by_received (itp : Interpreter) (setup : Setup) (source : List Char)
    (input : Input) (hsetup : itp.settings.setup? = some setup) :
    (forall k, ((Input.pieces itp.settings.inputMode input.rest).take k).flatten ++
      (input.after itp.settings.inputMode k).rest = input.rest) ∧
    (forall n now, itp.moment? source input n = some now ->
      now.state.input = input.after itp.settings.inputMode (itp.requests source input n)) ∧
    (forall n s, itp.moment? source input n = some (.running s) ->
      (itp.settings.tokens source)[s.index]? = some ',' ->
      itp.moment? source input (n + 1) = some ((s.receive
        (Input.received itp.settings.inputMode input.rest (itp.requests source input n))).withInput
          (input.after itp.settings.inputMode (itp.requests source input n + 1)))) ∧
    (forall realtime binary input' n,
      (forall k, k < itp.requests source input n ->
        Input.received (itp.withInputFlags realtime binary).settings.inputMode input'.rest k =
          Input.received itp.settings.inputMode input.rest k) ->
      itp.ReadsAlike (itp.withInputFlags realtime binary) source input input' n) ∧
    (itp.settings.inputMode = .line ->
      forall realtime binary input', realtime.truthy = true ->
        input'.rest = (Text.lines input.rest).filterMap List.head? ->
        forall n, itp.ReadsAlike (itp.withInputFlags realtime binary) source input input' n) ∧
    (itp.settings.inputMode = .hexLine ->
      forall realtime binary input' (bytes : List UInt8), realtime.truthy = true ->
        input'.rest = bytes.map charOfByte ->
        (forall k v, bytes[k]? = some v -> Input.received .hexLine input.rest k = .ok v) ->
        forall n, itp.requests source input n ≤ bytes.length ->
          itp.ReadsAlike (itp.withInputFlags realtime binary) source input input' n) := by
  have hmode := Settings.mode_of_setup? hsetup
  have hkeys : forall realtime binary : Value, realtime.truthy = true ->
      (itp.withInputFlags realtime binary).settings.inputMode = .key := by
    intro realtime binary hrealtime
    exact if_pos hrealtime
  refine ⟨?_, ?_, ?_, ?_, ?_, ?_⟩
  · intro k
    show _ ++ ((Input.pieces itp.settings.inputMode input.rest).drop k).flatten = input.rest
    rw [← List.flatten_append, List.take_append_drop, Input.flatten_pieces]
  · intro n now hnow
    rw [moment?_eq_steps hsetup] at hnow
    cases hnow
    rw [steps_input, requests_eq hsetup, hmode]
    rfl
  · intro n s hs hrequest
    rw [moment?_eq_steps hsetup] at hs
    have hinput := steps_input setup (itp.settings.tokens source) n (itp.start input)
    rw [Option.some.inj hs] at hinput
    have hbyte := input.takeByte_after setup.mode
      (TapeMachine.requests setup (itp.settings.tokens source) n (itp.start input))
    rw [moment?_eq_steps hsetup, steps_succ_last, Option.some.inj hs, requests_eq hsetup, ← hmode]
    apply congrArg some
    apply step_request hrequest
    rw [← hbyte]
    exact congrArg (Input.takeByte setup.mode) hinput
  · intro realtime binary input' n hsame
    exact readsAlike_of_received hsetup hsame
  · intro hline realtime binary input' hrealtime hinput' n
    apply readsAlike_of_received hsetup
    intro k _
    rw [hkeys realtime binary hrealtime, hline, hinput', Input.received_key_heads]
  · intro hhex realtime binary input' bytes hrealtime hinput' hbytes n hfew
    apply readsAlike_of_received hsetup
    intro k hk
    have hbyte : bytes[k]? = some bytes[k] := List.getElem?_eq_getElem (Nat.lt_of_lt_of_le hk hfew)
    rw [hkeys realtime binary hrealtime, hhex, hinput', Input.received_key_bytes hbyte,
      hbytes k _ hbyte]

/-- The second of three lines is empty, and the third has no line feed.  Of two
lines in hexadecimal the first has blanks around its digits. -/
theorem run_determined_by_received_lines :
    let itp : Interpreter := { settings := { tapeSize := .int 1 }, tape := Tape.blank 0 }
    let hex : Interpreter := itp.withInputFlags (.bool false) (.bool true)
    let setup : Setup := { limit := 1, wrap := false, mode := .line }
    let source := ",.,.".toList
    itp.settings.setup? = some setup ∧ hex.settings.setup? = some (setup.inMode .hexLine) ∧
      (forall n, itp.ReadsAlike (itp.withInputFlags (.bool true) (.bool true)) source
        (Input.ofString "ab\n\nc") (Input.ofString "a\nc") n) ∧
      hex.requests source (Input.ofString " 4a\t\n7\nno") 4 = 2 ∧
      hex.ReadsAlike (hex.withInputFlags (.bool true) (.bool true)) source
        (Input.ofString " 4a\t\n7\nno") (Input.ofString "J\x07") 4 := by
  intro itp hex setup source
  have hsetup : itp.settings.setup? = some setup := rfl
  have hhex : hex.settings.setup? = some (setup.inMode .hexLine) := rfl
  have hrequests : hex.requests source (Input.ofString " 4a\t\n7\nno") 4 = 2 := by decide
  rcases run_determined_by_received itp setup source (Input.ofString "ab\n\nc") hsetup with
    ⟨_, _, _, _, hlines, _⟩
  rcases run_determined_by_received hex _ source (Input.ofString " 4a\t\n7\nno") hhex with
    ⟨_, _, _, _, _, hbytes⟩
  refine ⟨hsetup, hhex, ?_, hrequests, ?_⟩
  · exact hlines rfl (.bool true) (.bool true) (Input.ofString "a\nc") rfl (by decide)
  · refine hbytes rfl (.bool true) (.bool true) (Input.ofString "J\x07") [0x4a, 7] rfl
      (by decide) ?_ 4 (Nat.le_of_eq hrequests)
    intro k v hk
    match k with
    | 0 =>
        cases hk
        rfl
    | 1 =>
        cases hk
        rfl
    | k + 2 =>
        cases hk

end Interpreter

end TapeMachine
