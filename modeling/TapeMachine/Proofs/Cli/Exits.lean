import TapeMachine.Cli.Host
import TapeMachine.Proofs.Cli.Layers
import TapeMachine.Proofs.Machine.Bounds

/-!
# Exits of the command

The command returns zero when its program finished.  Errors of the language and of the
file system are told to the user, and the command returns one.  Every stage can fail in
its own ways, and not all of them are of these two families; the errors that end the
command are told apart here from those that it tells about.  What the stages call from
outside, the loader of documents, the maker of tapes and the copying of values, can be
anything.
-/

namespace TapeMachine

/-!
## Files
-/

/-- How the reading of a text ends the command: the path holds the null character, or the
file is no UTF-8 text. -/
inductive TextEscapes (files : Files.Store) (path : Path) : Error -> Prop where
  | null (hnull : path.hasNull = true) : TextEscapes files path .nullInPath
  | undecodable {content : List UInt8} (hcontent : readBytes files path = .ok content)
      (hdecode : Text.decode? content = none) : TextEscapes files path .undecodable

theorem isExpected_configuration (m : Misconfiguration) :
    (Error.configuration m).isExpected = true :=
  rfl

/-- Bytes are refused by the system, or because of the null character. -/
theorem readBytes_error {files : Files.Store} {path : Path} {e : Error}
    (h : readBytes files path = .error e) :
    (path.hasNull = true ∧ e = .nullInPath) ∨ e.isExpected = true := by
  unfold readBytes at h
  split at h
  · cases h
    exact Or.inl ⟨‹_›, rfl⟩
  · split at h
    · cases h
    · cases h
      exact Or.inr rfl

theorem textEscapes_iff {files : Files.Store} {path : Path} {e : Error} :
    TextEscapes files path e <-> readText files path = .error e ∧ e.isExpected = false := by
  constructor
  · intro h
    cases h with
    | null hnull =>
        rw [readText, readBytes, if_pos hnull]
        exact ⟨rfl, rfl⟩
    | undecodable hcontent hdecode =>
        simp only [readText, hcontent, Files.Store.textOf?, hdecode]
        exact ⟨rfl, rfl⟩
  · rintro ⟨h, hunexpected⟩
    unfold readText at h
    cases hcontent : readBytes files path with
    | error e' =>
        rw [hcontent] at h
        cases h
        rcases readBytes_error hcontent with ⟨hnull, rfl⟩ | hexpected
        · exact .null hnull
        · exact absurd hexpected (Bool.eq_false_iff.mp hunexpected)
    | ok content =>
        simp only [hcontent, Files.Store.textOf?] at h
        cases hdecode : Text.decode? content with
        | none =>
            rw [hdecode] at h
            cases h
            exact .undecodable hcontent hdecode
        | some text =>
            rw [hdecode] at h
            cases h

/-!
## Options files
-/

namespace Settings

/-- Unknown names can be listed exactly if they are all texts. -/
theorem isExpected_unknownNames (v : Value) (rest : List Value) :
    (unknownNames v rest).isExpected = true <->
      forall w, w ∈ v :: rest -> w.points?.isSome = true := by
  unfold unknownNames
  simp only [beq_iff_eq, List.filterMap_length_eq_length]
  split
  · rename_i htexts
    exact iff_of_true rfl htexts
  · rename_i htexts
    refine iff_of_false ?_ htexts
    split
    · exact Bool.false_ne_true
    · split <;> exact Bool.false_ne_true

theorem sizeFromVariable_error {sizeText : Option String} {e : Error}
    (h : sizeFromVariable sizeText = .error e) : e.isExpected = true := by
  unfold sizeFromVariable at h
  split at h
  · cases h
  · split at h
    · cases h
    · cases h
      rfl

theorem initial_error {sizeText : Option String} {e : Error}
    (h : initial sizeText = .error e) : e.isExpected = true := by
  unfold initial at h
  cases hsize : sizeFromVariable sizeText with
  | error e' =>
      rw [hsize] at h
      cases h
      exact sizeFromVariable_error hsize
  | ok n =>
      rw [hsize] at h
      cases h

theorem ofEntries_of_unknown {entries : List (Value × Value)} {v : Value} {rest : List Value}
    (h : unknownKeys entries = v :: rest) (sizeText : Option String) :
    ofEntries sizeText entries = .error (unknownNames v rest) := by
  rw [unknownKeys] at h
  rw [ofEntries, h]

theorem ofEntries_error {sizeText : Option String} {entries : List (Value × Value)} {e : Error}
    (h : ofEntries sizeText entries = .error e) :
    e.isExpected = true ∨ exists v rest, unknownKeys entries = v :: rest ∧
      e = unknownNames v rest := by
  cases hkeys : unknownKeys entries with
  | cons v rest =>
      rw [ofEntries_of_unknown hkeys] at h
      cases h
      exact Or.inr ⟨v, rest, rfl, rfl⟩
  | nil =>
      rw [unknownKeys] at hkeys
      rw [ofEntries, hkeys] at h
      cases hsize : lookup? entries "tape_size" with
      | some v =>
          simp only [hsize] at h
          cases h
      | none =>
          simp only [hsize] at h
          cases hvariable : sizeFromVariable sizeText with
          | error e' =>
              rw [hvariable] at h
              cases h
              exact Or.inl (sizeFromVariable_error hvariable)
          | ok n =>
              rw [hvariable] at h
              cases h

end Settings

/-- How an options file ends the command: it holds no document that can be loaded, or its
document names options by values that are no texts. -/
inductive LoadEscapes (load : Loader) (files : Files.Store) (path : Path) : Error -> Prop where
  | document {content : List UInt8} {cause : Yaml.Error}
      (hcontent : readBytes files path = .ok content) (hload : load content = .error cause) :
      LoadEscapes load files path (.document cause)
  | names {content : List UInt8} {entries : List (Value × Value)} {v w : Value}
      {rest : List Value} (hcontent : readBytes files path = .ok content)
      (hload : load content = .ok (.dict entries))
      (hkeys : Settings.unknownKeys entries = v :: rest) (hw : w ∈ v :: rest)
      (hname : w.points? = none) :
      LoadEscapes load files path (Settings.unknownNames v rest)

theorem isExpected_document (cause : Yaml.Error) : (Error.document cause).isExpected = false := by
  cases cause <;> rfl

/-- If the bytes of an options file cannot be read, the user is told. -/
theorem isExpected_of_load {load : Loader} {files : Files.Store} {sizeText : Option String}
    {pathText : String} {e e' : Error} (h : Settings.load load files sizeText pathText = .error e)
    (hcontent : readBytes files (Path.ofString pathText) = .error e') : e.isExpected = true := by
  unfold Settings.load at h
  simp only [hcontent] at h
  split at h
  · cases h
    rfl
  · cases h
    rfl
  · rename_i hcontains
    cases h
    rcases readBytes_error hcontent with ⟨hnull, _⟩ | hexpected
    · -- Nothing is found under a path with the null character.
      rw [Files.Store.contains, if_pos hnull] at hcontains
      cases hcontains
    · exact hexpected

theorem Settings.ofValue_error {sizeText : Option String} {path : Path} {v : Value} {e : Error}
    (h : ofValue sizeText path v = .error e) (hunexpected : e.isExpected = false) :
    exists entries w rest, v = .dict entries ∧ unknownKeys entries = w :: rest ∧
      e = unknownNames w rest := by
  have htold := Bool.eq_false_iff.mp hunexpected
  cases v with
  | null =>
      exact absurd (initial_error h) htold
  | dict entries =>
      rcases ofEntries_error h with hexpected | ⟨w, rest, hkeys, he⟩
      · exact absurd hexpected htold
      · exact ⟨entries, w, rest, rfl, hkeys, he⟩
  | _ =>
      cases h
      exact absurd rfl htold

theorem loadEscapes_iff {load : Loader} {files : Files.Store} {pathText : String} {e : Error}
    (sizeText : Option String) :
    LoadEscapes load files (Path.ofString pathText) e <->
      Settings.load load files sizeText pathText = .error e ∧ e.isExpected = false := by
  constructor
  · intro h
    cases h with
    | document hcontent hload =>
        rw [load_of_content hcontent, hload]
        exact ⟨rfl, isExpected_document _⟩
    | @names content entries v w rest hcontent hload hkeys hw hname =>
        rw [load_of_content hcontent, hload]
        refine ⟨Settings.ofEntries_of_unknown hkeys sizeText, ?_⟩
        rw [← Bool.not_eq_true, Settings.isExpected_unknownNames]
        intro hall
        have hsome := hall w hw
        rw [hname] at hsome
        cases hsome
  · rintro ⟨h, hunexpected⟩
    cases hcontent : readBytes files (Path.ofString pathText) with
    | error e' =>
        exact absurd (isExpected_of_load h hcontent) (Bool.eq_false_iff.mp hunexpected)
    | ok content =>
        rw [load_of_content hcontent] at h
        cases hload : load content with
        | error cause =>
            rw [hload] at h
            cases h
            exact .document hcontent hload
        | ok v =>
            rw [hload] at h
            rcases Settings.ofValue_error h hunexpected with ⟨entries, v, rest, rfl, hkeys, rfl⟩
            rw [← Bool.not_eq_true, Settings.isExpected_unknownNames] at hunexpected
            rcases Classical.not_forall.mp hunexpected with ⟨w, hw⟩
            rcases Classical.not_imp.mp hw with ⟨hmem, hname⟩
            exact .names hcontent hload hkeys hmem (Option.not_isSome_iff_eq_none.mp hname)

/-!
## Programs
-/

theorem isExpected_ofMisconfiguration (m : Misconfiguration) :
    (Error.ofMisconfiguration m).isExpected = m.isWritable := by
  unfold Error.ofMisconfiguration
  cases h : m.isWritable with
  | true =>
      exact isExpected_configuration m
  | false =>
      rfl

/-- The refusal of a tape quotes its size. -/
theorem ofSetting_error {allocate : Allocator} {v : Value} {e : Error}
    (h : Tape.ofSetting allocate v = .error e) :
    exists m : Misconfiguration, m.isWritable = v.isWritable ∧ e = .ofMisconfiguration m := by
  unfold Tape.ofSetting at h
  split at h
  · rename_i n
    split at h
    · exact ⟨.sizeTooSmall n, rfl, (Except.error.inj h).symm⟩
    · split at h
      · rename_i words _
        exact ⟨.sizeTooLarge n words, rfl, (Except.error.inj h).symm⟩
      · cases h
  · exact ⟨.sizeNotInteger _, rfl, (Except.error.inj h).symm⟩

/-- A tape is refused, and its size has too many digits to say so. -/
def SizeEscapes (allocate : Allocator) (v : Value) : Prop :=
  v.isWritable = false ∧ forall tape, Tape.ofSetting allocate v ≠ .ok tape

theorem make_of_sizeEscapes {allocate : Allocator} {s : Settings}
    (h : SizeEscapes allocate s.tapeSize) :
    Interpreter.make allocate s = .error .tooManyDigits := by
  rcases h with ⟨hwritable, hrefused⟩
  unfold Interpreter.make
  cases htape : Tape.ofSetting allocate s.tapeSize with
  | ok tape =>
      exact absurd htape (hrefused tape)
  | error e =>
      rcases ofSetting_error htape with ⟨m, hm, rfl⟩
      rw [hwritable] at hm
      rw [Error.ofMisconfiguration, hm]
      rfl

theorem sizeEscapes_of_make {allocate : Allocator} {s : Settings} {e : Error}
    (h : Interpreter.make allocate s = .error e) (hunexpected : e.isExpected = false) :
    e = .tooManyDigits ∧ SizeEscapes allocate s.tapeSize := by
  unfold Interpreter.make at h
  cases htape : Tape.ofSetting allocate s.tapeSize with
  | ok tape =>
      rw [htape] at h
      cases h
  | error e' =>
      rw [htape] at h
      cases h
      rcases ofSetting_error htape with ⟨m, hm, rfl⟩
      rw [isExpected_ofMisconfiguration] at hunexpected
      refine ⟨?_, hm ▸ hunexpected, ?_⟩
      · rw [Error.ofMisconfiguration, hunexpected]
        rfl
      · intro tape hok
        rw [htape] at hok
        cases hok

/-- The header of a program fails only because of a size. -/
theorem isExpected_of_header {s : Settings} {source : List Char} {e : Error}
    (h : (s.applyHeader source).failure = some e) : e.isExpected = true := by
  rw [s.applyHeader_eq] at h
  by_cases hsizes : SizesSpelled (sourcePieces source)
  · rw [s.applyPieces_of_spelled hsizes] at h
    cases h
  · rcases exists_unspelled hsizes with ⟨good, piece, rest, hpieces, hgood, hsize, hnone⟩
    rw [hpieces, s.applyPieces_of_unspelled hgood hsize hnone] at h
    cases h
    rfl

namespace Opening

/-- The opening of a program gives a new interpreter, or fails.  A failure that the user is
not told about has one of the given reasons. -/
def Gives (allocate : Allocator) (reason : Error -> Prop) : Opening -> Prop
  | .failed _ _ e => e.isExpected = false -> reason e
  | .opened itp _ _ => exists s, Interpreter.make allocate s = .ok itp

theorem gives_ofSource {allocate : Allocator} {reason : Error -> Prop} {s : Settings}
    (h : SizeEscapes allocate s.tapeSize -> reason .tooManyDigits) (log : List Log.Entry)
    (source : List Char) : (ofSource allocate s log source).Gives allocate reason := by
  rw [ofSource]
  cases hmake : Interpreter.make allocate s with
  | error e =>
      intro hunexpected
      rcases sizeEscapes_of_make hmake hunexpected with ⟨rfl, hsize⟩
      exact h hsize
  | ok itp =>
      exact ⟨s, hmake⟩

end Opening

/-- A new interpreter starts every run, and only faults of the language stop it. -/
theorem isExpected_of_run {allocate : Allocator} {s : Settings} {itp : Interpreter}
    (h : Interpreter.make allocate s = .ok itp) (fuel : Nat) (source : List Char)
    (input : Input) :
    exists ended, itp.run fuel source input = .ok ended ∧
      forall r f, ended = some r -> r.result = .error f -> f.toError.isExpected = true := by
  rcases Interpreter.setup?_of_make h with ⟨setup, hsetup, hlimit, _⟩
  have hstarts : exists ended, itp.run fuel source input = .ok ended := by
    rw [Interpreter.run, hsetup]
    exact ⟨_, rfl⟩
  rcases hstarts with ⟨ended, hrun⟩
  refine ⟨ended, hrun, ?_⟩
  intro r f hr hf
  cases f with
  | outOfTape p size =>
      -- The limit is the size of the tape, so the pointer cannot have left it.
      have hleaves : itp.LeavesTape source input := ⟨fuel, r, p, size, hr ▸ hrun, hf⟩
      refine absurd hleaves (Interpreter.not_leavesTape hsetup (Interpreter.of_make h).1 ?_ ?_ _ _)
      · exact Int.le_of_eq hlimit
      · intro _
        have hpos := itp.tape.size_pos
        rw [hlimit]
        change 1 - (itp.tape.cells.size : Int) ≤ itp.tape.cells.size
        omega
  | _ =>
      rfl

namespace Cli

/-!
## Exits
-/

/-- The settings that a program is opened with once the command line is settled: a program
file may change them by its header. -/
def Reaches (world : World) (a : Arguments) (c : Console) (s reached : Settings) : Prop :=
  (a.interpret = true ∧ reached = s) ∨
    (a.interpret = false ∧ exists source,
      readProgram ((c.settled s).files world.files) a.input = .ok source ∧
        (s.applyHeader source).failure = none ∧ reached = (s.applyHeader source).settings)

/-- What the command does not tell the user: the log file cannot be written, the options
file cannot be used, the settings cannot be copied, the program file is no text, or the
size of the tape is refused and has too many digits. -/
inductive Escapes (world : World) (a : Arguments) : Error -> Prop where
  | logFile {path : String} {e : Error} (hlog : a.logFile = .text path)
      (hpath : path.isEmpty = false) (hplace : placeLog world.files path = .error e) :
      Escapes world a e
  | options {c : Console} {path : String} {e : Error} (hopen : openConsole world a = .ok c)
      (hconfig : a.config = .text path) (hpath : path.isEmpty = false)
      (hload : LoadEscapes world.host.load (c.started.files world.files)
        (Path.ofString path) e) :
      Escapes world a e
  | copy {c : Console} {s : Settings} (hopen : openConsole world a = .ok c)
      (hsettle : settle world.host.load (c.started.files world.files) world.sizeText a = .ok s)
      (hcopies : world.host.copiesAll s = false) :
      Escapes world a .tooDeep
  | program {c : Console} {s : Settings} {e : Error} (hopen : openConsole world a = .ok c)
      (hsettle : settle world.host.load (c.started.files world.files) world.sizeText a = .ok s)
      (hcopies : world.host.copiesAll s = true) (hfile : a.interpret = false)
      (hname : (Path.ofString a.input).isProgram = true)
      (hread : TextEscapes ((c.settled s).files world.files) (Path.ofString a.input) e) :
      Escapes world a e
  | size {c : Console} {s reached : Settings} (hopen : openConsole world a = .ok c)
      (hsettle : settle world.host.load (c.started.files world.files) world.sizeText a = .ok s)
      (hcopies : world.host.copiesAll s = true) (hreaches : Reaches world a c s reached)
      (hsize : SizeEscapes world.host.allocate reached.tapeSize) :
      Escapes world a .tooManyDigits

/-- The program of a command finishes. -/
def Finishes (fuel : Nat) (world : World) (a : Arguments) (input : Input) : Prop :=
  exists c itp source r n, prepareWith world a = .ready c itp source ∧
    itp.run fuel source input = .ok (some r) ∧ r.result = .ok n

/-- The line that tells the user about an error. -/
def errorLine (e : Error) : String :=
  Console.alarmStart ++ "Error: " ++ e.message ++ Console.alarmEnd ++ "\n"

/-- The command returns one, and its last words tell about an error. -/
def Outcome.Tells (o : Outcome) : Prop :=
  o.exit = .returned 1 ∧
    exists e before, e.isExpected = true ∧ o.errors = before ++ errorLine e

theorem tells_fail (world : World) (c : Console) (output : String) {e : Error}
    (h : e.isExpected = true) : (fail world c output e).Tells := by
  rw [fail, if_pos h]
  refine ⟨rfl, e, c.errors, h, ?_⟩
  simp only [Console.complain, errorLine, String.append_assoc]

theorem exit_fail (world : World) (c : Console) (output : String) {e : Error}
    (h : e.isExpected = false) : (fail world c output e).exit = .ended e := by
  rw [fail, h]
  rfl

/-- The command ends without a run for a reason that is told or escapes, or it runs a new
interpreter. -/
def Preparation.Sound (world : World) (a : Arguments) : Preparation -> Prop
  | .over o => o.Tells ∨ exists e, o.exit = .ended e ∧ Escapes world a e
  | .ready _ itp _ => exists s, Interpreter.make world.host.allocate s = .ok itp

theorem sound_fail {world : World} {a : Arguments} {e : Error}
    (h : e.isExpected = false -> Escapes world a e) (c : Console) (output : String) :
    (Preparation.over (fail world c output e)).Sound world a := by
  cases hexpected : e.isExpected with
  | true =>
      exact Or.inl (tells_fail world c output hexpected)
  | false =>
      exact Or.inr ⟨e, exit_fail world c output hexpected, h hexpected⟩

theorem sound_ofOpening {world : World} {a : Arguments} {opening : Opening}
    (h : opening.Gives world.host.allocate (Escapes world a)) (c : Console) :
    (Preparation.ofOpening world c opening).Sound world a := by
  cases opening with
  | failed settings log e =>
      exact sound_fail h (c.emitAll log) ""
  | opened itp log source =>
      exact h

theorem openConsole_error_iff {world : World} {a : Arguments} {e : Error} :
    openConsole world a = .error e <->
      exists path, a.logFile = .text path ∧ path.isEmpty = false ∧
        placeLog world.files path = .error e := by
  unfold openConsole
  constructor
  · intro h
    simp only at h
    split at h
    · rename_i path hlog
      split at h
      · cases h
      · refine ⟨path, hlog, Bool.not_eq_true _ ▸ ‹¬ _›, ?_⟩
        cases hplace : placeLog world.files path with
        | ok place =>
            rw [hplace] at h
            cases h
        | error e' =>
            rw [hplace] at h
            cases h
            rfl
    · cases h
  · rintro ⟨path, hlog, hpath, hplace⟩
    simp only [hlog, hpath, hplace]
    rfl

theorem settle_error {world : World} {a : Arguments} {c : Console}
    (hopen : openConsole world a = .ok c) {e : Error}
    (h : settle world.host.load (c.started.files world.files) world.sizeText a = .error e)
    (hunexpected : e.isExpected = false) : Escapes world a e := by
  have htold := Bool.eq_false_iff.mp hunexpected
  unfold settle at h
  cases hbase : baseSettings world.host.load (c.started.files world.files) world.sizeText
      a.config with
  | ok base =>
      rw [hbase] at h
      cases h
  | error e' =>
      rw [hbase] at h
      cases h
      unfold baseSettings at hbase
      split at hbase
      · split at hbase
        · exact absurd (Settings.initial_error hbase) htold
        · exact .options hopen ‹_› (Bool.not_eq_true _ ▸ ‹¬ _›)
            ((loadEscapes_iff world.sizeText).mpr ⟨hbase, hunexpected⟩)
      · exact absurd (Settings.initial_error hbase) htold

theorem prepareWith_of_settle_error {world : World} {a : Arguments} {c : Console} {e : Error}
    (hopen : openConsole world a = .ok c)
    (hsettle : settle world.host.load (c.started.files world.files) world.sizeText a =
      .error e) :
    prepareWith world a = .over (fail world c.started "" e) := by
  rw [Console.started] at hsettle
  unfold prepareWith
  simp only [hopen, hsettle]
  rfl

/-- The opening of the program of a command whose settings are settled. -/
def openingOf (world : World) (a : Arguments) (c : Console) (s : Settings) : Opening :=
  if a.interpret then Opening.ofSource world.host.allocate s [] a.input.toList
  else Opening.ofFile world.host.allocate ((c.settled s).files world.files) world.sizeText
    (some s) a.input

theorem prepareSettled_of_copies {world : World} {s : Settings}
    (h : world.host.copiesAll s = true) (a : Arguments) (c : Console) :
    prepareSettled world a c.started s =
      .ofOpening world (c.settled s) (openingOf world a c s) := by
  rw [prepareSettled, if_pos h]
  rfl

theorem prepareSettled_of_not_copies {world : World} {s : Settings}
    (h : world.host.copiesAll s = false) (a : Arguments) (c : Console) :
    prepareSettled world a c s = .over (fail world c "" .tooDeep) := by
  rw [prepareSettled, h, if_neg Bool.false_ne_true]

theorem openingOf_of_reaches {world : World} {a : Arguments} {c : Console}
    {s reached : Settings} (h : Reaches world a c s reached) :
    exists log source,
      openingOf world a c s = Opening.ofSource world.host.allocate reached log source := by
  unfold openingOf
  rcases h with ⟨htext, rfl⟩ | ⟨hfile, source, hread, hfailure, rfl⟩
  · rw [if_pos htext]
    exact ⟨_, _, rfl⟩
  · rw [hfile, if_neg Bool.false_ne_true]
    unfold Opening.ofFile
    simp only [hread, Settings.orInitial, hfailure]
    exact ⟨_, _, rfl⟩

theorem gives_openingOf {world : World} {a : Arguments} {c : Console} {s : Settings}
    (hopen : openConsole world a = .ok c)
    (hsettle : settle world.host.load (c.started.files world.files) world.sizeText a = .ok s)
    (hcopies : world.host.copiesAll s = true) :
    (openingOf world a c s).Gives world.host.allocate (Escapes world a) := by
  unfold openingOf
  cases hfile : a.interpret with
  | true =>
      exact Opening.gives_ofSource
        (fun hsize => .size hopen hsettle hcopies (Or.inl ⟨hfile, rfl⟩) hsize) _ _
  | false =>
      rw [if_neg Bool.false_ne_true]
      unfold Opening.ofFile
      cases hread : readProgram ((c.settled s).files world.files) a.input with
      | error e =>
          intro hunexpected
          unfold readProgram at hread
          dsimp only at hread
          split at hread
          · exact .program hopen hsettle hcopies hfile ‹_›
              (textEscapes_iff.mpr ⟨hread, hunexpected⟩)
          · cases hread
            cases hunexpected
      | ok source =>
          simp only [Settings.orInitial]
          cases hfailure : (s.applyHeader source).failure with
          | some e =>
              intro hunexpected
              exact absurd (isExpected_of_header hfailure) (Bool.eq_false_iff.mp hunexpected)
          | none =>
              exact Opening.gives_ofSource (fun hsize => .size hopen hsettle hcopies
                (Or.inr ⟨hfile, source, hread, hfailure, rfl⟩) hsize) _ _

theorem prepareWith_sound (world : World) (a : Arguments) :
    (prepareWith world a).Sound world a := by
  cases hopen : openConsole world a with
  | error e =>
      rcases openConsole_error_iff.mp hopen with ⟨path, hlog, hpath, hplace⟩
      rw [prepareWith, hopen]
      exact Or.inr ⟨e, rfl, .logFile hlog hpath hplace⟩
  | ok c =>
      cases hsettle : settle world.host.load (c.started.files world.files) world.sizeText a with
      | error e =>
          rw [prepareWith_of_settle_error hopen hsettle]
          exact sound_fail (settle_error hopen hsettle) c.started ""
      | ok s =>
          rw [prepareWith_of_settle hopen hsettle]
          cases hcopies : world.host.copiesAll s with
          | false =>
              rw [prepareSettled_of_not_copies hcopies]
              exact sound_fail (fun _ => .copy hopen hsettle hcopies) c.started ""
          | true =>
              rw [prepareSettled_of_copies hcopies]
              exact sound_ofOpening (gives_openingOf hopen hsettle hcopies) (c.settled s)

/-- What escapes ends the command. -/
theorem prepareWith_of_escapes {world : World} {a : Arguments} {e : Error}
    (h : Escapes world a e) :
    exists o, prepareWith world a = .over o ∧ o.exit = .ended e := by
  cases h with
  | @logFile path e hlog hpath hplace =>
      rw [prepareWith, openConsole_error_iff.mpr ⟨path, hlog, hpath, hplace⟩]
      exact ⟨_, rfl, rfl⟩
  | @options c path e hopen hconfig hpath hload =>
      rcases (loadEscapes_iff world.sizeText).mp hload with ⟨hfails, hunexpected⟩
      have hsettle : settle world.host.load (c.started.files world.files) world.sizeText a =
          .error e := by
        rw [settle, hconfig, baseSettings, hpath, if_neg Bool.false_ne_true, hfails]
        rfl
      rw [prepareWith_of_settle_error hopen hsettle]
      exact ⟨_, rfl, exit_fail world c.started "" hunexpected⟩
  | @copy c s hopen hsettle hcopies =>
      rw [prepareWith_of_settle hopen hsettle, prepareSettled_of_not_copies hcopies]
      exact ⟨_, rfl, exit_fail world c.started "" rfl⟩
  | @program c s e hopen hsettle hcopies hfile hname hread =>
      rcases textEscapes_iff.mp hread with ⟨hfails, hunexpected⟩
      have hprogram : readProgram ((c.settled s).files world.files) a.input = .error e := by
        rw [readProgram, if_pos hname, hfails]
      have hopening : openingOf world a c s = .failed (some s) [] e := by
        rw [openingOf, hfile, if_neg Bool.false_ne_true]
        unfold Opening.ofFile
        rw [hprogram]
      rw [prepareWith_of_settle hopen hsettle, prepareSettled_of_copies hcopies, hopening]
      exact ⟨_, rfl, exit_fail world (c.settled s) "" hunexpected⟩
  | @size c s reached hopen hsettle hcopies hreaches hsize =>
      rcases openingOf_of_reaches hreaches with ⟨log, source, hopening⟩
      rw [prepareWith_of_settle hopen hsettle, prepareSettled_of_copies hcopies, hopening,
        Opening.ofSource, make_of_sizeEscapes hsize]
      exact ⟨_, rfl, exit_fail world ((c.settled s).emitAll log) "" rfl⟩

/-- Every command that ends returns zero because its program finished, tells the user
about an error, or is ended by one that escapes. -/
theorem run_cases {fuel : Nat} {world : World} {argv : List String} {input : Input}
    {a : Arguments} {o : Outcome} (hargs : Arguments.ofList argv = .ok a)
    (hrun : run fuel world argv input = some o) :
    (o.exit = .returned 0 ∧ Finishes fuel world a input) ∨
      (¬ Finishes fuel world a input ∧
        (o.Tells ∨ exists e, o.exit = .ended e ∧ Escapes world a e)) := by
  have hsound := prepareWith_sound world a
  rw [run, prepare_of_arguments hargs] at hrun
  rcases hprepare : prepareWith world a with o' | ⟨c, itp, source⟩
  · rw [hprepare] at hrun hsound
    cases hrun
    refine Or.inr ⟨?_, hsound⟩
    rintro ⟨c, itp, source, r, n, hready, _⟩
    rw [hprepare] at hready
    cases hready
  · rw [hprepare] at hrun hsound
    -- The interpreter is new, so the run starts and only the language can stop it.
    rcases hsound with ⟨s, hmake⟩
    rcases isExpected_of_run hmake fuel source input with ⟨ended, hended, hfault⟩
    simp only [hended] at hrun
    cases ended with
    | none =>
        cases hrun
    | some r =>
        cases hrun
        cases hresult : r.result with
        | ok n =>
            refine Or.inl ⟨?_, c, itp, source, r, n, hprepare, hended, hresult⟩
            rw [conclude, hresult]
        | error f =>
            refine Or.inr ⟨?_, Or.inl ?_⟩
            · rintro ⟨c', itp', source', r', n, hready, hended', hresult'⟩
              rw [hprepare] at hready
              cases hready
              rw [hended] at hended'
              cases hended'
              rw [hresult] at hresult'
              cases hresult'
            · rw [conclude, hresult]
              exact tells_fail world _ r.output (hfault r f rfl hresult)

theorem exit_of_escapes {fuel : Nat} {world : World} {argv : List String} {input : Input}
    {a : Arguments} {o : Outcome} (hargs : Arguments.ofList argv = .ok a)
    (hrun : run fuel world argv input = some o) {e : Error} (h : Escapes world a e) :
    o.exit = .ended e := by
  rcases prepareWith_of_escapes h with ⟨o', hprepare, hexit⟩
  rw [run, prepare_of_arguments hargs, hprepare] at hrun
  cases hrun
  exact hexit

/-- The command returns zero exactly if its program finished.  It is ended by an error
exactly if the log file cannot be written, the options file has no document that loads or
names options by values that are no texts, the settings cannot be copied, the program file
is no text or has the null character in its path, or the tape is refused for a size that
has too many digits.  In all other cases it returns one and tells the user about an error,
as its last words.  So a run never leaves its tape here. -/
theorem run_exits (fuel : Nat) (world : World) (argv : List String) (input : Input)
    (a : Arguments) (o : Outcome) (hargs : Arguments.ofList argv = .ok a)
    (hrun : run fuel world argv input = some o) :
    (o.exit = .returned 0 <-> Finishes fuel world a input) ∧
      (forall e, o.exit = .ended e <-> Escapes world a e) ∧
      (o.exit = .returned 0 ∨ o.Tells ∨ exists e, o.exit = .ended e) := by
  rcases run_cases hargs hrun with ⟨hzero, hfinishes⟩ | ⟨hfinishes, htells | ⟨e, hended, hescapes⟩⟩
  · refine ⟨iff_of_true hzero hfinishes, ?_, Or.inl hzero⟩
    intro e
    refine ⟨?_, exit_of_escapes hargs hrun⟩
    rw [hzero]
    nofun
  · refine ⟨iff_of_false ?_ hfinishes, ?_, Or.inr (Or.inl htells)⟩
    · rw [htells.1]
      nofun
    · intro e
      refine ⟨?_, exit_of_escapes hargs hrun⟩
      rw [htells.1]
      nofun
  · refine ⟨iff_of_false ?_ hfinishes, ?_, Or.inr (Or.inr ⟨e, hended⟩)⟩
    · rw [hended]
      nofun
    · intro e'
      refine ⟨?_, exit_of_escapes hargs hrun⟩
      intro hended'
      rw [hended] at hended'
      cases hended'
      exact hescapes

/-- A world with an options file that is no text. -/
def garbledWorld : World where
  host := standardHost
  files := { entries := [(["o"], .file [0xff])] }

theorem escapes_garbledWorld :
    Escapes garbledWorld { interpret := true, config := .text "o", input := "+" }
      (.document .undecodable) := by
  let c : Console := { level := .warning, clock := garbledWorld.clock }
  have hcontent : readBytes (c.started.files garbledWorld.files) (Path.ofString "o") =
      .ok [0xff] := by
    rw [Console.files_of_none c.logFile_started]
    rfl
  exact .options (c := c) rfl rfl rfl (.document hcontent rfl)

theorem run_exits_undecodable_options :
    exists a o, Arguments.ofList ["-co", "-i", "+"] = .ok a ∧
      run 2 garbledWorld ["-co", "-i", "+"] { rest := [] } = some o ∧
      o.exit = .ended (.document .undecodable) ∧ ¬ Finishes 2 garbledWorld a { rest := [] } := by
  let a : Arguments := { interpret := true, config := .text "o", input := "+" }
  have hargs : Arguments.ofList ["-co", "-i", "+"] = .ok a := by rfl
  rcases prepareWith_of_escapes escapes_garbledWorld with ⟨o, hprepare, _⟩
  have hrun : run 2 garbledWorld ["-co", "-i", "+"] { rest := [] } = some o := by
    rw [run, prepare_of_arguments hargs, hprepare]
  rcases run_exits 2 garbledWorld _ _ a o hargs hrun with ⟨hzero, hended, _⟩
  have hexit := (hended (.document .undecodable)).mpr escapes_garbledWorld
  refine ⟨a, o, hargs, hrun, hexit, ?_⟩
  rw [← hzero, hexit]
  nofun

/-- Not every command that is understood returns a status. -/
theorem run_ended_without_place :
    ¬ forall fuel world argv input a o, Arguments.ofList argv = .ok a ->
      run fuel world argv input = some o -> o.exit = .returned 0 ∨ o.exit = .returned 1 := by
  intro h
  let world : World := { host := standardHost }
  let a : Arguments := { interpret := true, logFile := .text "d/x", input := "+" }
  have hargs : Arguments.ofList ["--log-file", "d/x", "-i", "+"] = .ok a := by rfl
  have hescapes : Escapes world a (.file ⟨.missing, "/d/x"⟩) := .logFile rfl rfl rfl
  rcases prepareWith_of_escapes hescapes with ⟨o, hprepare, hexit⟩
  have hrun : run 2 world ["--log-file", "d/x", "-i", "+"] { rest := [] } = some o := by
    rw [run, prepare_of_arguments hargs, hprepare]
  rcases h 2 world _ _ a o hargs hrun with hzero | hone
  · rw [hexit] at hzero
    cases hzero
  · rw [hexit] at hone
    cases hone

end Cli
end TapeMachine
