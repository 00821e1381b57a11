import TapeMachine.Proofs.Cli.Exits

/-!
# Unknown options

A mapping that names an unknown option is refused, whatever the environment says.  If
all its unknown keys are texts, the refusal is an error of the configuration that
lists each of them once, in the order of their code points.  Keys that are no texts
cannot be listed, and then the refusal is not an error of the configuration.  All that
is asked of a mapping is that it has no key twice, as those that `Yaml.load` gives.
-/

namespace TapeMachine

/-!
## Keys of a mapping
-/

/-- No two entries have the same key. -/
def DistinctKeys (entries : List (Value × Value)) : Prop :=
  entries.Pairwise fun a b => a.1.sameKey b.1 = false

theorem Value.key_of_mem_insertEntry {key value : Value} {entries : List (Value × Value)}
    {entry : Value × Value} (h : entry ∈ insertEntry key value entries) :
    entry.1 = key ∨ exists other, other ∈ entries ∧ other.1 = entry.1 := by
  induction entries with
  | nil =>
      rw [List.mem_singleton.mp h]
      exact Or.inl rfl
  | cons first rest ih =>
      rw [insertEntry] at h
      split at h
      · rcases List.mem_cons.mp h with rfl | hrest
        · exact Or.inr ⟨first, List.mem_cons_self, rfl⟩
        · exact Or.inr ⟨entry, List.mem_cons_of_mem first hrest, rfl⟩
      · rcases List.mem_cons.mp h with rfl | hrest
        · exact Or.inr ⟨first, List.mem_cons_self, rfl⟩
        · rcases ih hrest with hkey | ⟨other, hother, hkey⟩
          · exact Or.inl hkey
          · exact Or.inr ⟨other, List.mem_cons_of_mem first hother, hkey⟩

theorem DistinctKeys.insertEntry {entries : List (Value × Value)} (h : DistinctKeys entries)
    (key value : Value) : DistinctKeys (Value.insertEntry key value entries) := by
  induction entries with
  | nil =>
      exact List.pairwise_singleton _ _
  | cons first rest ih =>
      rcases List.pairwise_cons.mp h with ⟨hfirst, hrest⟩
      rw [Value.insertEntry]
      split
      · exact List.pairwise_cons.mpr ⟨hfirst, hrest⟩
      · rename_i hother
        refine List.pairwise_cons.mpr ⟨?_, ih hrest⟩
        intro entry hentry
        rcases Value.key_of_mem_insertEntry hentry with hkey | ⟨other, hmem, hkey⟩
        · rw [hkey]
          exact Bool.not_eq_true _ ▸ hother
        · rw [← hkey]
          exact hfirst other hmem

theorem distinctKeys_foldl (entries : List (Value × Value)) {before : List (Value × Value)}
    (h : DistinctKeys before) :
    DistinctKeys (entries.foldl (fun es (k, v) => Value.insertEntry k v es) before) := by
  induction entries generalizing before with
  | nil =>
      exact h
  | cons entry rest ih =>
      exact ih (h.insertEntry entry.1 entry.2)

theorem Yaml.distinctKeys_mappingOf (entries : List (Value × Value)) :
    DistinctKeys (mappingOf entries) :=
  distinctKeys_foldl entries List.Pairwise.nil

namespace Yaml

theorem scalarValue_ne_dict (tag : Tag) (points : List Nat) (entries : List (Value × Value)) :
    scalarValue tag points ≠ .ok (.dict entries) := by
  intro h
  cases tag with
  | bool =>
      unfold scalarValue boolOf at h
      simp only at h
      split at h
      · cases h
      · split at h <;> cases h
  | int =>
      unfold scalarValue intOf at h
      rcases hint : unsignedInt (dropSign ((spelling points).filter (· != '_'))) with e | n
      · simp only [hint] at h
        cases h
      · simp only [hint] at h
        cases h
  | float =>
      unfold scalarValue floatOf at h
      simp only at h
      split at h <;> cases h
  | timestamp =>
      unfold scalarValue dateOf at h
      simp only at h
      split at h
      · cases h
      · split at h <;> cases h
      · split at h <;> cases h
  | text =>
      unfold scalarValue textOf at h
      simp only at h
      split at h <;> cases h
  | binary =>
      unfold scalarValue bytesOf at h
      simp only at h
      split at h <;> cases h
  | _ =>
      cases h

theorem sequence_ne_dict (tag : Tag) (items : List Node) (entries : List (Value × Value)) :
    (Node.sequence tag items).value ≠ .ok (.dict entries) := by
  intro h
  rw [Node.value] at h
  split at h
  · rcases hpairs : pairValues items with e | values
    · rw [hpairs] at h
      cases h
    · rw [hpairs] at h
      cases h
  · rcases hitems : itemValues items with e | values
    · rw [hitems] at h
      cases h
    · rw [hitems] at h
      change (if tag = .sequence then Except.ok (Value.list values) else _) = _ at h
      split at h <;> cases h

theorem distinctKeys_of_value {n : Node} {entries : List (Value × Value)}
    (h : n.value = .ok (.dict entries)) : DistinctKeys entries := by
  cases n with
  | scalar tag points =>
      rw [Node.value] at h
      exact absurd h (scalarValue_ne_dict tag points entries)
  | again mapping =>
      rw [Node.value] at h
      cases h
  | sequence tag items =>
      exact absurd h (sequence_ne_dict tag items entries)
  | mapping tag nodes =>
      rw [Node.value] at h
      split at h
      · -- A mapping whose tag is that of a scalar stands for one.
        split at h
        · exact absurd h (scalarValue_ne_dict tag _ entries)
        · cases h
      · rcases hnodes : entryValues nodes with e | ⟨merged, own⟩
        · rw [hnodes] at h
          cases h
        · rw [hnodes] at h
          change entriesValue tag (merged ++ own) = _ at h
          unfold entriesValue at h
          split at h
          · cases h
            exact distinctKeys_mappingOf (merged ++ own)
          · cases h
          · cases h

/-- The mapping of a document has no key twice. -/
theorem distinctKeys_of_load {content : List UInt8} {entries : List (Value × Value)}
    (h : load content = .ok (.dict entries)) : DistinctKeys entries := by
  unfold load at h
  cases htext : Files.Store.textOf? content with
  | none =>
      rw [htext] at h
      cases h
  | some text =>
      simp only [htext, loadText] at h
      cases hnode : Node.ofChars? text with
      | error e =>
          rw [hnode] at h
          cases h
      | ok found =>
          rw [hnode] at h
          cases found with
          | none =>
              cases h
          | some n =>
              exact distinctKeys_of_value h

end Yaml

/-!
## Refusals
-/

/-- How a mapping with these unknown keys is refused.  The keys are listed if they are
all texts, each once and in the order of their code points; otherwise one that is no text
is blamed, or two are left without an order. -/
inductive Refuses (keys : List Value) : Error -> Prop where
  | listed {names : List (List Nat)} :
      (forall k, k ∈ keys -> exists points, k.points? = some points) ->
      names.Pairwise (List.Lex (· < ·)) ->
      (forall points, points ∈ names <-> exists k, k ∈ keys ∧ k.points? = some points) ->
      Refuses keys (.configuration (.unknownOptions names))
  | blamed {k : Value} :
      k ∈ keys ->
      k.points? = none ->
      Refuses keys (.nameNotText k.kind)
  | unordered {k k' : Value} :
      k ∈ keys ->
      k' ∈ keys ->
      k.isComparable k' = false ->
      Refuses keys .namesUnordered

theorem isSurrogate_toNat (c : Char) : Text.isSurrogate c.toNat = false := by
  have hvalid : c.toNat < 0xD800 ∨ 0xDFFF < c.toNat ∧ c.toNat < 0x110000 := c.valid
  rw [Text.isSurrogate, Bool.and_eq_false_iff, decide_eq_false_iff_not, decide_eq_false_iff_not]
  omega

theorem any_isSurrogate_points (s : String) : (Text.points s).any Text.isSurrogate = false := by
  rw [Text.points, List.any_map, List.any_eq_false]
  intro c _
  simp [isSurrogate_toNat]

theorem points_injective {s s' : String} (h : Text.points s = Text.points s') : s = s' := by
  have hchars : s.toList = s'.toList :=
    List.map_inj_right (fun _ _ hc => Char.toNat_inj.mp hc) |>.mp h
  exact String.toList_inj.mp hchars

namespace Value

/-- Texts with the same code points are the same key. -/
theorem sameKey_of_points? {k k' : Value} {points : List Nat} (h : k.points? = some points)
    (h' : k'.points? = some points) : k.sameKey k' = true := by
  cases k with
  | text s =>
      cases k' with
      | text s' =>
          have hs : s = s' := points_injective (Option.some.inj (h.trans h'.symm))
          change (s == s') = true
          rw [hs, beq_self_eq_true]
      | broken t =>
          have hpoints : Text.points s = t.points := Option.some.inj (h.trans h'.symm)
          have hwhole := any_isSurrogate_points s
          rw [hpoints, t.broken] at hwhole
          cases hwhole
      | _ =>
          cases h'
  | broken t =>
      cases k' with
      | text s =>
          have hpoints : t.points = Text.points s := Option.some.inj (h.trans h'.symm)
          have hbroken := t.broken
          rw [hpoints, any_isSurrogate_points] at hbroken
          cases hbroken
      | broken t' =>
          have hpoints : t.points = t'.points := Option.some.inj (h.trans h'.symm)
          have ht : t = t' := by
            cases t
            cases t'
            cases hpoints
            rfl
          change (t == t') = true
          rw [ht, beq_self_eq_true]
      | _ =>
          cases h'
  | _ =>
      cases h

theorem isSome_points?_iff {v : Value} : v.points?.isSome = true <-> v.kind = "str" := by
  cases v with
  | endless mapping =>
      cases mapping <;> simp [points?, kind]
  | _ =>
      simp [points?, kind]

theorem kind_eq_of_isComparable {k v : Value} (hv : v.isNumber = false)
    (h : k.isComparable v = true) : k.kind = v.kind := by
  unfold isComparable at h
  split at h
  · rfl
  · rw [hv, Bool.and_false, Bool.false_or] at h
    exact beq_iff_eq.mp h

theorem isNumber_of_points? {v : Value} (h : v.points?.isSome = true) : v.isNumber = false := by
  cases v <;> first | rfl | cases h

end Value

theorem lex_eq_true_iff {a b : List Nat} : List.lex a b = true <-> List.Lex (· < ·) a b := by
  simp

theorem not_lex_eq_true_iff {a b : List Nat} :
    (!List.lex b a) = true <-> ¬ List.Lex (· < ·) b a := by
  rw [Bool.not_eq_true', ← lex_eq_true_iff, Bool.not_eq_true]

theorem pairwise_lex_mergeSort {names : List (List Nat)} (h : names.Nodup) :
    (names.mergeSort fun a b => !List.lex b a).Pairwise (List.Lex (· < ·)) := by
  have htrans : forall a b c : List Nat, (!List.lex b a) = true -> (!List.lex c b) = true ->
      (!List.lex c a) = true := by
    intro a b c hab hbc
    rw [not_lex_eq_true_iff] at hab hbc ⊢
    exact List.le_trans (α := Nat) hab hbc
  have htotal : forall a b : List Nat, (!List.lex b a || !List.lex a b) = true := by
    intro a b
    rw [Bool.or_eq_true, not_lex_eq_true_iff, not_lex_eq_true_iff]
    exact List.le_total (α := Nat) a b
  have hsorted := List.pairwise_mergeSort htrans htotal names
  have hdistinct := (List.mergeSort_perm names fun a b => !List.lex b a).nodup_iff.mpr h
  refine hsorted.imp₂ ?_ hdistinct
  intro a b hle hne
  rw [not_lex_eq_true_iff] at hle
  apply Classical.byContradiction
  intro hge
  exact hne (List.le_antisymm (α := Nat) hle hge)

namespace Settings

theorem least_mem (v : Value) (rest : List Value) : least v rest ∈ v :: rest := by
  induction rest generalizing v with
  | nil =>
      exact List.mem_singleton.mpr rfl
  | cons w rest ih =>
      rw [least]
      by_cases hless : numberLess w v = true
      · rw [if_pos hless]
        exact List.mem_cons_of_mem v (ih w)
      · rw [if_neg hless]
        rcases List.mem_cons.mp (ih v) with hv | hrest
        · rw [hv]
          exact List.mem_cons_self
        · exact List.mem_cons_of_mem v (List.mem_cons_of_mem w hrest)

theorem nodup_points {keys : List Value}
    (h : keys.Pairwise fun a b => a.sameKey b = false) :
    (keys.filterMap Value.points?).Nodup := by
  refine List.pairwise_filterMap.mpr (h.imp ?_)
  intro k k' hdistinct points hk points' hk' heq
  rw [Value.sameKey_of_points? hk (heq ▸ hk')] at hdistinct
  cases hdistinct

theorem refuses_unknownNames {v : Value} {rest : List Value}
    (h : (v :: rest).Pairwise fun a b => a.sameKey b = false) :
    Refuses (v :: rest) (unknownNames v rest) := by
  unfold unknownNames
  simp only [beq_iff_eq, List.filterMap_length_eq_length]
  split
  · rename_i htexts
    refine .listed ?_ (pairwise_lex_mergeSort (nodup_points h)) ?_
    · intro k hk
      exact Option.isSome_iff_exists.mp (htexts k hk)
    · intro points
      rw [(List.mergeSort_perm _ _).mem_iff, List.mem_filterMap]
  · rename_i htexts
    split
    · rename_i hnumbers
      have hleast := least_mem v rest
      refine .blamed hleast (Option.not_isSome_iff_eq_none.mp ?_)
      intro hsome
      have hnumber := List.all_eq_true.mp hnumbers _ hleast
      rw [Value.isNumber_of_points? hsome] at hnumber
      cases hnumber
    · split
      · rename_i hordered
        refine .blamed List.mem_cons_self (Option.not_isSome_iff_eq_none.mp ?_)
        intro hsome
        -- If the first key were a text, all would be.
        apply htexts
        intro k hk
        have hkind := Value.kind_eq_of_isComparable (Value.isNumber_of_points? hsome)
          (List.all_eq_true.mp hordered k hk)
        rw [Value.isSome_points?_iff, hkind]
        exact Value.isSome_points?_iff.mp hsome
      · rename_i hordered
        rw [Bool.not_eq_true, List.all_eq_false] at hordered
        rcases hordered with ⟨k, hk, hpair⟩
        exact .unordered hk List.mem_cons_self (Bool.not_eq_true _ ▸ hpair)

theorem pairwise_unknownKeys {entries : List (Value × Value)} (h : DistinctKeys entries) :
    (unknownKeys entries).Pairwise fun a b => a.sameKey b = false := by
  have hall : (entries.map fun (k, _) => k).Pairwise fun a b => a.sameKey b = false :=
    List.pairwise_map.mpr h
  exact hall.sublist List.filter_sublist

theorem load_eq_ofEntries {load : Loader} {files : Files.Store} {pathText : String}
    {content : List UInt8} {entries : List (Value × Value)}
    (hcontent : readBytes files (Path.ofString pathText) = .ok content)
    (hload : load content = .ok (.dict entries)) (sizeText : Option String) :
    Settings.load load files sizeText pathText = ofEntries sizeText entries := by
  rw [load_of_content hcontent, hload]
  rfl

/-- A mapping with unknown keys is refused, as it is and as the document of an options file
whatever the loader, with one error that does not depend on the environment.  The user is
told about it exactly if all those keys are texts: then it is an error of the
configuration, with the keys in order in its message. -/
theorem unknown_names_refused (entries : List (Value × Value)) (hdistinct : DistinctKeys entries)
    (hunknown : unknownKeys entries ≠ []) :
    exists e, Refuses (unknownKeys entries) e ∧
      (forall sizeText, ofEntries sizeText entries = .error e) ∧
      (forall load files sizeText pathText content,
        readBytes files (Path.ofString pathText) = .ok content ->
        load content = .ok (.dict entries) ->
        Settings.load load files sizeText pathText = .error e) ∧
      (e.isExpected = true <->
        forall k, k ∈ unknownKeys entries -> exists points, k.points? = some points) ∧
      forall names, e = .configuration (.unknownOptions names) ->
        e.message = "Unknown option(s): " ++ ", ".intercalate (names.map Text.showPoints) := by
  have hkeys := pairwise_unknownKeys hdistinct
  cases hsplit : unknownKeys entries with
  | nil =>
      exact absurd hsplit hunknown
  | cons v rest =>
      rw [hsplit] at hkeys
      have hentries := ofEntries_of_unknown hsplit
      refine ⟨unknownNames v rest, refuses_unknownNames hkeys, hentries, ?_, ?_, ?_⟩
      · intro load files sizeText pathText content hcontent hload
        rw [load_eq_ofEntries hcontent hload, hentries]
      · simp only [isExpected_unknownNames, Option.isSome_iff_exists]
      · intro names hnames
        rw [hnames]
        rfl

def misspelled : List UInt8 :=
  "zeta: 1\ntape_size: 2\nalpha: 3\n".toList.map byteOfChar

def misspelledEntries : List (Value × Value) :=
  [(.text "zeta", .int 1), (.text "tape_size", .int 2), (.text "alpha", .int 3)]

def isMisspelled : Except Yaml.Error Value -> Bool
  | .ok (.dict [(.text "zeta", .int 1), (.text "tape_size", .int 2), (.text "alpha", .int 3)]) =>
      true
  | _ => false

theorem eq_of_isMisspelled {loaded : Except Yaml.Error Value} (h : isMisspelled loaded = true) :
    loaded = .ok (.dict misspelledEntries) := by
  unfold isMisspelled at h
  split at h
  · rfl
  · cases h

theorem load_misspelled : Yaml.load misspelled = .ok (.dict misspelledEntries) :=
  eq_of_isMisspelled (by decide +kernel)

theorem unknownNames_misspelled : unknownNames (.text "zeta") [.text "alpha"] =
    .configuration (.unknownOptions [Text.points "alpha", Text.points "zeta"]) := by
  have horder : List.lex (Text.points "alpha") (Text.points "zeta") = true := by decide
  change Error.configuration (.unknownOptions
    ([Text.points "zeta", Text.points "alpha"].mergeSort fun a b => !List.lex b a)) = _
  simp [List.mergeSort, List.MergeSort.Internal.splitInTwo, horder]

theorem unknown_names_refused_misspelled :
    exists e, Refuses [.text "zeta", .text "alpha"] e ∧
      Settings.load Yaml.load { entries := [(["o"], .file misspelled)] } (some "x") "o" =
        .error e ∧
      e = .configuration (.unknownOptions [Text.points "alpha", Text.points "zeta"]) ∧
      e.message = "Unknown option(s): alpha, zeta" := by
  rcases unknown_names_refused _ (Yaml.distinctKeys_of_load load_misspelled) (by nofun) with
    ⟨e, hrefuses, hentries, hfile, _, hmessage⟩
  have hkeys : unknownKeys misspelledEntries = [.text "zeta", .text "alpha"] := rfl
  have he : e = unknownNames (.text "zeta") [.text "alpha"] :=
    Except.error.inj ((hentries none).symm.trans (ofEntries_of_unknown hkeys none))
  rw [unknownNames_misspelled] at he
  refine ⟨e, hrefuses, hfile _ _ _ _ _ rfl load_misspelled, he, ?_⟩
  rw [hmessage _ he]
  rfl

def numbered : List UInt8 :=
  "1: 2\n".toList.map byteOfChar

def isNumbered : Except Yaml.Error Value -> Bool
  | .ok (.dict [(.int 1, .int 2)]) => true
  | _ => false

theorem eq_of_isNumbered {loaded : Except Yaml.Error Value} (h : isNumbered loaded = true) :
    loaded = .ok (.dict [(.int 1, .int 2)]) := by
  unfold isNumbered at h
  split at h
  · rfl
  · cases h

theorem load_numbered : Yaml.load numbered = .ok (.dict [(.int 1, .int 2)]) :=
  eq_of_isNumbered (by decide +kernel)

/-- Not every unknown option is an error of the configuration. -/
theorem load_number_as_name :
    ¬ forall load files sizeText pathText content entries,
      readBytes files (Path.ofString pathText) = .ok content ->
      load content = .ok (.dict entries) -> DistinctKeys entries -> unknownKeys entries ≠ [] ->
      exists cause, Settings.load load files sizeText pathText = .error (.configuration cause) := by
  intro h
  let files : Files.Store := { entries := [(["o"], .file numbered)] }
  have hcontent : readBytes files (Path.ofString "o") = .ok numbered := rfl
  rcases h Yaml.load files none "o" _ _ hcontent load_numbered
    (Yaml.distinctKeys_of_load load_numbered) nofun with ⟨cause, hcause⟩
  rw [load_eq_ofEntries hcontent load_numbered, ofEntries_of_unknown rfl] at hcause
  cases hcause

end Settings

end TapeMachine
