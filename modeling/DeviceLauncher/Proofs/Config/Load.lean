import DeviceLauncher.Config.Load
import DeviceLauncher.Proofs.Action
import DeviceLauncher.Proofs.Path
import DeviceLauncher.Proofs.Yaml.Reader

/-!
# Which configuration is loaded

`Chooses explicit e path required` says which file is to be loaded (`chooses_iff`), `IsRead reader
path bytes c` which configuration the bytes of a file are (`ofBytes_ok_iff`), and `HasYamlEnding`
which file names are taken for YAML (`isYamlSuffix_suffix_iff`). From these `load_spec` says what
loading gives: all settings have their defaults only if no file was asked for and the one of the
default name is not there, and nothing else is read than the file that was chosen. This holds for
every reader of YAML.
-/

namespace DeviceLauncher

namespace Config

open FileSystem
open DeviceLauncher.Action (OnlyLogs)

variable {reader : Yaml.Reader} {explicit : Option String} {e : Environment} {path : String}
  {required : Bool}

/-! ## Which file is chosen -/

/-- Whether a text is not given, or is empty. -/
def IsUnset (text : Option String) : Prop := ∀ path, text = some path → path = ""

/-- Which path is loaded, and whether a file has to be there. -/
inductive Chooses (explicit : Option String) (e : Environment) : String → Bool → Prop where
  | argument {path : String} : explicit = some path → path ≠ "" → Chooses explicit e path true
  | variable {path : String} : IsUnset explicit → e.get? fileVariable = some path → path ≠ "" →
      Chooses explicit e path true
  | default : IsUnset explicit → IsUnset (e.get? fileVariable) →
      Chooses explicit e defaultName false

theorem filter_eq_some_iff {text : Option String} :
    (text.filter fun path => !path.isEmpty) = some path ↔ text = some path ∧ path ≠ "" := by
  simp [Option.filter_eq_some_iff]

theorem filter_eq_none_iff {text : Option String} :
    (text.filter fun path => !path.isEmpty) = none ↔ IsUnset text := by
  simp [Option.filter_eq_none_iff, IsUnset]

/-- The choice is that of `choosePath`. -/
theorem chooses_iff : Chooses explicit e path required ↔ choosePath explicit e = (path, required) := by
  unfold choosePath Environment.given?
  constructor
  · rintro (⟨rfl, hne⟩ | ⟨hunset, hget, hne⟩ | ⟨hunset, hnone⟩)
    · rw [filter_eq_some_iff.2 ⟨rfl, hne⟩]
    · rw [filter_eq_none_iff.2 hunset, filter_eq_some_iff.2 ⟨hget, hne⟩]
    · rw [filter_eq_none_iff.2 hunset, filter_eq_none_iff.2 hnone]
  · intro h
    split at h
    · next p hp =>
      cases h
      obtain ⟨hexplicit, hne⟩ := filter_eq_some_iff.1 hp
      exact .argument hexplicit hne
    · next hunset =>
      rw [filter_eq_none_iff] at hunset
      split at h
      · next p hp =>
        cases h
        obtain ⟨hget, hne⟩ := filter_eq_some_iff.1 hp
        exact .variable hunset hget hne
      · next hnone =>
        cases h
        exact .default hunset (filter_eq_none_iff.1 hnone)

theorem exists_chooses (explicit : Option String) (e : Environment) :
    ∃ path required, Chooses explicit e path required := ⟨_, _, chooses_iff.2 rfl⟩

/-! ## What a file holds -/

/-- The document in the bytes of a file, whose text is UTF-8 and may have any line ends, for a
reader. -/
def IsDocument (reader : Yaml.Reader) (bytes : ByteArray) (document : Yaml.Document) : Prop :=
  ∃ text, String.fromUTF8? bytes = some text ∧
    reader (String.ofList (unifyLineEnds text.toList)) = .ok document

/-- Which configuration the bytes of a file at a path are: the mapping in them, or an empty one if
what is in them counts as nothing. -/
inductive IsRead (reader : Yaml.Reader) (path : String) (bytes : ByteArray) : Config → Prop where
  | mapping {document : Yaml.Document} {entries : List (Value × Value)} :
      IsDocument reader bytes document → document.knots.untie document.root = .map entries →
        IsRead reader path bytes ⟨entries, some path, document.knots⟩
  | nothing {document : Yaml.Document} :
      IsDocument reader bytes document → (document.knots.untie document.root).holds = false →
        (∀ entries, document.knots.untie document.root ≠ .map entries) →
          IsRead reader path bytes ⟨[], some path, []⟩

theorem ofBytes_ok_iff {bytes : ByteArray} {c : Config} :
    ofBytes reader path bytes = .ok c ↔ IsRead reader path bytes c := by
  unfold ofBytes
  constructor
  · intro h
    split at h
    · cases h
    next text htext =>
    split at h
    · cases h
    next document hdocument =>
    have hd : IsDocument reader bytes document := ⟨text, htext, hdocument⟩
    split at h
    · next entries hmap =>
      cases h
      exact .mapping hd hmap
    · next root hroot =>
      split at h
      · cases h
      · next hholds =>
        cases h
        exact .nothing hd (by simpa using hholds) hroot
  · rintro (⟨⟨text, htext, hdocument⟩, hmap⟩ | ⟨⟨text, htext, hdocument⟩, hholds, hroot⟩)
    · simp only [htext, hdocument, hmap]
    · simp only [htext, hdocument, hholds, Bool.false_eq_true, if_false]

theorem fromUTF8?_toUTF8 (text : String) : String.fromUTF8? text.toUTF8 = some text := by
  simp only [String.fromUTF8?, String.toUTF8_eq_toByteArray, dif_pos text.isValidUTF8]
  rfl

theorem unifyLineEnds_eq_self {text : List Char} (h : '\r' ∉ text) : unifyLineEnds text = text := by
  fun_induction unifyLineEnds text <;> simp_all

/-- A text that has newlines as its line ends is read as it stands. -/
theorem reads_toUTF8 {text : String} {result : Except Yaml.Fault Yaml.Document}
    (hends : '\r' ∉ text.toList) (h : reader text = result) :
    ∃ text', String.fromUTF8? text.toUTF8 = some text' ∧
      reader (String.ofList (unifyLineEnds text'.toList)) = result := by
  refine ⟨text, fromUTF8?_toUTF8 text, ?_⟩
  rw [unifyLineEnds_eq_self hends, String.ofList_toList, h]

theorem isDocument_toUTF8 {text : String} {document : Yaml.Document} (hends : '\r' ∉ text.toList)
    (h : reader text = .ok document) : IsDocument reader text.toUTF8 document :=
  reads_toUTF8 hends h

/-! ## Which file names are taken for YAML -/

/-- Whether a file name has a dot that is not its first character, and after the last one `yaml` or
`yml` in letters of either case. -/
def HasYamlEnding (name : String) : Prop :=
  ∃ stem ending, name.toList = stem ++ '.' :: ending ∧ stem ≠ [] ∧
    (ending.map Char.toLower = "yaml".toList ∨ ending.map Char.toLower = "yml".toList)

theorem isYamlSuffix_ofList_iff {ending : List Char} :
    isYamlSuffix (String.ofList ('.' :: ending)) = true ↔
      ending.map Char.toLower = "yaml".toList ∨ ending.map Char.toLower = "yml".toList := by
  have hlower : ((String.ofList ('.' :: ending)).map Char.toLower).toList =
      '.' :: ending.map Char.toLower := by
    rw [String.toList_map, String.toList_ofList]
    rfl
  simp only [isYamlSuffix, List.contains_iff_mem, List.mem_cons, List.not_mem_nil, or_false,
    ← String.toList_inj, hlower]
  simp

theorem isYamlSuffix_suffix_iff {p : Path} :
    isYamlSuffix p.suffix = true ↔ HasYamlEnding p.name := by
  constructor
  · intro h
    rcases p.suffix_cases with hnone | ⟨stem, ending, hname, hstem, hsuffix⟩
    · have hempty : isYamlSuffix "" = false := by cbv
      rw [hnone, hempty] at h
      cases h
    · rw [hsuffix, isYamlSuffix_ofList_iff] at h
      exact ⟨stem, ending, hname, hstem, h⟩
  · rintro ⟨stem, ending, hname, hstem, hending⟩
    have hdot : '.' ∉ ending := fun hmem => by
      have hlower := List.mem_map_of_mem (f := Char.toLower) hmem
      rcases hending with h | h <;> simp [h] at hlower
    have hne : ending ≠ [] := by
      rintro rfl
      simp at hending
    rw [Path.suffix_eq hname hdot hstem hne, isYamlSuffix_ofList_iff]
    exact hending

/-! ## Loading -/

section

variable {m : Machine} {p : Path} {c : Config}

/-- What loading from a path comes to. -/
theorem run_load (h : Chooses explicit m.environment path required) (hp : p = .ofString path) :
    (load reader explicit).run m =
      match m.files.look m.cwd p.toString with
      | .error e => .error (.os e (.path p.toString)) m
      | .ok none => if required then .error (.missing p.toString) m else .ok default m
      | .ok (some i) =>
        if isYamlSuffix p.suffix then
          match m.files.read i with
          | .error e => .error (.os e (.path p.toString)) m
          | .ok bytes =>
            match ofBytes reader p.toString bytes with
            | .error e => .error e m
            | .ok c => .ok c (m.report (.loadedConfig p.toString))
        else .error .configNotYaml m := by
  subst hp
  rw [chooses_iff] at h
  simp only [load, EStateM.run_bind, EStateM.run_get, h, Action.run_look, Action.run_ofExcept]
  cases hl : m.files.look m.cwd (Path.ofString path).toString with
  | error e => rfl
  | ok found =>
    cases found with
    | none => cases required <;> rfl
    | some i =>
      cases hsuffix : isYamlSuffix (Path.ofString path).suffix with
      | false => simp [Except.mapError]
      | true =>
        simp only [Except.mapError, Bool.not_true, Bool.false_eq_true, if_false, if_true,
          EStateM.run_bind, EStateM.run_get, Action.run_ofExcept]
        cases m.files.read i with
        | error e => rfl
        | ok bytes =>
          simp only
          cases ofBytes reader (Path.ofString path).toString bytes with
          | error e => rfl
          | ok c => rfl

/-- Loading a configuration only tells the log so. -/
theorem onlyLogs_load (reader : Yaml.Reader) (explicit : Option String) :
    OnlyLogs (load reader explicit) := by
  refine OnlyLogs.get.bind fun m => ?_
  simp only
  refine (OnlyLogs.look _).bind fun found => ?_
  cases found with
  | none => exact .ite (.throw _) (.pure _)
  | some i =>
    exact .check _ <| OnlyLogs.get.bind fun m => (OnlyLogs.ofExcept _).bind fun bytes =>
      (OnlyLogs.ofExcept _).bind fun config => (OnlyLogs.report _).bind fun _ => .pure _

theorem IsRead.source {bytes : ByteArray} (h : IsRead reader path bytes c) :
    c.source = some path := by
  cases h <;> rfl

/-- Where a configuration that is loaded comes from. -/
theorem load_ok_cases {m' : Machine} (h : Chooses explicit m.environment path required)
    (hp : p = .ofString path) (hrun : (load reader explicit).run m = .ok c m') :
    required = false ∧ m.files.look m.cwd p.toString = .ok none ∧ c = default ∨
      ∃ i bytes, m.files.find m.cwd p.toString = .ok i ∧ m.files.read i = .ok bytes ∧
        IsRead reader p.toString bytes c := by
  rw [run_load h hp] at hrun
  cases hl : m.files.look m.cwd p.toString with
  | error e => simp [hl] at hrun
  | ok found =>
    cases found with
    | none =>
      cases required with
      | true => simp [hl] at hrun
      | false =>
        simp only [hl, Bool.false_eq_true, if_false] at hrun
        cases hrun
        exact .inl ⟨rfl, rfl, rfl⟩
    | some i =>
      simp only [hl] at hrun
      split at hrun
      · split at hrun
        · cases hrun
        · next bytes hread =>
          split at hrun
          · cases hrun
          · next c hc =>
            cases hrun
            exact .inr ⟨i, bytes, look_eq_some_iff.1 hl, hread, ofBytes_ok_iff.1 hc⟩
      · cases hrun

/-- Whether two machines have the same at a path, and the same environment. -/
structure SameAt (p : Path) (m n : Machine) : Prop where
  environment : n.environment = m.environment
  look : n.files.look n.cwd p.toString = m.files.look m.cwd p.toString
  read {i : Inode} : m.files.find m.cwd p.toString = .ok i → n.files.read i = m.files.read i

/-- What loading from a path gives. -/
structure Loads (reader : Yaml.Reader) (explicit : Option String) (m : Machine) (p : Path)
    (required : Bool) : Prop where
  /-- All settings have their defaults only where no file was asked for and none is there. -/
  source_eq_none_iff : (∃ c m', (load reader explicit).run m = .ok c m' ∧ c.source = none) ↔
    required = false ∧ m.files.look m.cwd p.toString = .ok none
  raw_of_source {c : Config} {m' : Machine} :
    (load reader explicit).run m = .ok c m' → c.source = none → c.raw = []
  missing : required = true → m.files.look m.cwd p.toString = .ok none →
    (load reader explicit).run m = .error (.missing p.toString) m
  /-- A file that is there is loaded as it is, or loading fails. -/
  read {i : Inode} {c : Config} {m' : Machine} : m.files.find m.cwd p.toString = .ok i →
    (load reader explicit).run m = .ok c m' → c.source = some p.toString ∧
      ∃ bytes, m.files.read i = .ok bytes ∧ IsRead reader p.toString bytes c
  notYaml {i : Inode} : m.files.find m.cwd p.toString = .ok i → ¬ HasYamlEnding p.name →
    (load reader explicit).run m = .error .configNotYaml m
  /-- No other file makes a difference. -/
  result_eq {n : Machine} : SameAt p m n →
    (∀ c, (∃ n', (load reader explicit).run n = .ok c n') ↔
      ∃ m', (load reader explicit).run m = .ok c m') ∧
    ∀ e, (∃ n', (load reader explicit).run n = .error e n') ↔
      ∃ m', (load reader explicit).run m = .error e m'
  told : m.Told ((load reader explicit).after m)

/-- Only what is at the path makes a difference, and what tells which path it is. -/
theorem load_sameAt {n : Machine} (h : Chooses explicit m.environment path required)
    (hp : p = .ofString path) (hs : SameAt p m n) :
    (∀ c, (∃ n', (load reader explicit).run n = .ok c n') ↔
      ∃ m', (load reader explicit).run m = .ok c m') ∧
    ∀ e, (∃ n', (load reader explicit).run n = .error e n') ↔
      ∃ m', (load reader explicit).run m = .error e m' := by
  have h' : Chooses explicit n.environment path required := hs.environment ▸ h
  rw [run_load h hp, run_load h' hp, hs.look]
  cases hl : m.files.look m.cwd p.toString with
  | error e => simp
  | ok found =>
    cases found with
    | none => cases required <;> simp
    | some i =>
      simp only [hs.read (look_eq_some_iff.1 hl)]
      cases isYamlSuffix p.suffix with
      | false => simp
      | true =>
        simp only [if_true]
        cases m.files.read i with
        | error e => simp
        | ok bytes =>
          simp only
          cases ofBytes reader p.toString bytes <;> simp

/-- Loading chooses a path, and gives what is there. -/
theorem load_spec (reader : Yaml.Reader) (explicit : Option String) (m : Machine) :
    ∃ path required, Chooses explicit m.environment path required ∧
      Loads reader explicit m (.ofString path) required := by
  obtain ⟨path, required, h⟩ := exists_chooses explicit m.environment
  refine ⟨path, required, h, ⟨⟨?_, ?_⟩, ?_, ?_, ?_, ?_, load_sameAt h rfl, ?_⟩⟩
  · rintro ⟨c, m', hrun, hsource⟩
    rcases load_ok_cases h rfl hrun with ⟨hrequired, hnone, -⟩ | ⟨i, bytes, -, -, hread⟩
    · exact ⟨hrequired, hnone⟩
    · rw [hread.source] at hsource
      cases hsource
  · rintro ⟨hrequired, hnone⟩
    refine ⟨default, m, ?_, rfl⟩
    rw [run_load h rfl, hnone, hrequired]
    rfl
  · intro c m' hrun hsource
    rcases load_ok_cases h rfl hrun with ⟨-, -, rfl⟩ | ⟨i, bytes, -, -, hread⟩
    · rfl
    · rw [hread.source] at hsource
      cases hsource
  · intro hrequired hnone
    rw [run_load h rfl, hnone, hrequired]
    rfl
  · intro i c m' hi hrun
    rcases load_ok_cases h rfl hrun with ⟨-, hnone, -⟩ | ⟨j, bytes, hj, hbytes, hread⟩
    · rw [look_eq_some_iff.2 hi] at hnone
      cases hnone
    · cases hi.symm.trans hj
      exact ⟨hread.source, bytes, hbytes, hread⟩
  · intro i hi hno
    rw [← isYamlSuffix_suffix_iff] at hno
    rw [run_load h rfl, look_eq_some_iff.2 hi]
    exact if_neg hno
  · exact onlyLogs_load reader explicit m

/-- A file that the environment asks for is not replaced by defaults. -/
theorem load_missing_of_variable :
    let m := Machine.idle .empty ⟨[(fileVariable, "x.yaml")], .none⟩ []
    (load Yaml.sampleReader none).run m = .error (.missing "x.yaml") m := by
  intro m
  obtain ⟨path, required, h, hloads⟩ := load_spec Yaml.sampleReader none m
  have hchosen : choosePath none m.environment = ("x.yaml", true) := by decide
  cases hchosen.symm.trans (chooses_iff.1 h)
  have hp : (Path.ofString "x.yaml").toString = "x.yaml" := by decide
  have hnone : m.files.look m.cwd (Path.ofString "x.yaml").toString = .ok none := by
    rw [hp]
    exact look_empty ⟨by decide, by decide, by decide⟩ ⟨by decide, by decide, by decide, by decide⟩
      (by decide)
  have hmissing := hloads.missing rfl hnone
  rwa [hp] at hmissing

end

end Config

end DeviceLauncher
