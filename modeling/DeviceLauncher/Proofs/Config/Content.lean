import DeviceLauncher.Proofs.Config.Load

/-!
# What the file of a configuration holds

The bytes of a file are no text, or a text that has a fault as a YAML document, or a document.
`IsRejected reader path bytes e` says which of them are no configuration and why
(`ofBytes_error_iff`), as `IsRead` says which configuration the others are.

`load_content` says what comes of it when the file is loaded: what is no mapping is refused, unless
it does not count as given. A document that is empty, zero or false is taken for one without settings.
A fault of the reader is handed on as it is, and not as a wrong value if the text is malformed.

All this holds for every reader. That not everything else than a mapping is refused as a wrong value
is shown for each one that reads a few short texts as YAML (`not_always_refused`).
-/

namespace DeviceLauncher

/-- Whether what is wrong is a value in a text that is well formed. -/
def Yaml.Fault.isWrongValue : Yaml.Fault → Bool
  | calendar _ | wholeNumber _ _ | longNumber _ | pointNumber _ | characterNumber => true
  | _ => false

/-- Whether a failure comes of a value that its place does not allow. -/
def Failure.isWrongValue : Failure → Bool
  | nul | incompleteManifest _ | commandIsText _ | unknownLevel _ | configNotYaml
  | configNotMapping _ | configNotText | variableName | longNumber => true
  | config fault => fault.isWrongValue
  | _ => false

namespace Config

open FileSystem

/-! ## Contents -/

/-- What is wrong with the text in the bytes of a file, which may have any line ends, for a
reader. -/
def IsFaulty (reader : Yaml.Reader) (bytes : ByteArray) (fault : Yaml.Fault) : Prop :=
  ∃ text, String.fromUTF8? bytes = some text ∧
    reader (String.ofList (unifyLineEnds text.toList)) = .error fault

/-- Whether a document is something else than a mapping. -/
def IsNoMapping (document : Yaml.Document) : Prop :=
  ∀ entries, document.knots.untie document.root ≠ .map entries

/-- Whether a document counts as given: it is neither null nor false, zero or empty. -/
def CountsAsGiven (document : Yaml.Document) : Prop :=
  (document.knots.untie document.root).holds = true

variable {reader : Yaml.Reader} {bytes : ByteArray} {path : String}

/-- Why the bytes of a file at a path are no configuration. -/
inductive IsRejected (reader : Yaml.Reader) (path : String) (bytes : ByteArray) : Failure → Prop where
  | notText : String.fromUTF8? bytes = none → IsRejected reader path bytes .configNotText
  | faulty {fault : Yaml.Fault} : IsFaulty reader bytes fault →
      IsRejected reader path bytes (.config fault)
  | notMapping {document : Yaml.Document} : IsDocument reader bytes document →
      IsNoMapping document → CountsAsGiven document →
        IsRejected reader path bytes (.configNotMapping path)

theorem ofBytes_error_iff {e : Failure} :
    ofBytes reader path bytes = .error e ↔ IsRejected reader path bytes e := by
  unfold ofBytes
  constructor
  · intro h
    split at h
    · next htext =>
      cases h
      exact .notText htext
    next text htext =>
    split at h
    · next fault hfault =>
      cases h
      exact .faulty ⟨text, htext, hfault⟩
    next document hdocument =>
    split at h
    · cases h
    · next root hroot =>
      split at h
      · next hholds =>
        cases h
        exact .notMapping ⟨text, htext, hdocument⟩ hroot hholds
      · cases h
  · rintro (htext | ⟨text, htext, hfault⟩ | ⟨⟨text, htext, hdocument⟩, hno, hgiven⟩)
    · simp only [htext]
    · simp only [htext, hfault]
    · simp only [htext, hdocument]
      split
      · next entries hmap => exact absurd hmap (hno entries)
      · exact if_pos hgiven

/-! ## Loading -/

variable {explicit : Option String} {required : Bool} {m : Machine} {p : Path} {i : Inode} {f : File}

/-- Whether loading ends at once for a wrong value. -/
def IsRefused (reader : Yaml.Reader) (explicit : Option String) (m : Machine) : Prop :=
  ∃ e, (load reader explicit).run m = .error e m ∧ e.isWrongValue = true

/-- Of a file that is there, and whose name is taken for YAML, the bytes decide. -/
theorem run_load_file (reader : Yaml.Reader) (h : Chooses explicit m.environment path required)
    (hp : p = .ofString path) (hi : m.files.find m.cwd p.toString = .ok i)
    (hf : m.files.file? i = some f) (hyaml : HasYamlEnding p.name) :
    (load reader explicit).run m = match ofBytes reader p.toString f.content with
      | .error e => .error e m
      | .ok c => .ok c (m.report (.loadedConfig p.toString)) := by
  have hread : m.files.read i = .ok f.content := by simp [FileSystem.read, node?_of_file? hf]
  rw [run_load h hp, look_eq_some_iff.2 hi]
  cases hbytes : ofBytes reader p.toString f.content <;>
    simp only [isYamlSuffix_suffix_iff.2 hyaml, if_true, hread, hbytes]

/-- A regular file that is chosen, and whose name ends as that of a YAML file, is loaded as follows,
whatever it holds.

* It is refused as a wrong value if and only if it is no text, or a value in it is written wrongly, or
  the document in it is no mapping and counts as given.
* These, and texts with any other fault, are all that fails, and nothing else happens then.
* A mapping gives the settings. A document that is no mapping and does not count as given, such as
  one that is empty, gives none. -/
theorem load_content (reader : Yaml.Reader) (h : Chooses explicit m.environment path required)
    (hp : p = .ofString path) (hi : m.files.find m.cwd p.toString = .ok i)
    (hf : m.files.file? i = some f) (hyaml : HasYamlEnding p.name) :
    (IsRefused reader explicit m ↔ String.fromUTF8? f.content = none ∨
      (∃ fault, IsFaulty reader f.content fault ∧ fault.isWrongValue = true) ∨
      ∃ document, IsDocument reader f.content document ∧ IsNoMapping document ∧
        CountsAsGiven document) ∧
    (∀ e m', (load reader explicit).run m = .error e m' ↔
      m' = m ∧ IsRejected reader p.toString f.content e) ∧
    ∀ document, IsDocument reader f.content document →
      (∀ entries, document.knots.untie document.root = .map entries →
        ∃ m', (load reader explicit).run m = .ok ⟨entries, some p.toString, document.knots⟩ m') ∧
      (IsNoMapping document → ¬ CountsAsGiven document →
        ∃ m', (load reader explicit).run m = .ok ⟨[], some p.toString, []⟩ m') := by
  have hrun := run_load_file reader h hp hi hf hyaml
  have herror (e : Failure) (m' : Machine) : (load reader explicit).run m = .error e m' ↔
      m' = m ∧ IsRejected reader p.toString f.content e := by
    rw [hrun, ← ofBytes_error_iff]
    cases ofBytes reader p.toString f.content <;> simp [eq_comm, and_comm]
  have hok {c : Config} (hc : IsRead reader p.toString f.content c) :
      ∃ m', (load reader explicit).run m = .ok c m' := by
    rw [hrun, ofBytes_ok_iff.2 hc]
    exact ⟨_, rfl⟩
  refine ⟨⟨?_, ?_⟩, herror, fun document hdocument => ⟨fun entries hmap => ?_, fun hno hgiven => ?_⟩⟩
  · rintro ⟨e, hfail, hwrong⟩
    obtain ⟨-, htext | hfault | ⟨hdocument, hno, hgiven⟩⟩ := (herror e m).1 hfail
    · exact .inl htext
    · exact .inr (.inl ⟨_, hfault, hwrong⟩)
    · exact .inr (.inr ⟨_, hdocument, hno, hgiven⟩)
  · rintro (htext | ⟨fault, hfault, hwrong⟩ | ⟨document, hdocument, hno, hgiven⟩)
    · exact ⟨_, (herror _ m).2 ⟨rfl, .notText htext⟩, rfl⟩
    · exact ⟨_, (herror _ m).2 ⟨rfl, .faulty hfault⟩, hwrong⟩
    · exact ⟨_, (herror _ m).2 ⟨rfl, .notMapping hdocument hno hgiven⟩, rfl⟩
  · exact hok (.mapping hdocument hmap)
  · exact hok (.nothing hdocument (by simpa [CountsAsGiven] using hgiven) hno)

/-! ## A file with a list -/

theorem isFaulty_toUTF8 {text : String} {fault : Yaml.Fault} (hends : '\r' ∉ text.toList)
    (h : reader text = .error fault) : IsFaulty reader text.toUTF8 fault :=
  reads_toUTF8 hends h

theorem isNoMapping_of_list {document : Yaml.Document} {items : List Value}
    (h : document.root = .list items) : IsNoMapping document := by
  simp [IsNoMapping, h, Knots.untie]

/-- A list counts as given unless it is empty. -/
theorem countsAsGiven_of_list {document : Yaml.Document} {items : List Value}
    (h : document.root = .list items) : CountsAsGiven document ↔ items ≠ [] := by
  simp [CountsAsGiven, h, Knots.untie, Value.holds]

/-- A machine with a single file, `/c.yml`. -/
def contentMachine (content : ByteArray) : Machine :=
  .idle (empty.add root "c.yml" (.file ⟨content, 0o644, 0⟩)) .empty []

theorem toString_contentPath : (Path.ofString "/c.yml").toString = "/c.yml" := by decide

theorem find_contentMachine (content : ByteArray) :
    (contentMachine content).files.find (contentMachine content).cwd
      (Path.ofString "/c.yml").toString = .ok 1 := by
  have hnames : (Route.ofString "/c.yml").names = ["c.yml"] := by decide
  rw [toString_contentPath, find_eq_ok_iff]
  refine locate_eq_ok_iff.2 ⟨⟨by decide, by decide, by decide⟩, ?_⟩
  rw [hnames]
  exact .enter rfl ⟨by decide, by decide, by decide, by decide⟩ (by simp) rfl rfl .done

theorem file?_contentMachine (content : ByteArray) :
    (contentMachine content).files.file? 1 = some ⟨content, 0o644, 0⟩ := rfl

theorem hasYamlEnding_contentPath : HasYamlEnding (Path.ofString "/c.yml").name :=
  ⟨['c'], ['y', 'm', 'l'], by decide, by decide, .inr (by decide)⟩

theorem chooses_contentPath (e : Environment) : Chooses (some "/c.yml") e "/c.yml" true :=
  .argument rfl (by decide)

theorem run_load_contentMachine (reader : Yaml.Reader) (content : ByteArray) :
    (load reader (some "/c.yml")).run (contentMachine content) =
      match ofBytes reader "/c.yml" content with
      | .error e => .error e (contentMachine content)
      | .ok c => .ok c ((contentMachine content).report (.loadedConfig "/c.yml")) := by
  rw [run_load_file reader (chooses_contentPath _) rfl (find_contentMachine content)
    (file?_contentMachine content) hasYamlEnding_contentPath, toString_contentPath]

/-- A list with an item is refused. -/
theorem load_content_of_list : let m := contentMachine "- a\n".toUTF8
    Chooses (some "/c.yml") m.environment "/c.yml" true ∧
      m.files.find m.cwd (Path.ofString "/c.yml").toString = .ok 1 ∧
      m.files.file? 1 = some ⟨"- a\n".toUTF8, 0o644, 0⟩ ∧
      HasYamlEnding (Path.ofString "/c.yml").name ∧
      IsRefused Yaml.sampleReader (some "/c.yml") m := by
  intro m
  have hchosen := chooses_contentPath m.environment
  have hfind := find_contentMachine "- a\n".toUTF8
  have hfile := file?_contentMachine "- a\n".toUTF8
  refine ⟨hchosen, hfind, hfile, hasYamlEnding_contentPath, ?_⟩
  have hdocument := isDocument_toUTF8 (by decide) Yaml.readsSamples_sampleReader.oneItem
  have hgiven : CountsAsGiven ⟨.list [.text "a"], []⟩ := (countsAsGiven_of_list rfl).2 (by simp)
  exact (load_content Yaml.sampleReader hchosen rfl hfind hfile hasYamlEnding_contentPath).1.2
    (.inr (.inr ⟨_, hdocument, isNoMapping_of_list rfl, hgiven⟩))

theorem not_isRefused_of_isRead {content : ByteArray} {c : Config}
    (h : IsRead reader "/c.yml" content c) :
    ¬ IsRefused reader (some "/c.yml") (contentMachine content) := by
  rintro ⟨e, hrun, -⟩
  rw [run_load_contentMachine, ofBytes_ok_iff.2 h] at hrun
  cases hrun

theorem not_isRefused_of_isRejected {content : ByteArray} {e : Failure}
    (h : IsRejected reader "/c.yml" content e) (he : e.isWrongValue = false) :
    ¬ IsRefused reader (some "/c.yml") (contentMachine content) := by
  rintro ⟨e', hrun, hwrong⟩
  rw [run_load_contentMachine, ofBytes_error_iff.2 h] at hrun
  cases hrun
  rw [he] at hwrong
  cases hwrong

/-- Not every document is refused that is neither a mapping nor null: an empty list is taken for a
configuration without settings. Nor is a malformed text refused as a wrong value. Both are so for
whatever reader reads these texts as YAML. -/
theorem not_always_refused : Yaml.sampleReader.ReadsSamples ∧
    ∀ reader : Yaml.Reader, reader.ReadsSamples →
      (¬ ∀ (content : ByteArray) (document : Yaml.Document), IsDocument reader content document →
        IsNoMapping document → document.root ≠ .null →
          IsRefused reader (some "/c.yml") (contentMachine content)) ∧
      ¬ ∀ (content : ByteArray) (fault : Yaml.Fault), IsFaulty reader content fault →
        IsRefused reader (some "/c.yml") (contentMachine content) := by
  refine ⟨Yaml.readsSamples_sampleReader, fun reader hreader => ⟨fun h => ?_, fun h => ?_⟩⟩
  · have hdocument := isDocument_toUTF8 (by decide) hreader.noItems
    have hno : IsNoMapping ⟨.list [], []⟩ := isNoMapping_of_list rfl
    exact not_isRefused_of_isRead (.nothing hdocument rfl hno) (h _ _ hdocument hno (by simp))
  · have hfault := isFaulty_toUTF8 (by decide) hreader.openList
    exact not_isRefused_of_isRejected (.faulty hfault) rfl (h _ _ hfault)

end Config

end DeviceLauncher
