import DeviceLauncher.Proofs.Config.Manifests
import DeviceLauncher.Proofs.Path.Normal

/-!
# Settings in the home directory

A setting that begins with `~/` lies in the home directory of the user, whatever the other settings are
(`home_expanded`). This holds of the directories, of the program and of the log file.

It does not hold of the manifests: there `~` is a name like others, below the directory from which the
source or the target is seen (`not_home_expanded_in_manifests`).
-/

namespace DeviceLauncher

/-- The home directory as a path. Slashes alone are the root, and so is the empty text. -/
def homeDirectory (home : String) : Path :=
  if ∀ c ∈ home.toList, c = '/' then ⟨.root, []⟩ else .ofString home

variable {home rest : String}

/-- Reading the home directory as it is written makes no difference, apart from two slashes. -/
theorem homeDirectory_eq (habsolute : home.toList.head? = some '/') (hne : home ≠ "//") :
    homeDirectory home = .ofString home := by
  unfold homeDirectory
  split
  · next h =>
    have hslashes : home.toList = List.replicate home.toList.length '/' :=
      List.eq_replicate_of_mem h
    have hanchor : Anchor.ofChars home.toList = .root := by
      rw [Anchor.ofChars, hslashes, List.takeWhile_replicate]
      simp only [beq_self_eq_true, if_true, List.length_replicate]
      split
      · next h0 =>
        rw [List.length_eq_zero_iff.1 h0] at habsolute
        cases habsolute
      · next h2 =>
        rw [h2] at hslashes
        exact absurd (String.toList_inj.1 hslashes) hne
      · rfl
    exact Path.eq_of_names hanchor.symm (Path.names_ofString_slashes h).symm
  · rfl

/-! ## Expansion -/

theorem expandHome_slash {homeOf? : String → Option String} (h : homeOf? "" = some home)
    (rest : String) : expandHome homeOf? ("~/" ++ rest) =
      some (String.ofList (dropLastSlashes home.toList) ++ "/" ++ rest) := by
  have htext : ("~/" ++ rest).toList = '~' :: '/' :: rest.toList := by simp
  have hname : ('/' :: rest.toList).takeWhile (· != '/') = [] := by simp
  have hrest : ('/' :: rest.toList).dropWhile (· != '/') = '/' :: rest.toList := by simp
  have hne : (dropLastSlashes home.toList ++ '/' :: rest.toList).isEmpty = false := by simp
  simp only [expandHome, htext, hname, hrest, String.ofList_nil, h, hne]
  simp [String.ofList_append, String.ofList_cons, String.append_assoc]

theorem exists_slashes (text : List Char) :
    ∃ slashes, dropLastSlashes text ++ slashes = text ∧ ∀ c ∈ slashes, c = '/' := by
  refine ⟨text.rtakeWhile (· == '/'), List.rdropWhile_append_rtakeWhile, fun c hc => ?_⟩
  have hslash := List.mem_rtakeWhile_imp hc
  simpa using hslash

theorem dropLastSlashes_eq_nil {text : List Char} (h : ∀ c ∈ text, c = '/') :
    dropLastSlashes text = [] := List.rdropWhile_eq_nil_iff.2 (by simpa using h)

/-- What is left of a text without its last slashes, if anything, begins and names what the text does. -/
theorem ofString_dropLastSlashes (h : ¬ ∀ c ∈ home.toList, c = '/') (rest : String) :
    let kept := String.ofList (dropLastSlashes home.toList)
    (Path.ofString (kept ++ rest)).anchor = (Path.ofString home).anchor ∧
      (Path.ofString kept).names = (Path.ofString home).names := by
  intro kept
  obtain ⟨slashes, hwhole, hslashes⟩ := exists_slashes home.toList
  have hhome : kept ++ String.ofList slashes = home := by
    rw [← String.toList_inj]
    simp [kept, hwhole]
  have hother : ∃ c ∈ kept.toList, c ≠ '/' := by
    by_contra hall
    refine h fun c hc => ?_
    rw [← hwhole, List.mem_append] at hc
    rcases hc with hc | hc
    · by_contra hne
      exact hall ⟨c, by simpa [kept] using hc, hne⟩
    · exact hslashes c hc
  constructor
  · rw [Path.anchor_ofString_append hother, ← hhome, Path.anchor_ofString_append hother]
  · rw [← hhome, Path.names_ofString_append_slashes kept (by simpa using hslashes)]

theorem ofString_expanded (hrest : rest.toList.head? ≠ some '/') :
    Path.ofString (String.ofList (dropLastSlashes home.toList) ++ "/" ++ rest) =
      (homeDirectory home).join (.ofString rest) := by
  have hrelative : (Path.ofString rest).anchor = .relative := Anchor.ofChars_append .relative hrest
  have hnames := Path.names_ofString_append (String.ofList (dropLastSlashes home.toList)) rest
  rw [Path.join, if_pos hrelative, homeDirectory]
  split
  · next h =>
    have hroot : (Path.ofString ("/" ++ rest)).anchor = .root := by
      rw [Path.ofString, String.toList_append]
      exact Anchor.ofChars_append .root hrest
    rw [dropLastSlashes_eq_nil h] at hnames ⊢
    rw [String.ofList_nil, String.empty_append] at hnames ⊢
    exact Path.eq_of_names hroot hnames
  · next h =>
    obtain ⟨hanchor, hkept⟩ := ofString_dropLastSlashes h ("/" ++ rest)
    rw [← String.append_assoc] at hanchor
    rw [hkept] at hnames
    exact Path.eq_of_names hanchor hnames

namespace Config

variable {c : Config} {e : Environment} {part name text : String}

/-- A path in the home directory. -/
theorem expandPath_slash (hhome : e.home? = some home) (hrest : rest.toList.head? ≠ some '/') :
    expandPath e ("~/" ++ rest) = .ok ((homeDirectory home).join (.ofString rest)) := by
  rw [expandPath, expandHome_slash ((e.homeOf?_empty).trans hhome)]
  simp only [ofString_expanded hrest]

/-! ## Settings -/

/-- Whether a value is a mapping in which a name has a text. -/
def FieldIs (c : Config) (v : Value) (name text : String) : Prop :=
  ∃ fields, c.knots.untie v = .map fields ∧ Value.field? fields name = some (.text text)

/-- Whether a section of the configuration gives a text to a name. -/
def Says (c : Config) (part name text : String) : Prop :=
  ∃ v, Value.field? c.raw part = some v ∧ c.FieldIs v name text

theorem Says.sectionFields (h : c.Says part name text) :
    ∃ fields, c.sectionFields part = .ok fields ∧ Value.field? fields name = some (.text text) := by
  obtain ⟨v, hv, fields, hmap, hfield⟩ := h
  have hholds : (c.knots.untie v).holds = true := by
    rw [hmap, Value.holds]
    cases fields with
    | nil => cases hfield
    | cons => rfl
  have hgiven : c.given? c.raw part = some v := Option.filter_eq_some_iff.2 ⟨hv, hholds⟩
  exact ⟨fields, by simp only [Config.sectionFields, hgiven, fieldsOf, hmap], hfield⟩

theorem pathSetting_of_given {default : String} (h : c.Says "paths" name text) (hne : text ≠ "") :
    c.pathSetting e name default = expandPath e text := by
  obtain ⟨fields, hfields, hfield⟩ := h.sectionFields
  exact pathSetting_of_field hfields hfield hne

theorem executable_of_given (argv : List String) (h : c.Says "paths" "executable" text)
    (hne : text ≠ "") : c.executable e argv = expandPath e text := by
  obtain ⟨fields, hfields, hfield⟩ := h.sectionFields
  have hgiven : c.given? fields "executable" = some (.text text) := given?_of_text hfield hne
  simp only [executable, hfields, givenText?, bind, Except.bind, hgiven]
  rfl

theorem logPath_of_given {p : Path} (h : c.Says "logging" "path" text) (hne : text ≠ "")
    (hp : expandPath e text = .ok p) : c.logPath e = .ok (some p.toString) := by
  obtain ⟨fields, hfields, hfield⟩ := h.sectionFields
  have hgiven : c.given? fields "path" = some (.text text) := given?_of_text hfield hne
  have htext : (some (Value.text text)).mapM (Value.toText c.knots) = .ok (some text) := rfl
  simp only [logPath, hfields, givenText?, bind, Except.bind, hgiven, htext, hp]
  rfl

/-! ## Manifests -/

/-- The name `~`. -/
def tilde : Name := ⟨"~", by decide, by decide, by decide⟩

theorem names_ofString_tilde (rest : String) :
    (Path.ofString ("~/" ++ rest)).names = tilde :: (Path.ofString rest).names := by
  rw [show "~/" = "~" ++ "/" from rfl, Path.names_ofString_append]
  rfl

theorem anchor_ofString_tilde (rest : String) :
    (Path.ofString ("~/" ++ rest)).anchor = .relative := by
  rw [Path.anchor_ofString_append ⟨'~', by decide, by decide⟩]
  rfl

/-- Seen from a directory, the path of a text with `~` goes on from there by that name. -/
theorem sees_tilde_iff {base p : Path} : base.Sees (.ofString ("~/" ++ rest)) p ↔
    p = ⟨base.anchor, base.names ++ tilde :: (Path.ofString rest).names⟩ := by
  rw [Path.sees_iff, Path.join, if_pos (anchor_ofString_tilde rest), names_ofString_tilde, eq_comm]

/-- What an entry gives as its source or target is what it means by that. -/
theorem FieldIs.means {entry : Value} {source target : String} (h : c.FieldIs entry name text)
    (hne : text ≠ "") (hmeans : c.Means entry source target) :
    (name = "source" → source = text) ∧ (name = "dest" → target = text) := by
  obtain ⟨fields, hmap, hfield⟩ := h
  obtain ⟨s, t, ⟨fields', hmap', hs, ht⟩, hsource, htarget⟩ := hmeans
  cases hmap.symm.trans hmap'
  have hgiven : c.given? fields name = some (.text text) := given?_of_text hfield hne
  constructor
  · rintro rfl
    cases hs.symm.trans hgiven
    exact (Except.ok.inj hsource).symm
  · rintro rfl
    cases ht.symm.trans hgiven
    exact (Except.ok.inj htarget).symm

/-- A setting that begins with `~/` is expanded to the home directory where it is a directory, the program
or the log file, whatever else is configured.

In the list of manifests it is not: a source or a target of this kind lies below the project directory or
the configuration directory, in what is called `~` there. -/
theorem home_expanded (hhome : e.home? = some home) (hrest : rest.toList.head? ≠ some '/')
    (c : Config) :
    let text := "~/" ++ rest
    let p := (homeDirectory home).join (.ofString rest)
    (home.toList.head? = some '/' → home ≠ "//" → homeDirectory home = .ofString home) ∧
    (c.Says "paths" "project_dir" text → c.projectDirectory e = .ok p) ∧
    (c.Says "paths" "bin_dir" text → c.binaryDirectory e = .ok p) ∧
    (c.Says "paths" "config_dir" text → c.configDirectory e = .ok p) ∧
    (c.Says "paths" "executable" text → ∀ argv, c.executable e argv = .ok p) ∧
    (c.Says "logging" "path" text → c.logPath e = .ok (some p.toString)) ∧
    ∀ v entries manifests, Value.field? c.raw "manifests" = some v →
      c.knots.untie v = .list entries → c.manifests e = .ok manifests →
      List.Forall₂ (fun entry (m : Manifest) =>
        (c.FieldIs entry "source" text → ∃ project, c.projectDirectory e = .ok project ∧
          m.source = ⟨project.anchor, project.names ++ tilde :: (Path.ofString rest).names⟩) ∧
        (c.FieldIs entry "dest" text → ∃ config, c.configDirectory e = .ok config ∧
          m.target = ⟨config.anchor, config.names ++ tilde :: (Path.ofString rest).names⟩))
        entries manifests := by
  intro text p
  have hne : text ≠ "" := by simp [text]
  have hp : expandPath e text = .ok p := expandPath_slash hhome hrest
  refine ⟨homeDirectory_eq, fun h => ?_, fun h => ?_, fun h => ?_, fun h argv => ?_, fun h => ?_, ?_⟩
  · exact (pathSetting_of_given h hne).trans hp
  · exact (pathSetting_of_given h hne).trans hp
  · exact (pathSetting_of_given h hne).trans hp
  · exact (executable_of_given argv h hne).trans hp
  · exact logPath_of_given h hne hp
  · intro v entries manifests hv hlist hmanifests
    refine ((manifests_of_list_eq_ok_iff hv hlist).1 hmanifests).imp ?_
    rintro entry m ⟨source, target, hmeans, project, config, hproject, hconfig, hs, ht⟩
    constructor
    · intro h
      obtain rfl := (h.means hne hmeans).1 rfl
      exact ⟨project, hproject, sees_tilde_iff.1 hs⟩
    · intro h
      obtain rfl := (h.means hne hmeans).2 rfl
      exact ⟨config, hconfig, sees_tilde_iff.1 ht⟩

/-- A configuration directory in the home directory, and an entry whose source and target are there by
their texts. -/
def tildeEntry : Config :=
  listing [(.text "project_dir", .text "/p"), (.text "config_dir", .text "~/c")]
    [entryOf "~/c" "~/c"]

theorem manifests_tildeEntry : tildeEntry.manifests ⟨[("HOME", "//h/")], .none⟩ =
    .ok [⟨.ofString "/p/~/c", .ofString "//h/c/~/c"⟩] := by cbv

/-- Two slashes before the home directory are kept, and the one after it is not doubled. The entry is not
expanded. -/
theorem home_expanded_of_config_dir :
    let e : Environment := ⟨[("HOME", "//h/")], .none⟩
    e.home? = some "//h/" ∧ "c".toList.head? ≠ some '/' ∧
      tildeEntry.configDirectory e = .ok (.ofString "//h/c") ∧
      tildeEntry.manifests e = .ok [⟨.ofString "/p/~/c", .ofString "//h/c/~/c"⟩] ∧
      ∃ project, tildeEntry.projectDirectory e = .ok project ∧
        Path.ofString "/p/~/c" =
          ⟨project.anchor, project.names ++ tilde :: (Path.ofString "c").names⟩ := by
  intro e
  have hhome : e.home? = some "//h/" := rfl
  have hrest : "c".toList.head? ≠ some '/' := by decide
  have hp : (homeDirectory "//h/").join (.ofString "c") = .ofString "//h/c" := by
    rw [homeDirectory_eq (by decide) (by decide)]
    decide
  have hsays : tildeEntry.Says "paths" "config_dir" "~/c" :=
    ⟨_, field?_paths_listing _ _, _, rfl, rfl⟩
  have hsource : tildeEntry.FieldIs (entryOf "~/c" "~/c") "source" "~/c" := ⟨_, rfl, rfl⟩
  obtain ⟨-, -, -, hconfig, -, -, hmanifests⟩ := home_expanded hhome hrest tildeEntry
  rw [hp] at hconfig
  have hall := hmanifests _ _ _ (field?_manifests_listing _ _) rfl manifests_tildeEntry
  obtain ⟨hentry, -⟩ := List.forall₂_cons.1 hall
  exact ⟨hhome, hrest, hconfig hsays, manifests_tildeEntry, hentry.1 hsource⟩

/-- A source in the home directory is not looked for there. -/
theorem not_home_expanded_in_manifests : ¬ ∀ (c : Config) (e : Environment) (home rest : String)
    (v : Value) (entries : List Value) (manifests : List Manifest), e.home? = some home →
      home.toList.head? = some '/' → rest.toList.head? ≠ some '/' →
      Value.field? c.raw "manifests" = some v → c.knots.untie v = .list entries →
      c.manifests e = .ok manifests → List.Forall₂ (fun entry (m : Manifest) =>
        c.FieldIs entry "source" ("~/" ++ rest) →
          m.source = (Path.ofString home).join (.ofString rest)) entries manifests := by
  intro h
  have hall := h tildeEntry ⟨[("HOME", "//h/")], .none⟩ "//h/" "c" _ _ _ rfl (by decide) (by decide)
    (field?_manifests_listing _ _) rfl manifests_tildeEntry
  obtain ⟨hentry, -⟩ := List.forall₂_cons.1 hall
  exact absurd (hentry ⟨_, rfl, rfl⟩) (by decide)

end Config

end DeviceLauncher
