import DeviceLauncher.Proofs.Config.Content
import DeviceLauncher.Proofs.Value.Text

/-!
# What the manifest list comes to

An entry of the list is complete if it is a mapping with a source and a target (`Config.Names`). It
stands for the source as seen from the project directory, and the target as seen from the
configuration directory (`Config.Resolves`). `manifests_spec` says that the list comes to one manifest
for each entry, in their order, unless an entry is incomplete; then the first such entry is told.

* `Path.Sees base p q`: seen from `base`, the path `p` is `q`. No `..` is taken textually, so a target
  without `..` lies below the configuration directory (`Path.Sees.liesBelow`).
* Numbers that are too long to be written, and directories that hold NUL, are all else that fails.
-/

namespace DeviceLauncher

/-! ## Lists of results -/

section

variable {α β γ ε : Type} {f : α → Except ε β} {l first rest : List α} {a : α} {e : ε}

theorem mapM_eq_ok_iff {out : List β} :
    l.mapM f = .ok out ↔ List.Forall₂ (fun a b => f a = .ok b) l out := by
  induction l generalizing out with
  | nil => cases out <;> simp [pure, Except.pure]
  | cons a l ih =>
    rw [List.mapM_cons]
    cases ha : f a with
    | error e => cases out <;> simp [bind, Except.bind, ha]
    | ok b =>
      cases hl : l.mapM f with
      | error e => cases out <;> simp [bind, Except.bind, ha, hl, ← ih]
      | ok bs => cases out <;> simp [bind, Except.bind, pure, Except.pure, ha, hl, ← ih]

theorem exists_mapM_eq_ok_iff : (∃ out, l.mapM f = .ok out) ↔ ∀ a ∈ l, ∃ b, f a = .ok b := by
  simp only [mapM_eq_ok_iff]
  induction l with
  | nil => simp
  | cons a l ih => simp [List.forall₂_cons_left_iff, ← ih]

theorem exists_of_mapM_error (h : l.mapM f = .error e) : ∃ a ∈ l, f a = .error e := by
  induction l with
  | nil => cases h
  | cons a l ih =>
    rw [List.mapM_cons] at h
    cases ha : f a with
    | error e' =>
      rw [ha] at h
      cases h
      exact ⟨a, List.mem_cons_self, ha⟩
    | ok b =>
      cases hl : l.mapM f with
      | error e' =>
        rw [ha, hl] at h
        cases h
        obtain ⟨x, hx, hfx⟩ := ih hl
        exact ⟨x, List.mem_cons_of_mem a hx, hfx⟩
      | ok bs =>
        rw [ha, hl] at h
        cases h

theorem exists_mapM_eq_error_iff :
    (∃ e, l.mapM f = .error e) ↔ ∃ a ∈ l, ∃ e, f a = .error e := by
  constructor
  · rintro ⟨e, h⟩
    obtain ⟨a, ha, hfa⟩ := exists_of_mapM_error h
    exact ⟨a, ha, e, hfa⟩
  · rintro ⟨a, ha, e, hfa⟩
    cases hl : l.mapM f with
    | error e' => exact ⟨e', rfl⟩
    | ok out =>
      obtain ⟨b, hb⟩ := exists_mapM_eq_ok_iff.1 ⟨out, hl⟩ a ha
      cases hfa.symm.trans hb

/-- The first failure is the one that counts. -/
theorem mapM_append_of_error (hfirst : ∀ x ∈ first, ∃ b, f x = .ok b) (ha : f a = .error e) :
    (first ++ a :: rest).mapM f = .error e := by
  obtain ⟨bs, hbs⟩ := exists_mapM_eq_ok_iff.2 hfirst
  rw [List.mapM_append, hbs, List.mapM_cons, ha]
  rfl

/-- Two passes over a list come to something if each of its items does. -/
theorem mapM_bind_mapM_eq_ok_iff {g : β → Except ε γ} {out : List γ} :
    (l.mapM f >>= fun bs => bs.mapM g) = .ok out ↔
      List.Forall₂ (fun a c => ∃ b, f a = .ok b ∧ g b = .ok c) l out := by
  constructor
  · intro h
    cases hl : l.mapM f with
    | error e =>
      rw [hl] at h
      cases h
    | ok bs =>
      rw [hl] at h
      replace h := mapM_eq_ok_iff.1 h
      replace hl := mapM_eq_ok_iff.1 hl
      induction hl generalizing out with
      | nil =>
        cases h
        exact .nil
      | cons ha _ ih =>
        cases h with
        | cons hb hbs => exact .cons ⟨_, ha, hb⟩ (ih hbs)
  · intro h
    induction h with
    | nil => rfl
    | @cons a c l out hac _ ih =>
      obtain ⟨b, ha, hb⟩ := hac
      cases hl : l.mapM f with
      | error e =>
        rw [hl] at ih
        cases ih
      | ok bs =>
        rw [hl] at ih
        rw [List.mapM_cons, ha, hl]
        change (b :: bs).mapM g = _
        rw [List.mapM_cons, hb, show bs.mapM g = _ from ih]
        rfl

end

/-! ## Paths as seen from others -/

namespace Path

variable {base p q : Path}

/-- What a path is from another one: itself if it says on its own where it leads, else its names come
after those of the other. -/
inductive Sees (base p : Path) : Path → Prop where
  | anchored : p.anchor ≠ .relative → Sees base p p
  | below : p.anchor = .relative → Sees base p ⟨base.anchor, base.names ++ p.names⟩

theorem sees_iff : Sees base p q ↔ base.join p = q := by
  unfold join
  constructor
  · rintro (h | h)
    · exact if_neg h
    · exact if_pos h
  · rintro rfl
    split
    · next h => exact .below h
    · next h => exact .anchored h

/-- Whether a path goes on from another one by some names, and never up. -/
def LiesBelow (base p : Path) : Prop :=
  p.anchor = base.anchor ∧ ∃ more, more ≠ [] ∧ Name.up ∉ more ∧ p.names = base.names ++ more

theorem Sees.liesBelow (h : Sees base p q) (hrelative : p.anchor = .relative) (hne : p ≠ here)
    (hup : Name.up ∉ p.names) : LiesBelow base q := by
  cases h with
  | anchored h => exact absurd hrelative h
  | below =>
    refine ⟨rfl, p.names, fun hnil => hne ?_, hup, rfl⟩
    obtain ⟨anchor, names⟩ := p
    subst hrelative hnil
    rfl

end Path

namespace Config

variable {c : Config} {e : Environment} {entry : Value} {project config : Path}

/-! ## Entries -/

/-- Whether an entry is a mapping with a source and a target that count as given. -/
def Names (c : Config) (entry source target : Value) : Prop :=
  ∃ fields, c.knots.untie entry = .map fields ∧ c.given? fields "source" = some source ∧
    c.given? fields "dest" = some target

def IsIncomplete (c : Config) (entry : Value) : Prop := ∀ source target, ¬ c.Names entry source target

/-- Whether an entry names a source or a target that has no text. -/
def HasNoText (c : Config) (entry : Value) : Prop :=
  ∃ source target, c.Names entry source target ∧
    (source.toText c.knots = .error .longNumber ∨ target.toText c.knots = .error .longNumber)

/-- What the source and the target of an entry are as texts. -/
def Means (c : Config) (entry : Value) (source target : String) : Prop :=
  ∃ s t, c.Names entry s t ∧ s.toText c.knots = .ok source ∧ t.toText c.knots = .ok target

theorem Names.unique {s t s' t' : Value} (h : c.Names entry s t) (h' : c.Names entry s' t') :
    s = s' ∧ t = t' := by
  obtain ⟨fields, hmap, hs, ht⟩ := h
  obtain ⟨fields', hmap', hs', ht'⟩ := h'
  cases hmap.symm.trans hmap'
  exact ⟨Option.some.inj (hs.symm.trans hs'), Option.some.inj (ht.symm.trans ht')⟩

theorem manifestTexts_of_names {s t : Value} (h : c.Names entry s t) :
    c.manifestTexts entry = do return (← s.toText c.knots, ← t.toText c.knots) := by
  obtain ⟨fields, hmap, hs, ht⟩ := h
  simp only [manifestTexts, hmap, hs, ht]

theorem manifestTexts_of_isIncomplete (h : c.IsIncomplete entry) :
    c.manifestTexts entry =
      (entry.literal c.knots >>= fun text => .error (.incompleteManifest text)) := by
  unfold manifestTexts
  simp only
  split
  · next s t hs ht =>
    cases hmap : c.knots.untie entry with
    | map fields =>
      simp only [hmap] at hs ht
      exact absurd ⟨fields, hmap, hs, ht⟩ (h s t)
    | _ =>
      simp only [hmap] at hs
      cases hs
  · rfl

theorem names_or_isIncomplete (c : Config) (entry : Value) :
    (∃ s t, c.Names entry s t) ∨ c.IsIncomplete entry := by
  by_cases h : ∃ s t, c.Names entry s t
  · exact .inl h
  · exact .inr fun s t hn => h ⟨s, t, hn⟩

/-- An entry comes to the texts of what it names, and fails where it is incomplete or one of them has
no text. -/
theorem manifestTexts_cases (c : Config) (entry : Value) :
    (∃ source target, c.manifestTexts entry = .ok (source, target) ∧ c.Means entry source target) ∨
    (∃ f, c.manifestTexts entry = .error f ∧ f.isWrongValue = true) ∧
      (c.IsIncomplete entry ∨ c.HasNoText entry) := by
  obtain ⟨s, t, h⟩ | h := names_or_isIncomplete c entry
  · rw [manifestTexts_of_names h]
    cases hs : s.toText c.knots with
    | error f =>
      obtain rfl := Value.toText_error hs
      exact .inr ⟨⟨_, rfl, rfl⟩, .inr ⟨s, t, h, .inl hs⟩⟩
    | ok source =>
      cases ht : t.toText c.knots with
      | error f =>
        obtain rfl := Value.toText_error ht
        exact .inr ⟨⟨_, rfl, rfl⟩, .inr ⟨s, t, h, .inr ht⟩⟩
      | ok target => exact .inl ⟨source, target, rfl, s, t, h, hs, ht⟩
  · rw [manifestTexts_of_isIncomplete h]
    cases hentry : entry.literal c.knots with
    | error f =>
      obtain rfl := Value.literal_error hentry
      exact .inr ⟨⟨_, rfl, rfl⟩, .inl h⟩
    | ok text => exact .inr ⟨⟨_, rfl, rfl⟩, .inl h⟩

theorem manifestTexts_eq_ok_iff {source target : String} :
    c.manifestTexts entry = .ok (source, target) ↔ c.Means entry source target := by
  constructor
  · intro h
    obtain ⟨source', target', hrun, hmeans⟩ | ⟨⟨f, hrun, -⟩, -⟩ := manifestTexts_cases c entry
    · cases hrun.symm.trans h
      exact hmeans
    · cases hrun.symm.trans h
  · rintro ⟨s, t, h, hs, ht⟩
    rw [manifestTexts_of_names h, hs, ht]
    rfl

theorem Means.not_isIncomplete {source target : String} (h : c.Means entry source target) :
    ¬ c.IsIncomplete entry := fun hno =>
  let ⟨s, t, hnames, _⟩ := h
  hno s t hnames

theorem Means.not_hasNoText {source target : String} (h : c.Means entry source target) :
    ¬ c.HasNoText entry := by
  rintro ⟨s, t, hnames, hno⟩
  obtain ⟨s', t', hnames', hs, ht⟩ := h
  obtain ⟨rfl, rfl⟩ := hnames.unique hnames'
  rcases hno with hno | hno
  · cases hs.symm.trans hno
  · cases ht.symm.trans hno

theorem manifestTexts_ok_iff_complete :
    (∃ texts, c.manifestTexts entry = .ok texts) ↔
      ¬ (c.IsIncomplete entry ∨ c.HasNoText entry) := by
  obtain ⟨source, target, hrun, hmeans⟩ | ⟨⟨f, hrun, -⟩, hno⟩ := manifestTexts_cases c entry
  · have hcomplete : ¬ (c.IsIncomplete entry ∨ c.HasNoText entry) := fun hno =>
      hno.elim hmeans.not_isIncomplete hmeans.not_hasNoText
    simp [hrun, hcomplete]
  · simp [hrun, hno]

/-! ## Directories -/

/-- Whether a section is missing, null or a mapping. -/
def IsSection (c : Config) (name : String) : Prop :=
  ∀ v, Value.field? c.raw name = some v → v = .null ∨ ∃ fields, c.knots.untie v = .map fields

/-- Whether a text begins with `~` and the name of a user that holds NUL. -/
def HasNulInUser (text : String) : Prop :=
  ∃ rest, text.toList = '~' :: rest ∧ '\x00' ∈ rest.takeWhile (· != '/')

/-- Whether a directory is configured whose value has no text, or one that cannot be expanded. -/
def IsUnusable (c : Config) (name : String) : Prop :=
  ∃ fields v, c.sectionFields "paths" = .ok fields ∧ c.given? fields name = some v ∧
    (v.toText c.knots = .error .longNumber ∨ ∃ text, v.toText c.knots = .ok text ∧ HasNulInUser text)

theorem sectionFields_of_isSection {name : String} (h : c.IsSection name) :
    ∃ fields, c.sectionFields name = .ok fields := by
  unfold sectionFields
  cases hgiven : c.given? c.raw name with
  | none => exact ⟨_, rfl⟩
  | some v =>
    obtain ⟨hv, hholds⟩ := Option.filter_eq_some_iff.1 hgiven
    obtain rfl | ⟨fields, hmap⟩ := h v hv
    · cases hholds
    · exact ⟨fields, by simp [fieldsOf, hmap]⟩

/-- Only a name that holds NUL cannot be expanded. -/
theorem expandHome_eq_none_iff (homeOf? : String → Option String) (text : String) :
    expandHome homeOf? text = none ↔ HasNulInUser text := by
  unfold expandHome HasNulInUser
  split
  · next rest htext =>
    have hname : (rest.takeWhile (· != '/')).contains '\x00' ↔
        ∃ rest', text.toList = '~' :: rest' ∧ '\x00' ∈ rest'.takeWhile (· != '/') := by
      simp [htext]
    rw [← hname]
    simp only
    split
    · next hnul => exact iff_of_true rfl hnul
    · next hno =>
      refine iff_of_false ?_ hno
      split <;> simp
  · next hno =>
    refine iff_of_false (by simp) ?_
    rintro ⟨rest, htext, -⟩
    exact hno rest htext

theorem expandPath_cases (e : Environment) (text : String) :
    (∃ p, expandPath e text = .ok p) ∧ ¬ HasNulInUser text ∨
      expandPath e text = .error .nul ∧ HasNulInUser text := by
  rw [← expandHome_eq_none_iff e.homeOf?, expandPath]
  cases expandHome e.homeOf? text with
  | none => exact .inr ⟨rfl, rfl⟩
  | some expanded => exact .inl ⟨⟨_, rfl⟩, by simp⟩

/-- A directory comes to a path unless its value is unusable. -/
theorem pathSetting_cases (hpaths : c.IsSection "paths") (e : Environment) (name : String)
    {default : String} (hdefault : ¬ HasNulInUser default) :
    (∃ p, c.pathSetting e name default = .ok p) ∧ ¬ c.IsUnusable name ∨
      (∃ f, c.pathSetting e name default = .error f ∧ f.isWrongValue = true) ∧
        c.IsUnusable name := by
  obtain ⟨fields, hfields⟩ := sectionFields_of_isSection hpaths
  have hrun : c.pathSetting e name default =
      (c.givenText? fields name >>= fun text? => expandPath e (text?.getD default)) := by
    simp only [pathSetting, hfields]
    rfl
  have hunusable : c.IsUnusable name ↔ ∃ v, c.given? fields name = some v ∧
      (v.toText c.knots = .error .longNumber ∨
        ∃ text, v.toText c.knots = .ok text ∧ HasNulInUser text) := by
    simp [IsUnusable, hfields]
  rw [hrun, hunusable, givenText?]
  cases hgiven : c.given? fields name with
  | none =>
    obtain ⟨hok, -⟩ | ⟨-, hnul⟩ := expandPath_cases e default
    · exact .inl ⟨hok, by simp⟩
    · exact absurd hnul hdefault
  | some v =>
    cases htext : v.toText c.knots with
    | error f =>
      obtain rfl := Value.toText_error htext
      exact .inr ⟨⟨.longNumber, by simp [htext, bind, Except.bind], rfl⟩, v, rfl, .inl htext⟩
    | ok text =>
      obtain ⟨⟨p, hp⟩, hnul⟩ | ⟨hp, hnul⟩ := expandPath_cases e text
      · exact .inl ⟨⟨p, by simpa [htext, bind, Except.bind, pure, Except.pure] using hp⟩,
          by simp [htext, hnul]⟩
      · exact .inr ⟨⟨.nul, by simpa [htext, bind, Except.bind, pure, Except.pure] using hp, rfl⟩,
          v, rfl, .inr ⟨text, htext, hnul⟩⟩

theorem projectDirectory_cases (hpaths : c.IsSection "paths") (e : Environment) :
    (∃ p, c.projectDirectory e = .ok p) ∧ ¬ c.IsUnusable "project_dir" ∨
      (∃ f, c.projectDirectory e = .error f ∧ f.isWrongValue = true) ∧
        c.IsUnusable "project_dir" :=
  pathSetting_cases hpaths e _ (by simp [HasNulInUser])

theorem configDirectory_cases (hpaths : c.IsSection "paths") (e : Environment) :
    (∃ p, c.configDirectory e = .ok p) ∧ ¬ c.IsUnusable "config_dir" ∨
      (∃ f, c.configDirectory e = .error f ∧ f.isWrongValue = true) ∧
        c.IsUnusable "config_dir" :=
  pathSetting_cases hpaths e _ (by simp [HasNulInUser])

/-! ## Manifests -/

/-- Whether a manifest has the source and the target that two texts stand for: one seen from the
project directory, and the other from the configuration directory. -/
def Places (c : Config) (e : Environment) (texts : String × String) (m : Manifest) : Prop :=
  ∃ project config, c.projectDirectory e = .ok project ∧ c.configDirectory e = .ok config ∧
    project.Sees (.ofString texts.1) m.source ∧ config.Sees (.ofString texts.2) m.target

/-- Whether a manifest is the one that an entry stands for. -/
def Resolves (c : Config) (e : Environment) (entry : Value) (m : Manifest) : Prop :=
  ∃ source target, c.Means entry source target ∧ c.Places e (source, target) m

/-- The manifest that two texts stand for. -/
def manifestOf (c : Config) (e : Environment) (texts : String × String) : Except Failure Manifest := do
  let source := (← c.projectDirectory e).join (Path.ofString texts.1)
  let target := (← c.configDirectory e).join (Path.ofString texts.2)
  return ⟨source, target⟩

theorem manifests_eq (c : Config) (e : Environment) :
    c.manifests e = c.allManifestTexts >>= fun texts => texts.mapM (c.manifestOf e) := rfl

theorem manifestOf_eq_ok_iff {texts : String × String} {m : Manifest} :
    c.manifestOf e texts = .ok m ↔ c.Places e texts m := by
  obtain ⟨source, target⟩ := m
  cases hp : c.projectDirectory e <;> cases hc : c.configDirectory e <;>
    simp [manifestOf, Places, hp, hc, Path.sees_iff, bind, Except.bind, pure, Except.pure]

/-- Whether a directory that manifests are seen from is unusable. -/
def LacksBase (c : Config) : Prop := c.IsUnusable "project_dir" ∨ c.IsUnusable "config_dir"

theorem manifestOf_cases (hpaths : c.IsSection "paths") (e : Environment)
    (texts : String × String) :
    (∃ m, c.manifestOf e texts = .ok m) ∧ ¬ c.LacksBase ∨
      (∃ f, c.manifestOf e texts = .error f ∧ f.isWrongValue = true) ∧ c.LacksBase := by
  unfold manifestOf LacksBase
  obtain ⟨⟨p, hp⟩, hproject⟩ | ⟨⟨f, hf, hwrong⟩, hproject⟩ := projectDirectory_cases hpaths e
  · obtain ⟨⟨q, hq⟩, hconfig⟩ | ⟨⟨f, hf, hwrong⟩, hconfig⟩ := configDirectory_cases hpaths e
    · rw [hp, hq]
      exact .inl ⟨⟨_, rfl⟩, fun h => h.elim hproject hconfig⟩
    · rw [hp, hf]
      exact .inr ⟨⟨f, rfl, hwrong⟩, .inr hconfig⟩
  · rw [hf]
    exact .inr ⟨⟨f, rfl, hwrong⟩, .inl hproject⟩

theorem allManifestTexts_of_list {v : Value} {entries : List Value}
    (hv : Value.field? c.raw "manifests" = some v) (hlist : c.knots.untie v = .list entries) :
    c.allManifestTexts = entries.mapM c.manifestTexts := by
  unfold allManifestTexts
  cases v with
  | null => cases hlist
  | _ =>
    simp only [hv, itemsOf, hlist]
    rfl

theorem allManifestTexts_of_none
    (h : Value.field? c.raw "manifests" = none ∨ Value.field? c.raw "manifests" = some .null) :
    c.allManifestTexts = .ok defaultManifests := by
  unfold allManifestTexts
  rcases h with h | h <;> rw [h]

/-- The manifests of a list are those that its entries stand for. -/
theorem manifests_of_list_eq_ok_iff {v : Value} {entries : List Value}
    (hv : Value.field? c.raw "manifests" = some v) (hlist : c.knots.untie v = .list entries)
    {out : List Manifest} :
    c.manifests e = .ok out ↔ List.Forall₂ (c.Resolves e) entries out := by
  rw [manifests_eq, allManifestTexts_of_list hv hlist, mapM_bind_mapM_eq_ok_iff]
  simp only [Prod.exists, manifestTexts_eq_ok_iff, manifestOf_eq_ok_iff]
  rfl

/-- Once there are texts, only the directories can fail, and only where one is needed. -/
theorem manifests_of_texts (hpaths : c.IsSection "paths") {texts : List (String × String)}
    (htexts : c.allManifestTexts = .ok texts) :
    ((∃ f, c.manifests e = .error f) ↔ texts ≠ [] ∧ c.LacksBase) ∧
      ∀ f, c.manifests e = .error f → f.isWrongValue = true := by
  have hrun : c.manifests e = texts.mapM (c.manifestOf e) := by
    rw [manifests_eq, htexts]
    rfl
  rw [hrun, exists_mapM_eq_error_iff]
  refine ⟨⟨?_, ?_⟩, ?_⟩
  · rintro ⟨text, hmem, f, hf⟩
    obtain ⟨⟨m, hm⟩, -⟩ | ⟨-, hno⟩ := manifestOf_cases hpaths e text
    · cases hm.symm.trans hf
    · exact ⟨List.ne_nil_of_mem hmem, hno⟩
  · rintro ⟨hne, hno⟩
    obtain ⟨text, rest, rfl⟩ := List.exists_cons_of_ne_nil hne
    obtain ⟨-, hbase⟩ | ⟨⟨f, hf, -⟩, -⟩ := manifestOf_cases hpaths e text
    · exact absurd hno hbase
    · exact ⟨text, List.mem_cons_self, f, hf⟩
  · intro f hf
    obtain ⟨text, -, htext⟩ := exists_of_mapM_error hf
    obtain ⟨⟨m, hm⟩, -⟩ | ⟨⟨f', hf', hwrong⟩, -⟩ := manifestOf_cases hpaths e text
    · cases hm.symm.trans htext
    · cases hf'.symm.trans htext
      exact hwrong

/-- All that fails is a wrong value: an entry that is incomplete or has no text, or a directory that
entries are seen from. -/
theorem manifests_error_of_list (hpaths : c.IsSection "paths") {v : Value} {entries : List Value}
    (hv : Value.field? c.raw "manifests" = some v) (hlist : c.knots.untie v = .list entries) :
    ((∃ f, c.manifests e = .error f) ↔
      (∃ entry ∈ entries, c.IsIncomplete entry ∨ c.HasNoText entry) ∨
        entries ≠ [] ∧ c.LacksBase) ∧
      ∀ f, c.manifests e = .error f → f.isWrongValue = true := by
  have htexts := allManifestTexts_of_list hv hlist
  cases hrun : entries.mapM c.manifestTexts with
  | error f =>
    have hfail : c.manifests e = .error f := by
      rw [manifests_eq, htexts, hrun]
      rfl
    obtain ⟨entry, hmem, hentry⟩ := exists_of_mapM_error hrun
    obtain ⟨source, target, hok, -⟩ | ⟨⟨f', hf', hwrong⟩, hno⟩ := manifestTexts_cases c entry
    · cases hok.symm.trans hentry
    · cases hf'.symm.trans hentry
      rw [hfail]
      refine ⟨⟨fun _ => .inl ⟨entry, hmem, hno⟩, fun _ => ⟨f, rfl⟩⟩, ?_⟩
      rintro _ ⟨⟩
      exact hwrong
  | ok texts =>
    rw [hrun] at htexts
    obtain ⟨hiff, hwrong⟩ := manifests_of_texts (e := e) hpaths htexts
    refine ⟨hiff.trans ?_, hwrong⟩
    have hcomplete : ¬ ∃ entry ∈ entries, c.IsIncomplete entry ∨ c.HasNoText entry := by
      rintro ⟨entry, hmem, hno⟩
      exact manifestTexts_ok_iff_complete.1 (exists_mapM_eq_ok_iff.1 ⟨texts, hrun⟩ entry hmem) hno
    have hlength := (mapM_eq_ok_iff.1 hrun).length_eq
    simp only [hcomplete, false_or, ← List.length_pos_iff, hlength]

/-- The manifests of a list are resolved as follows, if the directories are in a mapping.

* They fail if and only if an entry of the list is no mapping with a source and a target, or one of
  these has no text, or there are entries and a directory that they are seen from is unusable. A wrong
  value is the cause then.
* Where the first entry that fails is an incomplete one, its text is told.
* Else there is one manifest for each entry, in their order. A relative path goes on from its
  directory by its own names; any other replaces it.
* A target that is relative, is not `.` and has no `..` lies below the configuration directory.
* Without a list, the default manifests are resolved. An empty list has no manifests. -/
theorem manifests_spec (hpaths : c.IsSection "paths") (e : Environment) :
    (∀ v entries, Value.field? c.raw "manifests" = some v → c.knots.untie v = .list entries →
      ((∃ f, c.manifests e = .error f) ↔
        (∃ entry ∈ entries, c.IsIncomplete entry ∨ c.HasNoText entry) ∨
          entries ≠ [] ∧ c.LacksBase) ∧
      (∀ f, c.manifests e = .error f → f.isWrongValue = true) ∧
      (∀ first entry rest text, entries = first ++ entry :: rest →
        (∀ x ∈ first, ¬ c.IsIncomplete x ∧ ¬ c.HasNoText x) → c.IsIncomplete entry →
          entry.literal c.knots = .ok text →
            c.manifests e = .error (.incompleteManifest text)) ∧
      (∀ out, c.manifests e = .ok out ↔ List.Forall₂ (c.Resolves e) entries out) ∧
      (entries = [] → c.manifests e = .ok [])) ∧
    ((Value.field? c.raw "manifests" = none ∨ Value.field? c.raw "manifests" = some .null) →
      ((∃ f, c.manifests e = .error f) ↔ c.LacksBase) ∧
      ∀ out, c.manifests e = .ok out ↔ List.Forall₂ (c.Places e) defaultManifests out) ∧
    ∀ texts m config, c.Places e texts m → c.configDirectory e = .ok config →
      (Path.ofString texts.2).anchor = .relative → Path.ofString texts.2 ≠ .here →
        Name.up ∉ (Path.ofString texts.2).names → Path.LiesBelow config m.target := by
  refine ⟨fun v entries hv hlist => ?_, fun hnone => ?_, ?_⟩
  · have htexts := allManifestTexts_of_list hv hlist
    obtain ⟨hiff, hwrong⟩ := manifests_error_of_list (e := e) hpaths hv hlist
    refine ⟨hiff, hwrong, ?_, fun out => manifests_of_list_eq_ok_iff hv hlist, ?_⟩
    · rintro first entry rest text rfl hfirst hentry htext
      have hok : ∀ x ∈ first, ∃ texts, c.manifestTexts x = .ok texts := fun x hx =>
        manifestTexts_ok_iff_complete.2 fun h => h.elim (hfirst x hx).1 (hfirst x hx).2
      have herror : c.manifestTexts entry = .error (.incompleteManifest text) := by
        rw [manifestTexts_of_isIncomplete hentry, htext]
        rfl
      rw [manifests_eq, htexts, mapM_append_of_error hok herror]
      rfl
    · rintro rfl
      rw [manifests_eq, htexts]
      rfl
  · have htexts := allManifestTexts_of_none hnone
    obtain ⟨hiff, -⟩ := manifests_of_texts (e := e) hpaths htexts
    refine ⟨by simpa [defaultManifests] using hiff, fun out => ?_⟩
    rw [manifests_eq, htexts]
    change defaultManifests.mapM (c.manifestOf e) = _ ↔ _
    simp only [mapM_eq_ok_iff, manifestOf_eq_ok_iff]
  · rintro texts m config ⟨project, config', -, hconfig', -, hsees⟩ hconfig hrelative hne hup
    cases hconfig'.symm.trans hconfig
    exact hsees.liesBelow hrelative hne hup

/-! ## A configuration with two entries -/

/-- An entry of the manifest list. -/
def entryOf (source target : String) : Value :=
  .map [(.text "source", .text source), (.text "dest", .text target)]

/-- A configuration with its directories in a section and with a list of entries. -/
def listing (paths : List (Value × Value)) (entries : List Value) : Config :=
  { raw := [(.text "paths", .map paths), (.text "manifests", .list entries)], source := none }

theorem field?_paths_listing (paths : List (Value × Value)) (entries : List Value) :
    Value.field? (listing paths entries).raw "paths" = some (.map paths) := by
  simp [listing, Value.field?, Value.sameKey, Value.key?]

theorem field?_manifests_listing (paths : List (Value × Value)) (entries : List Value) :
    Value.field? (listing paths entries).raw "manifests" = some (.list entries) := by
  simp [listing, Value.field?, Value.sameKey, Value.key?]

theorem isSection_listing (paths : List (Value × Value)) (entries : List Value) :
    (listing paths entries).IsSection "paths" := by
  intro v hv
  cases (field?_paths_listing paths entries).symm.trans hv
  exact .inr ⟨paths, rfl⟩

theorem sectionFields_listing {paths : List (Value × Value)} (h : paths ≠ [])
    (entries : List Value) : (listing paths entries).sectionFields "paths" = .ok paths := by
  have hholds : (Value.map paths).holds = true := by simpa [Value.holds] using h
  have hgiven : (listing paths entries).given? (listing paths entries).raw "paths" =
      some (.map paths) := Option.filter_eq_some_iff.2 ⟨field?_paths_listing _ _, hholds⟩
  simp only [sectionFields, hgiven]
  rfl

theorem given?_of_text {fields : List (Value × Value)} {name text : String}
    (h : Value.field? fields name = some (.text text)) (hne : text ≠ "") :
    c.given? fields name = some (.text text) :=
  Option.filter_eq_some_iff.2 ⟨h, by simpa [Knots.untie, Value.holds] using hne⟩

theorem means_entryOf {source target : String} (hs : source ≠ "") (ht : target ≠ "") :
    c.Means (entryOf source target) source target :=
  ⟨.text source, .text target, ⟨_, rfl, given?_of_text rfl hs, given?_of_text rfl ht⟩, rfl, rfl⟩

/-- Only a text that begins with `~` is expanded. -/
theorem expandHome_of_head?_ne {homeOf? : String → Option String} {text : String}
    (h : text.toList.head? ≠ some '~') : expandHome homeOf? text = some text := by
  unfold expandHome
  split
  · next rest htext =>
    rw [htext] at h
    exact absurd rfl h
  · rfl

/-- A directory that is given as a text is the path of that text once it is expanded. -/
theorem pathSetting_of_field {fields : List (Value × Value)} {name default text : String}
    (hfields : c.sectionFields "paths" = .ok fields)
    (h : Value.field? fields name = some (.text text)) (hne : text ≠ "") :
    c.pathSetting e name default = expandPath e text := by
  have hgiven : c.given? fields name = some (.text text) := given?_of_text h hne
  simp only [pathSetting, hfields, givenText?, bind, Except.bind, hgiven]
  rfl

/-- A directory that is given as a text without `~` is the path of that text. -/
theorem pathSetting_of_text {fields : List (Value × Value)} {name default text : String}
    (hfields : c.sectionFields "paths" = .ok fields)
    (h : Value.field? fields name = some (.text text)) (hne : text ≠ "")
    (hhome : text.toList.head? ≠ some '~') :
    c.pathSetting e name default = .ok (.ofString text) := by
  rw [pathSetting_of_field hfields h hne, expandPath, expandHome_of_head?_ne hhome]

/-- A relative and an absolute source, and targets with and without `..`. -/
def twoEntries : Config :=
  listing [(.text "project_dir", .text "/p"), (.text "config_dir", .text "/c")]
    [entryOf "a" "b/../m", entryOf "/s" "t"]

theorem directories_twoEntries (e : Environment) :
    twoEntries.projectDirectory e = .ok (.ofString "/p") ∧
      twoEntries.configDirectory e = .ok (.ofString "/c") := by
  have hfields : twoEntries.sectionFields "paths" = _ := sectionFields_listing (by simp) _
  exact ⟨pathSetting_of_text hfields rfl (by decide) (by decide),
    pathSetting_of_text hfields rfl (by decide) (by decide)⟩

/-- One target leaves the configuration directory by `..`, and the other lies below it. -/
theorem manifests_spec_of_two : twoEntries.IsSection "paths" ∧
    twoEntries.manifests .empty = .ok [⟨.ofString "/p/a", .ofString "/c/b/../m"⟩,
      ⟨.ofString "/s", .ofString "/c/t"⟩] ∧
    Path.LiesBelow (.ofString "/c") (.ofString "/c/t") := by
  have hpaths : twoEntries.IsSection "paths" := isSection_listing _ _
  obtain ⟨hp, hc⟩ := directories_twoEntries .empty
  have hspec := manifests_spec (c := twoEntries) hpaths .empty
  have hlast : twoEntries.Places .empty ("/s", "t") ⟨.ofString "/s", .ofString "/c/t"⟩ :=
    ⟨_, _, hp, hc, .anchored (by decide), .below (by decide)⟩
  refine ⟨hpaths, ((hspec.1 _ _ (field?_manifests_listing _ _) rfl).2.2.2.1 _).2 ?_,
    hspec.2.2 _ _ _ hlast hc (by decide) (by decide) (by decide)⟩
  exact .cons ⟨"a", "b/../m", means_entryOf (by decide) (by decide),
      ⟨_, _, hp, hc, .below (by decide), .below (by decide)⟩⟩
    (.cons ⟨"/s", "t", means_entryOf (by decide) (by decide), hlast⟩ .nil)

/-- Not only incomplete entries fail: a directory may hold NUL where the name of a user is looked
for. -/
theorem not_only_incomplete_fails : ¬ ∀ (c : Config) (e : Environment) (v : Value)
    (entries : List Value), c.IsSection "paths" → Value.field? c.raw "manifests" = some v →
      c.knots.untie v = .list entries →
        ((∃ f, c.manifests e = .error f) ↔ ∃ entry ∈ entries, c.IsIncomplete entry) := by
  intro h
  let paths : List (Value × Value) := [(.text "project_dir", .text "~\x00")]
  let c := listing paths [entryOf "/a" "/b"]
  have hpaths : c.IsSection "paths" := isSection_listing _ _
  have hmanifests : Value.field? c.raw "manifests" = _ := field?_manifests_listing _ _
  have hproject : c.IsUnusable "project_dir" :=
    ⟨paths, .text "~\x00", sectionFields_listing (by simp [paths]) _,
      given?_of_text rfl (by decide), .inr ⟨_, rfl, ['\x00'], by decide, by decide⟩⟩
  have hfail := (manifests_error_of_list (e := .empty) hpaths hmanifests rfl).1.2
    (.inr ⟨by simp, .inl hproject⟩)
  obtain ⟨entry, hentry, hno⟩ := (h c .empty _ _ hpaths hmanifests rfl).1 hfail
  obtain rfl := List.mem_singleton.1 hentry
  exact (means_entryOf (by decide) (by decide)).not_isIncomplete hno

end Config

end DeviceLauncher
