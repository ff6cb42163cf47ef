import DeviceLauncher.Config
import Mathlib

/-!
# Configurations with a shorter manifest list

`Config.cutManifests k` is the configuration with the first `k` entries of its manifest list only.
It has the first `k` manifests (`manifests_cutManifests`) and every other setting as before.
-/

namespace DeviceLauncher

namespace Value

variable (entries : List (Value × Value)) (v : Value)

theorem key?_text (s : String) : (text s).key? = some (.text s) := rfl

theorem sameKey_text_iff {k : Value} {name : String} :
    k.sameKey (.text name) = true ↔ k.key? = some (.text name) := by
  rw [sameKey, key?_text]
  cases k.key? <;> simp

theorem field?_insert_self (name : String) :
    field? (insert entries (.text name) v) name = some v := by
  induction entries with
  | nil => simp [insert, field?, sameKey, key?]
  | cons entry rest ih =>
    obtain ⟨k, old⟩ := entry
    by_cases hk : k.sameKey (.text name)
    · simp [insert, field?, hk]
    · simpa [insert, field?, hk] using ih

/-- Writing an entry leaves those under other texts as they are. -/
theorem field?_insert_of_ne {name other : String} (h : other ≠ name) :
    field? (insert entries (.text name) v) other = field? entries other := by
  have hkey (k : Value) (hk : k.sameKey (.text name) = true) :
      k.sameKey (.text other) = false := by
    rw [sameKey_text_iff] at hk
    rw [sameKey, hk, key?_text]
    simpa using h.symm
  induction entries with
  | nil => simp [insert, field?, hkey (.text name) (by simp [sameKey, key?])]
  | cons entry rest ih =>
    obtain ⟨k, old⟩ := entry
    by_cases hk : k.sameKey (.text name)
    · simp [insert, field?, hk, hkey k hk]
    · by_cases hother : k.sameKey (.text other)
      · simp [insert, field?, hk, hother]
      · simpa [insert, field?, hk, hother] using ih

end Value

namespace Config

/-- The entries of the manifest list, as configured or the default ones. -/
def manifestEntries (c : Config) : Except Failure (List Value) :=
  match Value.field? c.raw "manifests" with
  | none | some .null => .ok (defaultManifests.map fun (source, target) =>
      .map [(.text "source", .text source), (.text "dest", .text target)])
  | some v => c.itemsOf v

theorem mapM_take {α β ε : Type} {f : α → Except ε β} {l : List α} {out : List β}
    (h : l.mapM f = .ok out) (k : Nat) : (l.take k).mapM f = .ok (out.take k) := by
  induction l generalizing out k with
  | nil =>
    cases h
    simp [pure, Except.pure]
  | cons a l ih =>
    rw [List.mapM_cons] at h
    cases ha : f a with
    | error e => simp [ha, bind, Except.bind] at h
    | ok b =>
      cases hl : l.mapM f with
      | error e => simp [ha, hl, bind, Except.bind] at h
      | ok rest =>
        obtain rfl : b :: rest = out := by
          simpa [ha, hl, bind, Except.bind, pure, Except.pure] using h
        cases k with
        | zero => rfl
        | succ k =>
          rw [List.take_succ_cons, List.mapM_cons, ha, ih hl k]
          rfl

/-- The configuration with the first entries of its manifest list only. -/
def cutManifests (c : Config) (k : Nat) : Config :=
  match c.manifestEntries with
  | .ok items => { c with raw := Value.insert c.raw (.text "manifests") (.list (items.take k)) }
  | .error _ => c

variable (c : Config) (k : Nat)

/-- The entries that stand for the default manifests mean them. -/
theorem allManifestTexts_eq :
    c.allManifestTexts = c.manifestEntries >>= fun items => items.mapM c.manifestTexts := by
  unfold allManifestTexts manifestEntries
  cases Value.field? c.raw "manifests" with
  | none => rfl
  | some v => cases v <;> rfl

theorem knots_cutManifests : (c.cutManifests k).knots = c.knots := by
  unfold cutManifests
  split <;> rfl

theorem field?_cutManifests {name : String} (h : name ≠ "manifests") :
    Value.field? (c.cutManifests k).raw name = Value.field? c.raw name := by
  unfold cutManifests
  split
  · exact Value.field?_insert_of_ne _ _ h
  · rfl

theorem field?_manifests_cutManifests {items : List Value} (h : c.manifestEntries = .ok items) :
    Value.field? (c.cutManifests k).raw "manifests" = some (.list (items.take k)) := by
  simp only [cutManifests, h]
  exact Value.field?_insert_self _ _ _

/-- No setting but the manifest list depends on its entries. -/
theorem pathSetting_cutManifests (e : Environment) (name default : String) :
    (c.cutManifests k).pathSetting e name default = c.pathSetting e name default := by
  simp only [pathSetting, sectionFields, given?, fieldsOf, givenText?, knots_cutManifests]
  rw [field?_cutManifests c k (by decide)]

theorem executable_cutManifests (e : Environment) (argv : List String) :
    (c.cutManifests k).executable e argv = c.executable e argv := by
  simp only [executable, sectionFields, given?, fieldsOf, givenText?, knots_cutManifests]
  rw [field?_cutManifests c k (by decide)]

theorem installedBinary_cutManifests (e : Environment) :
    (c.cutManifests k).installedBinary e = c.installedBinary e := by
  simp only [installedBinary, binaryDirectory, pathSetting_cutManifests, binaryName, given?,
    givenText?, knots_cutManifests]
  rw [field?_cutManifests c k (by decide)]

theorem configDirectory_cutManifests (e : Environment) :
    (c.cutManifests k).configDirectory e = c.configDirectory e :=
  c.pathSetting_cutManifests k e _ _

theorem manifests_cutManifests {e : Environment} {manifests : List Manifest}
    (h : c.manifests e = .ok manifests) :
    (c.cutManifests k).manifests e = .ok (manifests.take k) := by
  rw [Config.manifests, allManifestTexts_eq] at h
  cases hitems : c.manifestEntries with
  | error f => simp [hitems, bind, Except.bind] at h
  | ok items =>
    simp only [hitems, bind, Except.bind] at h
    cases htexts : items.mapM c.manifestTexts with
    | error f => simp [htexts] at h
    | ok texts =>
      simp only [htexts] at h
      have hall : (c.cutManifests k).allManifestTexts = .ok (texts.take k) := by
        rw [allManifestTexts, field?_manifests_cutManifests c k hitems, ← mapM_take htexts k]
        simp only [itemsOf, Knots.untie, bind, Except.bind]
        congr 1
        funext entry
        simp only [manifestTexts, given?, knots_cutManifests]
      rw [Config.manifests, hall]
      simp only [bind, Except.bind, projectDirectory, configDirectory, pathSetting_cutManifests]
      exact mapM_take h k

end Config

end DeviceLauncher
