import DeviceLauncher.Proofs.Config.Manifests
import DeviceLauncher.Proofs.Install.Directory
import DeviceLauncher.Proofs.Install.File
import DeviceLauncher.Proofs.Path.Normal

/-!
# Settings that are handed on as texts

The steps of a command hand their paths on as texts, and what they call reads these again.
`Config.HandsOn c e argv p text` lists the paths of a configuration with their texts.

Nothing is lost on the way (`paths_as_texts`): such a text is in normal form, and it is read as the path
that was configured, by the launcher and by the system. No `~` in it is expanded and no `..` collapsed.
-/

namespace DeviceLauncher.Config

open Install

/-- A path that the configuration comes to, with the text by which it is handed on. Of the log file there
is the text alone. -/
inductive HandsOn (c : Config) (e : Environment) (argv : List String) : Path → String → Prop where
  | projectDirectory {p : Path} : c.projectDirectory e = .ok p → HandsOn c e argv p p.toString
  | binaryDirectory {p : Path} : c.binaryDirectory e = .ok p → HandsOn c e argv p p.toString
  | configDirectory {p : Path} : c.configDirectory e = .ok p → HandsOn c e argv p p.toString
  | executable {p : Path} : c.executable e argv = .ok p → HandsOn c e argv p p.toString
  | installedBinary {p : Path} : c.installedBinary e = .ok p → HandsOn c e argv p p.toString
  | source {manifests : List Manifest} {m : Manifest} : c.manifests e = .ok manifests →
      m ∈ manifests → HandsOn c e argv m.source m.source.toString
  | target {manifests : List Manifest} {m : Manifest} : c.manifests e = .ok manifests →
      m ∈ manifests → HandsOn c e argv m.target m.target.toString
  | log {text : String} : c.logPath e = .ok (some text) → HandsOn c e argv (Path.ofString text) text

variable {c : Config} {e : Environment} {argv : List String} {p q : Path} {text : String}

theorem exists_of_bind_eq_ok {α β : Type} {x : Except Failure α} {f : α → Except Failure β} {b : β}
    (h : x >>= f = .ok b) : ∃ a, x = .ok a ∧ f a = .ok b := by
  cases x with
  | error e => cases h
  | ok a => exact ⟨a, rfl, h⟩

/-- The text of the log file is one that a path was written as. -/
theorem exists_of_logPath (h : c.logPath e = .ok (some text)) : ∃ p : Path, p.toString = text := by
  unfold logPath at h
  obtain ⟨fields, -, h⟩ := exists_of_bind_eq_ok h
  obtain ⟨given, -, h⟩ := exists_of_bind_eq_ok h
  cases given with
  | none => cases h
  | some path =>
    obtain ⟨p, -, h⟩ := exists_of_bind_eq_ok h
    cases h
    exact ⟨p, rfl⟩

theorem HandsOn.toString_eq (h : c.HandsOn e argv p text) : p.toString = text := by
  cases h with
  | log h =>
    obtain ⟨q, rfl⟩ := exists_of_logPath h
    rw [Path.ofString_toString]
  | _ => rfl

/-- What the system is to follow for a path: its own names, from the root if it has an anchor. -/
def routeOf (p : Path) : Route :=
  ⟨p.anchor ≠ .relative, if p = .here then ["."] else p.names.map Name.text⟩

/-- The text by which a path is handed on stands for that path and for no other.

* It is in normal form, never empty, and it is read as the path and written again as it was. The system
  finds the names of the path in it.
* Different paths have different texts. A copy from one text to another is a copy from one path to the
  other.
* Seeing to a directory at the text is making the directories of the path, unless it fails before. -/
theorem paths_as_texts (c : Config) (e : Environment) (argv : List String) :
    (∀ p text, c.HandsOn e argv p text → Path.IsNormal text ∧ text ≠ "" ∧ Path.ofString text = p ∧
      (Path.ofString text).toString = text ∧ Route.ofString text = routeOf p) ∧
    (∀ s source t target, c.HandsOn e argv s source → c.HandsOn e argv t target →
      (source = target ↔ s = t) ∧
      ∀ m m', (installFile source target false).run m = .ok () m' ↔ Copied s t m m') ∧
    ∀ p text, c.HandsOn e argv p text → ∀ m,
      (∃ m₁, (m₁ = m ∨ m₁ = m.report (.directoryExists text)) ∧
        (ensureDirectory text false).run m = (makeDirectories p).run m₁) ∨
      ∃ f, (ensureDirectory text false).run m = .error f m := by
  refine ⟨?_, ?_, ?_⟩
  · intro p text h
    obtain rfl := h.toString_eq
    rw [Path.ofString_toString]
    exact ⟨p.isNormal_toString, p.toString_ne_empty, rfl, rfl, p.route_toString⟩
  · intro s source t target hs ht
    obtain rfl := hs.toString_eq
    obtain rfl := ht.toString_eq
    exact ⟨Path.toString_inj, fun m m' => installFile_ok_iff⟩
  · intro p text h m
    obtain rfl := h.toString_eq
    exact run_ensureDirectory p m

/-- Settings whose paths are written otherwise than they were given. -/
def oddPaths : Config where
  raw := [(.text "paths", .map [(.text "project_dir", .text "./~/a/../b"),
      (.text "bin_dir", .text "~//x/."), (.text "config_dir", .text "///c")]),
    (.text "binary_name", .text "../r"), (.text "logging", .map [(.text "path", .text "~")])]
  source := none

/-- A `~` that comes to the front is no home directory, and two slashes remain two. -/
theorem paths_as_texts_of_odd :
    let e : Environment := ⟨[("HOME", "//h/")], .none⟩
    oddPaths.HandsOn e [] (Path.ofString "./~/a/../b") "~/a/../b" ∧
    (Path.ofString "~/a/../b").names.map Name.text = ["~", "a", "..", "b"] ∧
    (Path.ofString "~/a/../b").toString = "~/a/../b" ∧
    Path.ofString "//h/x/../r" ≠ Path.ofString "/c" ∧ (Path.ofString "//h").toString = "//h" := by
  intro e
  have hproject : oddPaths.HandsOn e [] _ _ :=
    .projectDirectory (p := Path.ofString "./~/a/../b") (by cbv)
  have hbinary : oddPaths.HandsOn e [] _ _ :=
    .installedBinary (p := Path.ofString "//h/x/../r") (by cbv)
  have hconfig : oddPaths.HandsOn e [] _ _ := .configDirectory (p := Path.ofString "/c") (by cbv)
  have hlog : oddPaths.HandsOn e [] _ "//h" := .log (by cbv)
  obtain ⟨htexts, hpairs, -⟩ := paths_as_texts oddPaths e []
  refine ⟨hproject, by decide, (htexts _ _ hproject).2.2.2.1, ?_, (htexts _ _ hlog).2.2.2.1⟩
  exact fun h => absurd ((hpairs _ _ _ _ hbinary hconfig).1.2 h) (by decide)

end DeviceLauncher.Config
