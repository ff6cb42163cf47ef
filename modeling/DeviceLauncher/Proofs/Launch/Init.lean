import DeviceLauncher.Proofs.FileSystem.Canonical
import DeviceLauncher.Proofs.Install.Directory
import DeviceLauncher.Proofs.Install.File
import DeviceLauncher.Proofs.Launch.Command

/-!
# The steps of `init`, one by one

`installBinary_cases`, `configDirectory_cases` and `run_copyManifests` say what each step comes to,
and what it has done when it fails: the first nothing, the second directories, and the third the
copies before the one that failed.

`Copies config m source target` lists the copies that `init` makes on a machine: the manifests, and
the program that runs unless it is installed already.
-/

namespace DeviceLauncher.Launch

open FileSystem Install

variable {config : Config} {context : Context} {m m' m'' : Machine} {source target : Path}

/-- Whether `init` is to copy `source` to `target`. -/
inductive Copies (config : Config) (m : Machine) (source target : Path) : Prop where
  | binary : config.executable m.environment m.argv = .ok source →
      config.installedBinary m.environment = .ok target →
        isInstalled m.files m.cwd source target = .ok false → Copies config m source target
  | manifest {manifests : List Manifest} : config.manifests m.environment = .ok manifests →
      ⟨source, target⟩ ∈ manifests → Copies config m source target

theorem isInstalled_of_rewritten {written : Inode → Prop} {before after : FileSystem}
    (h : Rewritten written before after) (cwd : Inode) (source target : Path) :
    isInstalled after cwd source target = isInstalled before cwd source target := by
  simp only [isInstalled, samePlace, h.look, h.canonical]

theorem isInstalled_of_logged (h : m.Logged m') (source target : Path) :
    isInstalled m'.files m'.cwd source target = isInstalled m.files m.cwd source target := by
  rw [isInstalled_of_rewritten h.files, h.scene.cwd]

/-- The log makes no difference to what is copied. -/
theorem copies_of_logged (h : m.Logged m') : Copies config m' = Copies config m := by
  funext source target
  refine propext ⟨fun hc => ?_, fun hc => ?_⟩
  · cases hc with
    | binary hsource htarget hinstalled =>
      rw [h.scene.environment] at hsource htarget
      rw [h.scene.argv] at hsource
      rw [isInstalled_of_logged h] at hinstalled
      exact .binary hsource htarget hinstalled
    | manifest hmanifests ha =>
      rw [h.scene.environment] at hmanifests
      exact .manifest hmanifests ha
  · cases hc with
    | binary hsource htarget hinstalled =>
      rw [← h.scene.environment] at hsource htarget
      rw [← h.scene.argv] at hsource
      rw [← isInstalled_of_logged h] at hinstalled
      exact .binary hsource htarget hinstalled
    | manifest hmanifests ha =>
      rw [← h.scene.environment] at hmanifests
      exact .manifest hmanifests ha

/-! ## The program -/

theorem run_installBinary (hdry : context.dryRun = false)
    (hsource : context.config.executable m.environment m.argv = .ok source)
    (htarget : context.config.installedBinary m.environment = .ok target)
    (hscript : source.suffix ≠ ".py") : (installBinary.run context).run m =
      match isInstalled m.files m.cwd source target with
      | .error e => .error e m
      | .ok true => .ok (.code 0) (m.report (.alreadyInstalled target.toString))
      | .ok false =>
        match (installFile source.toString target.toString false).run m with
        | .error e m' => .error e m'
        | .ok _ m' => .ok (.code 0) (m'.report (.installed target.toString)) := by
  simp only [installBinary, EStateM.run_bind, EStateM.run_get, Action.run_setting,
    Action.run_ofExcept, hsource, htarget, hscript, if_false, hdry]
  cases isInstalled m.files m.cwd source target with
  | error e => rfl
  | ok installed =>
    cases installed with
    | true => rfl
    | false =>
      simp only [Bool.false_eq_true, if_false, EStateM.run_bind]
      cases (installFile source.toString target.toString false).run m <;> rfl

/-- What the first step finds to do. -/
inductive Installs (context : Context) (m m' : Machine) : Prop where
  | already {source target : Path} :
      context.config.executable m.environment m.argv = .ok source →
      context.config.installedBinary m.environment = .ok target → source.suffix ≠ ".py" →
      isInstalled m.files m.cwd source target = .ok true →
        m' = m.report (.alreadyInstalled target.toString) → Installs context m m'
  | copy {source target : Path} {m₁ : Machine} :
      context.config.executable m.environment m.argv = .ok source →
      context.config.installedBinary m.environment = .ok target → source.suffix ≠ ".py" →
      isInstalled m.files m.cwd source target = .ok false → Copied source target m m₁ →
        m' = m₁.report (.installed target.toString) → Installs context m m'

/-- The first step installs the program, or it fails and has done nothing but to report. -/
theorem installBinary_cases (hdry : context.dryRun = false) (m : Machine) :
    (∃ m', (installBinary.run context).run m = .ok (.code 0) m' ∧ Installs context m m') ∨
      ∃ e m', (installBinary.run context).run m = .error e m' ∧ m.Logged m' := by
  cases hsource : context.config.executable m.environment m.argv with
  | error e =>
    refine .inr ⟨e, m, ?_, .refl m⟩
    simp only [installBinary, EStateM.run_bind, EStateM.run_get, Action.run_setting,
      Action.run_ofExcept, hsource]
  | ok source =>
    cases htarget : context.config.installedBinary m.environment with
    | error e =>
      refine .inr ⟨e, m, ?_, .refl m⟩
      simp only [installBinary, EStateM.run_bind, EStateM.run_get, Action.run_setting,
        Action.run_ofExcept, hsource, htarget]
    | ok target =>
      by_cases hscript : source.suffix = ".py"
      · refine .inr ⟨.scriptOnly source.toString, m, ?_, .refl m⟩
        simp only [installBinary, EStateM.run_bind, EStateM.run_get, Action.run_setting,
          Action.run_ofExcept, hsource, htarget, hscript, if_true]
        rfl
      · have hrun := run_installBinary hdry hsource htarget hscript
        cases hinstalled : isInstalled m.files m.cwd source target with
        | error e =>
          rw [hinstalled] at hrun
          exact .inr ⟨e, m, hrun, .refl m⟩
        | ok installed =>
          rw [hinstalled] at hrun
          cases installed with
          | true => exact .inl ⟨_, hrun, .already hsource htarget hscript hinstalled rfl⟩
          | false =>
            rcases installFile_cases source target m with ⟨m₁, h, hcopied⟩ | ⟨e, m₁, h, hlog⟩
            · rw [h] at hrun
              exact .inl ⟨_, hrun, .copy hsource htarget hscript hinstalled hcopied rfl⟩
            · rw [h] at hrun
              exact .inr ⟨e, m₁, hrun, hlog⟩

theorem installBinary_of_installs (hdry : context.dryRun = false) (h : Installs context m m') :
    (installBinary.run context).run m = .ok (.code 0) m' := by
  cases h with
  | already hsource htarget hscript hinstalled hm =>
    rw [run_installBinary hdry hsource htarget hscript, hinstalled, hm]
  | copy hsource htarget hscript hinstalled hcopied hm =>
    rw [run_installBinary hdry hsource htarget hscript, hinstalled, hm,
      installFile_of_copied hcopied]

theorem installBinary_eq_ok_iff (hdry : context.dryRun = false) :
    (installBinary.run context).run m = .ok (.code 0) m' ↔ Installs context m m' := by
  refine ⟨fun h => ?_, installBinary_of_installs hdry⟩
  rcases installBinary_cases hdry m with ⟨m₁, hrun, hinstalls⟩ | ⟨e, m₁, hrun, -⟩
  · rw [hrun] at h
    cases h
    exact hinstalls
  · rw [hrun] at h
    cases h

theorem Installs.wellFormed (hwf : m.files.WellFormed) (h : Installs context m m') :
    m'.files.WellFormed := by
  cases h with
  | already _ _ _ _ hm => exact hm ▸ hwf.rewritten (Machine.logged_report _ m).files
  | copy _ _ _ _ hcopied hm =>
    exact hm ▸ (hcopied.frame hwf).1.rewritten (Machine.logged_report _ _).files

theorem Installs.scene (h : Installs context m m') : m.SameScene m' := by
  cases h with
  | already _ _ _ _ hm => exact hm ▸ (Machine.logged_report _ m).scene
  | copy _ _ _ _ hcopied hm => exact hm ▸ hcopied.scene.trans (Machine.logged_report _ _).scene

/-! ## The directory -/

theorem run_configDirectory (hdry : context.dryRun = false) {p : Path}
    (hp : context.config.configDirectory m.environment = .ok p) :
    (configDirectory.run context).run m = match (ensureDirectory p.toString false).run m with
      | .error e m' => .error e m'
      | .ok _ m' => .ok (.code 0) m' := by
  simp only [configDirectory, EStateM.run_bind, Action.run_setting, Action.run_ofExcept, hp, hdry]
  cases (ensureDirectory p.toString false).run m <;> rfl

theorem run_configDirectory_of_error {e : Failure}
    (h : context.config.configDirectory m.environment = .error e) :
    (configDirectory.run context).run m = .error e m := by
  simp only [configDirectory, EStateM.run_bind, Action.run_setting, Action.run_ofExcept, h]

/-- The second step makes directories, also when it fails. -/
theorem configDirectory_cases (hdry : context.dryRun = false) (hwf : m.files.WellFormed) :
    (∃ e, context.config.configDirectory m.environment = .error e ∧
      (configDirectory.run context).run m = .error e m) ∨
    ∃ p m₁ m', context.config.configDirectory m.environment = .ok p ∧ m.Logged m₁ ∧
      m₁.SameScene m' ∧ m'.children = m₁.children ∧ Made m₁.files m₁.cwd p m'.files ∧
      ((∃ e, (configDirectory.run context).run m = .error e m') ∨
        (configDirectory.run context).run m = .ok (.code 0) m' ∧
          m'.files.hasDirectory m'.cwd p.toString = true) := by
  cases hp : context.config.configDirectory m.environment with
  | error e => exact .inl ⟨e, rfl, run_configDirectory_of_error hp⟩
  | ok p =>
    obtain ⟨m₁, m', hlog, hscene, hchildren, hmade, hend⟩ := ensureDirectory_after (p := p) hwf
    refine .inr ⟨p, m₁, m', rfl, hlog, hscene, hchildren, hmade, ?_⟩
    rw [run_configDirectory hdry hp]
    rcases hend with ⟨e, he⟩ | ⟨hok, hdirectory⟩
    · exact .inl ⟨e, by rw [he]⟩
    · exact .inr ⟨by rw [hok], hdirectory⟩

theorem configDirectory_eq_ok_iff (hdry : context.dryRun = false) :
    (configDirectory.run context).run m = .ok (.code 0) m' ↔
      ∃ p, context.config.configDirectory m.environment = .ok p ∧
        (ensureDirectory p.toString false).run m = .ok () m' := by
  cases hp : context.config.configDirectory m.environment with
  | error e => simp [run_configDirectory_of_error hp]
  | ok p =>
    rw [run_configDirectory hdry hp]
    cases hrun : (ensureDirectory p.toString false).run m <;> simp [hrun]

/-! ## The manifests -/

theorem run_copyAll_cons (a : Manifest) (rest : List Manifest) (m : Machine) :
    (copyAll false (a :: rest)).run m =
      match (installFile a.source.toString a.target.toString false).run m with
      | .error e m' => .error e m'
      | .ok _ m' => (copyAll false rest).run m' := by
  rw [copyAll, EStateM.run_bind]
  cases (installFile a.source.toString a.target.toString false).run m <;> rfl

/-- Copying some files and then others. -/
theorem run_copyAll_append (first rest : List Manifest) (m : Machine) :
    (copyAll false (first ++ rest)).run m = match (copyAll false first).run m with
      | .error e m' => .error e m'
      | .ok _ m' => (copyAll false rest).run m' := by
  induction first generalizing m with
  | nil => rfl
  | cons a first ih =>
    rw [List.cons_append, run_copyAll_cons, run_copyAll_cons]
    cases (installFile a.source.toString a.target.toString false).run m with
    | error e m' => rfl
    | ok _ m' => exact ih m'

theorem copyAll_cons_ok {a : Manifest} {rest : List Manifest}
    (h : (copyAll false (a :: rest)).run m = .ok () m') :
    ∃ m₁, Copied a.source a.target m m₁ ∧ (copyAll false rest).run m₁ = .ok () m' := by
  rw [run_copyAll_cons] at h
  cases hrun : (installFile a.source.toString a.target.toString false).run m with
  | error e m₁ =>
    rw [hrun] at h
    cases h
  | ok _ m₁ =>
    rw [hrun] at h
    exact ⟨m₁, installFile_ok_iff.1 hrun, h⟩

theorem copyAll_scene {manifests : List Manifest}
    (h : (copyAll false manifests).run m = .ok () m') : m.SameScene m' := by
  induction manifests generalizing m with
  | nil => cases h; exact .refl _
  | cons a rest ih =>
    obtain ⟨m₁, hcopied, hrest⟩ := copyAll_cons_ok h
    exact hcopied.scene.trans (ih hrest)

theorem run_copyManifests (hdry : context.dryRun = false) {manifests : List Manifest}
    (hmanifests : context.config.manifests m.environment = .ok manifests) :
    (copyManifests.run context).run m = match (copyAll false manifests).run m with
      | .error e m' => .error e m'
      | .ok _ m' =>
        match context.config.configDirectory m.environment with
        | .error e => .error e m'
        | .ok p => .ok (.code 0)
          (m'.report (.manifestsInstalled p.toString manifests.length)) := by
  simp only [copyManifests, EStateM.run_bind, Action.run_setting, Action.run_ofExcept, hmanifests,
    hdry]
  cases hrun : (copyAll false manifests).run m with
  | error e m' => rfl
  | ok _ m' =>
    simp only [(copyAll_scene hrun).environment]
    cases context.config.configDirectory m.environment <;> rfl

/-- Where the manifest list is refused, nothing is copied. -/
theorem run_copyManifests_of_error {e : Failure}
    (h : context.config.manifests m.environment = .error e) :
    (copyManifests.run context).run m = .error e m := by
  simp only [copyManifests, EStateM.run_bind, Action.run_setting, Action.run_ofExcept, h]

theorem copyManifests_eq_ok_iff (hdry : context.dryRun = false) :
    (copyManifests.run context).run m = .ok (.code 0) m' ↔
      ∃ manifests m₁ p, context.config.manifests m.environment = .ok manifests ∧
        (copyAll false manifests).run m = .ok () m₁ ∧
        context.config.configDirectory m.environment = .ok p ∧
        m' = m₁.report (.manifestsInstalled p.toString manifests.length) := by
  cases hmanifests : context.config.manifests m.environment with
  | error e => simp [run_copyManifests_of_error hmanifests]
  | ok manifests =>
    rw [run_copyManifests hdry hmanifests]
    cases hrun : (copyAll false manifests).run m with
    | error e m₁ => simp [hrun]
    | ok _ m₁ => cases context.config.configDirectory m.environment <;> simp [hrun, eq_comm]

/-! ## A small machine -/

/-- Files with a single one among them, `/t`. -/
def toolFiles : FileSystem := FileSystem.empty.add root "t" (.file ⟨ByteArray.empty, 0o755, 0⟩)

/-- Settings that install `/t` as `/c`. -/
def toolConfig (manifests : List (String × String)) : Config where
  raw := [(.text "paths", .map [(.text "executable", .text "/t"), (.text "bin_dir", .text "/"),
    (.text "config_dir", .text "/")]), (.text "binary_name", .text "c"),
    (.text "manifests", .list (manifests.map fun (source, target) =>
      .map [(.text "source", .text source), (.text "dest", .text target)]))]
  source := none

/-- A machine with these files, on which nothing has run yet. -/
def toolMachine : Machine := .idle toolFiles .empty []

/-- Children that cannot be started. -/
def noChildren : Child.Behaviour := fun _ site => (.error .emptyCommand, site.files)

theorem toolFiles_wellFormed : toolFiles.WellFormed := by
  have hroot : FileSystem.empty.directory? root = some ⟨root, [], false⟩ := rfl
  exact .add .empty hroot ⟨by decide, by decide, by decide, by decide, by decide, by decide⟩ rfl (.file _)

theorem toolMachine_logsTo (i : Inode) : ¬ toolMachine.LogsTo i := by
  simp [Machine.LogsTo, toolMachine, Machine.idle, Log.State.initial]

end DeviceLauncher.Launch
