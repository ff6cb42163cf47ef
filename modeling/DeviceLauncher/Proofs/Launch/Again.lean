import DeviceLauncher.Proofs.FileSystem.Settled
import DeviceLauncher.Proofs.Launch.Failure

/-!
# What `init` does when it is run again

`init_again`: run again on files that differ from what it has left in the targets of its copies
only, `init` does the same and leaves the same. That the program is not where it would be installed
is seen from its canonical path, so its paths have to be `Traceable`.

* `Separate copies fs cwd`: no target of a copy is a source of one. What a copy reads is then as it
  was, whatever its target has become.
* `copyAll_again`: the copies are made again, each of them once more into its target.
* `isInstalled_of_grows`, `isInstalled_of_copied`: the program is still taken to be installed, or
  still not.
-/

namespace DeviceLauncher.Launch

open FileSystem Install

variable {config : Config} {context : Context} {m m' n : Machine} {source target : Path}

/-! ## The program -/

section

variable {fs before after : FileSystem} {cwd i j : Inode}

theorem isInstalled_of_found (h : fs.find cwd target.toString = .ok i) :
    isInstalled fs cwd source target = samePlace fs cwd source target := by
  rw [isInstalled, look_eq_some_iff.2 h]
  rfl

theorem samePlace_eq_true_iff : samePlace fs cwd source target = .ok true ↔
    ∃ q, fs.canonical cwd source = .ok q ∧ fs.canonical cwd target = .ok q := by
  rw [samePlace]
  cases fs.canonical cwd source <;> cases fs.canonical cwd target <;>
    simp [bind, Except.bind, pure, Except.pure, Except.mapError, eq_comm]

theorem found_of_isInstalled (h : isInstalled fs cwd source target = .ok true) :
    ∃ i, fs.find cwd target.toString = .ok i := by
  rw [isInstalled] at h
  cases hl : fs.look cwd target.toString with
  | error e => simp [hl, bind, Except.bind, Except.mapError] at h
  | ok found =>
    cases found with
    | none => simp [hl, bind, Except.bind, Except.mapError, pure, Except.pure] at h
    | some i => exact ⟨i, look_eq_some_iff.1 hl⟩

/-- A program that is installed is so when the file system has grown. -/
theorem isInstalled_of_grows (hwf : before.WellFormed) (hwf' : after.WellFormed)
    (hg : Grows before after) (hcwd : cwd < before.nodes.size)
    (ht : Traceable after cwd target) (h : isInstalled before cwd source target = .ok true) :
    isInstalled after cwd source target = .ok true := by
  obtain ⟨i, hi⟩ := found_of_isInstalled h
  have hi' := find_of_grows hwf hg hi
  rw [isInstalled_of_found hi, samePlace_eq_true_iff] at h
  obtain ⟨q, hsource, htarget⟩ := h
  obtain ⟨q', hq', -⟩ := canonical_of_find hwf' hi' ht
  obtain rfl := canonical_unique_of_grows hwf hwf' hg hcwd htarget hq'
  have hfind := (canonical_of_grows hwf hwf' hg hcwd htarget).1 hq'
  rw [isInstalled_of_found hi', samePlace_eq_true_iff]
  exact ⟨q', (canonical_of_grows hwf hwf' hg hcwd hsource).2 hfind, hq'⟩

/-- Two paths that lead to two nodes are not the same place. -/
theorem isInstalled_of_ne (hwf : fs.WellFormed) (hs : Traceable fs cwd source)
    (ht : Traceable fs cwd target) (hi : fs.find cwd source.toString = .ok i)
    (hj : fs.find cwd target.toString = .ok j) (hne : i ≠ j) :
    isInstalled fs cwd source target = .ok false := by
  obtain ⟨q, hq, hqi⟩ := canonical_of_find hwf hi hs
  obtain ⟨q', hq', hqj⟩ := canonical_of_find hwf hj ht
  have hqq : q ≠ q' := by
    rintro rfl
    exact hne (hqi.unique hqj)
  rw [isInstalled_of_found hj, samePlace]
  simp [hq, hq', hqq, Except.mapError, bind, Except.bind, pure, Except.pure]

end

/-- A program that has been copied is not where it is installed. -/
theorem isInstalled_of_copied {last : FileSystem} (hwf : m.files.WellFormed)
    (hwf₁ : m'.files.WellFormed) (hwf' : last.WellFormed) (hlogs : ∀ i, ¬ m.LogsTo i)
    (h : Copied source target m m') (hg : Grows m'.files last)
    (hs : Traceable last m.cwd source) (ht : Traceable last m.cwd target)
    (hne : ∀ i, last.find m.cwd source.toString = .ok i →
      ¬ IsTarget last m.cwd source target i) :
    isInstalled last m.cwd source target = .ok false := by
  obtain ⟨i, f, j, hi, hf, hlocate, -, -, hcopy⟩ := h.exists_target hwf hlogs
  rw [h.scene.cwd] at hlocate
  have hsource := find_of_grows hwf₁ hg (find_of_grows hwf hcopy.grows hi)
  have htarget : IsTarget m'.files m.cwd source target j := find_of_locate hlocate
  have htarget' := htarget.of_grows hwf₁ hg
  obtain ⟨f₁, hf₁⟩ := hcopy.exists_file? hf
  obtain ⟨f₂, hf₂⟩ := hg.exists_file? hf₁
  obtain ⟨k, hk, hend⟩ := htarget'.find
  refine isInstalled_of_ne hwf' hs ht hsource hk ?_
  rintro rfl
  rcases hend with rfl | hdirectory
  · exact hne i hsource htarget'
  · -- A file is no directory.
    rw [directory?, node?_of_file? hf₂] at hdirectory
    cases hdirectory

/-! ## Machines on which a command is run again -/

/-- Whether a command would find on a machine what it has found on another, apart from the files.
No log file is open there. -/
structure Repeats (m n : Machine) : Prop where
  cwd : n.cwd = m.cwd
  environment : n.environment = m.environment
  argv : n.argv = m.argv
  not_logsTo (i : Inode) : ¬ n.LogsTo i

theorem Repeats.scene {n' : Machine} (h : Repeats m n) (hm : m.SameScene m')
    (hn : n.SameScene n') : Repeats m' n' where
  cwd := hn.cwd.trans (h.cwd.trans hm.cwd.symm)
  environment := hn.environment.trans (h.environment.trans hm.environment.symm)
  argv := hn.argv.trans (h.argv.trans hm.argv.symm)
  not_logsTo := hn.logsTo ▸ h.not_logsTo

/-! ## The manifests -/

/-- Whether an inode is the source of one of some copies. -/
def IsSourceOf (copies : Path → Path → Prop) (fs : FileSystem) (cwd i : Inode) : Prop :=
  ∃ source target, copies source target ∧ fs.find cwd source.toString = .ok i

/-- Whether no target of some copies is the source of one of them. -/
def Separate (copies : Path → Path → Prop) (fs : FileSystem) (cwd : Inode) : Prop :=
  ∀ i, IsTargetOf copies fs cwd i → ¬ IsSourceOf copies fs cwd i

/-- Whether a copy is among some manifests. -/
def Among (manifests : List Manifest) (source target : Path) : Prop :=
  ⟨source, target⟩ ∈ manifests

section

variable {copies copies' : Path → Path → Prop} {fs : FileSystem} {cwd i : Inode}

theorem IsTargetOf.mono (h : IsTargetOf copies fs cwd i)
    (hc : ∀ source target, copies source target → copies' source target) :
    IsTargetOf copies' fs cwd i := by
  obtain ⟨source, target, hcopy, ht⟩ := h
  exact ⟨source, target, hc source target hcopy, ht⟩

theorem Separate.mono (h : Separate copies' fs cwd)
    (hc : ∀ source target, copies source target → copies' source target) :
    Separate copies fs cwd := by
  rintro i ht ⟨source, target, hcopy, hs⟩
  exact h i (ht.mono hc) ⟨source, target, hc source target hcopy, hs⟩

/-- The source of one copy is the target of none. -/
theorem Separate.not_isTargetOf (h : Separate copies fs cwd) (hc : copies source target)
    (hs : fs.find cwd source.toString = .ok i) : ¬ IsTargetOf copies fs cwd i :=
  fun ht => h i ht ⟨source, target, hc, hs⟩

theorem Among.cons (a : Manifest) {rest : List Manifest} (h : Among rest source target) :
    Among (a :: rest) source target := List.mem_cons_of_mem a h

theorem Among.head (a : Manifest) (rest : List Manifest) :
    Among (a :: rest) a.source a.target := List.mem_cons_self

theorem isTargetOf_cons {a : Manifest} {rest : List Manifest}
    (h : IsTargetOf (Among (a :: rest)) fs cwd i) :
    IsTarget fs cwd a.source a.target i ∨ IsTargetOf (Among rest) fs cwd i := by
  obtain ⟨source, target, hmem, ht⟩ := h
  rcases List.mem_cons.1 hmem with hmem | hmem
  · cases hmem
    exact .inl ht
  · exact .inr ⟨source, target, hmem, ht⟩

end

/-- What copies that have been made have changed, if the log writes to no file. -/
theorem frame_of_copyAll {manifests : List Manifest} (hwf : m.files.WellFormed)
    (hlogs : ∀ i, ¬ m.LogsTo i) (h : (copyAll false manifests).run m = .ok () m') :
    Frame (IsTargetOf (Among manifests) m'.files m.cwd)
      (IsTargetOf (Among manifests) m'.files m.cwd) (fun _ => False) m.files m'.files := by
  have hchanges : Changes (Among manifests) (fun _ => False) m m' :=
    Action.after_of_ok h ▸ copyAll_changes hwf fun a ha => ha
  rw [← hchanges.scene.cwd]
  refine hchanges.frame.mono (fun i hi => hi.resolve_left (hlogs i)) (fun _ hi => hi) ?_
  rintro i ⟨p, hp, -⟩
  exact hp

/-- Copies that have been made are made again. -/
theorem copyAll_again {manifests : List Manifest} (hwf : m.files.WellFormed)
    (hlogs : ∀ i, ¬ m.LogsTo i) (h : (copyAll false manifests).run m = .ok () m')
    (hsep : Separate (Among manifests) m'.files m.cwd) (hn : Repeats m n)
    (hfiles : Rewritten (IsTargetOf (Among manifests) m'.files m.cwd) m'.files n.files) :
    ∃ n', (copyAll false manifests).run n = .ok () n' ∧ n'.files = m'.files := by
  induction manifests generalizing m n with
  | nil =>
    cases h
    refine ⟨n, rfl, hfiles.eq_of_forall_not ?_⟩
    rintro i ⟨source, target, hmem, -⟩
    simp [Among] at hmem
  | cons a rest ih =>
    obtain ⟨m₁, hcopied, hrest⟩ := copyAll_cons_ok h
    have hscene := hcopied.scene
    obtain ⟨hwf₁, -⟩ := hcopied.frame hwf
    have hlogs₁ : ∀ i, ¬ m₁.LogsTo i := hscene.logsTo ▸ hlogs
    have hframe := frame_of_copyAll hwf₁ hlogs₁ hrest
    rw [hscene.cwd] at hframe
    have hsource (i : Inode) (hi : m'.files.find m.cwd a.source.toString = .ok i) :
        ¬ IsTargetOf (Among rest) m'.files m.cwd i ∧
          ¬ IsTarget m'.files m.cwd a.source a.target i := by
      have hnot := hsep.not_isTargetOf (.head a rest) hi
      exact ⟨fun ht => hnot (ht.mono fun _ _ => .cons a), fun ht => hnot ⟨_, _, .head a rest, ht⟩⟩
    obtain ⟨n₁, hcopied', hfiles₁⟩ := hcopied.again hwf hwf₁ hlogs hframe hsource hn.cwd
      hn.not_logsTo (hfiles.mono fun _ => isTargetOf_cons)
    rw [← hscene.cwd] at hfiles₁ hsep
    obtain ⟨n', hrun, hn'⟩ := ih hwf₁ hlogs₁ hrest (hsep.mono fun _ _ => .cons a)
      (hn.scene hscene hcopied'.scene) hfiles₁
    refine ⟨n', ?_, hn'⟩
    rw [run_copyAll_cons, installFile_of_copied hcopied']
    exact hrun

/-! ## The steps -/

/-- The steps of `init` end well if each of them does. -/
theorem run_initSteps_eq_ok_iff (hdry : context.dryRun = false) {r : Pipeline.Result} :
    (Pipeline.run context initSteps).run m = .ok r m' ↔
      r = ⟨.code 0, initSteps.map Pipeline.Step.id, none⟩ ∧
        ∃ m₁ m₂, Installs context (m.report (.runningStep installBinary.id)) m₁ ∧
          (configDirectory.run context).run (m₁.report (.runningStep configDirectory.id)) =
            .ok (.code 0) m₂ ∧
          (copyManifests.run context).run (m₂.report (.runningStep copyManifests.id)) =
            .ok (.code 0) m' := by
  rw [Pipeline.run, initSteps,
    Pipeline.run_runFrom_cons_eq_ok_iff _ _ _ _ (installBinary_endsWithZero _)]
  simp only [installBinary_eq_ok_iff hdry,
    Pipeline.run_runFrom_cons_eq_ok_iff _ _ _ _ (configDirectory_endsWithZero _),
    Pipeline.run_runFrom_cons_eq_ok_iff _ _ _ _ (copyManifests_endsWithZero _),
    Pipeline.run_runFrom_nil]
  constructor
  · rintro ⟨m₁, hbinary, m₂, hdirectory, m₃, hmanifests, hend⟩
    cases hend
    exact ⟨rfl, m₁, m₂, hbinary, hdirectory, hmanifests⟩
  · rintro ⟨rfl, m₁, m₂, hbinary, hdirectory, hmanifests⟩
    exact ⟨m₁, hbinary, m₂, hdirectory, m', hmanifests, rfl⟩

/-- Where there is a directory by now, the second step only tells of it. -/
theorem configDirectory_again {last : FileSystem} {written : Inode → Prop}
    (hdry : context.dryRun = false) (hwf : m.files.WellFormed)
    (h : (configDirectory.run context).run m = .ok (.code 0) m') (hg : Grows m'.files last)
    (hn : Repeats m n) (hfiles : Rewritten written last n.files) :
    ∃ n', (configDirectory.run context).run n = .ok (.code 0) n' ∧ n.Logged n' := by
  rcases configDirectory_cases hdry hwf with ⟨e, -, hrun⟩ |
    ⟨p, m₁, m₂, hp, hlog, hscene, -, hmade, hend⟩
  · rw [hrun] at h
    cases h
  · rcases hend with ⟨e, hrun⟩ | ⟨hrun, hdirectory⟩
    · rw [hrun] at h
      cases h
    · rw [hrun] at h
      cases h
      obtain ⟨i, hi, -⟩ := hasDirectory_eq_true_iff.1 hdirectory
      have hthere : n.files.hasDirectory n.cwd p.toString = true := by
        rw [hfiles.hasDirectory, hn.cwd, ← (hlog.scene.trans hscene).cwd,
          hasDirectory_of_grows hmade.wellFormed hg hi, hdirectory]
      obtain ⟨n', hrun', hlog'⟩ := ensureDirectory_of_directory hthere
      exact ⟨n', (configDirectory_eq_ok_iff hdry).2 ⟨p, hn.environment ▸ hp, hrun'⟩, hlog'⟩

section

variable {last : FileSystem} {created made : Inode → Prop} {manifests : List Manifest}

/-- The copies of `init` are that of the program and those of the manifests. -/
theorem isTargetOf_copies {cwd i : Inode}
    (hsource : config.executable m.environment m.argv = .ok source)
    (htarget : config.installedBinary m.environment = .ok target)
    (hmanifests : config.manifests m.environment = .ok manifests)
    (h : IsTargetOf (Copies config m) last cwd i) :
    (isInstalled m.files m.cwd source target = .ok false ∧ IsTarget last cwd source target i) ∨
      IsTargetOf (Among manifests) last cwd i := by
  obtain ⟨source', target', hcopy, ht⟩ := h
  cases hcopy with
  | binary hsource' htarget' hinstalled =>
    rw [hsource] at hsource'
    cases hsource'
    rw [htarget] at htarget'
    cases htarget'
    exact .inl ⟨hinstalled, ht⟩
  | manifest hmanifests' hmem =>
    rw [hmanifests] at hmanifests'
    cases hmanifests'
    exact .inr ⟨source', target', hmem, ht⟩

/-- The first step does again what it has done. -/
theorem Installs.again (hwf : m.files.WellFormed) (hwf' : last.WellFormed)
    (hcwd : m.cwd < m.files.nodes.size) (hlogs : ∀ i, ¬ m.LogsTo i)
    (hmanifests : context.config.manifests m.environment = .ok manifests)
    (h : Installs context m m')
    (hframe : FileSystem.Frame (IsTargetOf (Among manifests) last m.cwd) created made
      m'.files last)
    (htrace : ∀ p, context.config.executable m.environment m.argv = .ok p ∨
      context.config.installedBinary m.environment = .ok p → Traceable last m.cwd p)
    (hsep : Separate (Copies context.config m) last m.cwd) (hn : Repeats m n)
    (hfiles : Rewritten (IsTargetOf (Copies context.config m) last m.cwd) last n.files) :
    ∃ n', Installs context n n' ∧
      Rewritten (IsTargetOf (Among manifests) last m.cwd) last n'.files := by
  have hlogs' := hn.not_logsTo
  cases h with
  | @already source target hsource htarget hscript hinstalled hm =>
    rw [hm, Machine.files_report _ hlogs] at hframe
    have hg : Grows m.files last := hframe.grows
    have hinstalled' : isInstalled n.files n.cwd source target = .ok true := by
      rw [isInstalled_of_rewritten hfiles, hn.cwd]
      exact isInstalled_of_grows hwf hwf' hg hcwd (htrace target (.inr htarget)) hinstalled
    refine ⟨_, .already (hn.environment ▸ hn.argv ▸ hsource) (hn.environment ▸ htarget) hscript
      hinstalled' rfl, ?_⟩
    rw [Machine.files_report _ hlogs']
    refine hfiles.mono fun i hi => ?_
    rcases isTargetOf_copies hsource htarget hmanifests hi with ⟨hnot, -⟩ | hi
    · rw [hinstalled] at hnot
      cases hnot
    · exact hi
  | @copy source target m₁ hsource htarget hscript hinstalled hcopied hm =>
    have hwf₁ := (hcopied.frame hwf).1
    have hlogs₁ : ∀ i, ¬ m₁.LogsTo i := hcopied.scene.logsTo ▸ hlogs
    rw [hm, Machine.files_report _ hlogs₁] at hframe
    have hbinary : Copies context.config m source target := .binary hsource htarget hinstalled
    have hnot (i : Inode) (hi : last.find m.cwd source.toString = .ok i) :
        ¬ IsTargetOf (Among manifests) last m.cwd i ∧ ¬ IsTarget last m.cwd source target i := by
      have hnot := hsep.not_isTargetOf hbinary hi
      exact ⟨fun ht => hnot (ht.mono fun _ _ => .manifest hmanifests),
        fun ht => hnot ⟨source, target, hbinary, ht⟩⟩
    have hinstalled' : isInstalled n.files n.cwd source target = .ok false := by
      rw [isInstalled_of_rewritten hfiles, hn.cwd]
      exact isInstalled_of_copied hwf hwf₁ hwf' hlogs hcopied hframe.grows
        (htrace source (.inl hsource)) (htrace target (.inr htarget)) fun i hi => (hnot i hi).2
    obtain ⟨n₁, hcopied', hfiles'⟩ := hcopied.again hwf hwf₁ hlogs hframe hnot hn.cwd hlogs'
      (hfiles.mono fun i hi =>
        (isTargetOf_copies hsource htarget hmanifests hi).imp_left And.right)
    have hlogs₁' : ∀ i, ¬ n₁.LogsTo i := hcopied'.scene.logsTo ▸ hlogs'
    refine ⟨_, .copy (hn.environment ▸ hn.argv ▸ hsource) (hn.environment ▸ htarget) hscript
      hinstalled' hcopied' rfl, ?_⟩
    rwa [Machine.files_report _ hlogs₁']

/-- What the last two steps have changed, if the log writes to no file. -/
theorem frame_of_last_steps {m₁ m₂ m₃ : Machine} (hdry : context.dryRun = false)
    (hwf : m.files.WellFormed) (hlogs : ∀ i, ¬ m.LogsTo i)
    (hdirectory : (configDirectory.run context).run m = .ok (.code 0) m₁)
    (hlog : m₁.Logged m₂) (hcopies : (copyAll false manifests).run m₂ = .ok () m₃) :
    m.SameScene m₃ ∧ m₂.files.WellFormed ∧ m₃.files.WellFormed ∧ Grows m₁.files m₃.files ∧
      FileSystem.Frame (IsTargetOf (Among manifests) m₃.files m.cwd)
        (IsTargetOf (Among manifests) m₃.files m.cwd) (fun _ => True) m.files m₃.files := by
  have hchanges : Changes (fun _ _ => False) (fun _ => True) m m₁ :=
    Action.after_of_ok hdirectory ▸ configDirectory_changes hdry hwf fun _ _ => trivial
  have hlogs₁ : ∀ i, ¬ m₁.LogsTo i := hchanges.scene.logsTo ▸ hlogs
  have hwf₂ := hchanges.wellFormed.rewritten hlog.files
  have hscene₂ := hchanges.scene.trans hlog.scene
  have hlogs₂ : ∀ i, ¬ m₂.LogsTo i := hscene₂.logsTo ▸ hlogs
  have hframe := frame_of_copyAll hwf₂ hlogs₂ hcopies
  have hwf₃ : m₃.files.WellFormed :=
    (Action.after_of_ok hcopies ▸ copyAll_changes hwf₂ fun a ha => ha :
      Changes (Among manifests) (fun _ => False) m₂ m₃).wellFormed
  rw [hlog.files_eq hlogs₁, hscene₂.cwd] at hframe
  have hbefore : FileSystem.Frame (IsTargetOf (Among manifests) m₃.files m.cwd)
      (IsTargetOf (Among manifests) m₃.files m.cwd) (fun _ => True) m.files m₁.files := by
    refine hchanges.frame.mono (fun i hi => ?_) (fun i hi => ?_) fun _ _ => trivial
    · rcases hi with hi | ⟨_, _, hi, -⟩
      · exact absurd hi (hlogs i)
      · exact hi.elim
    · obtain ⟨_, _, hi, -⟩ := hi
      exact hi.elim
  exact ⟨hscene₂.trans (copyAll_scene hcopies), hwf₂, hwf₃, hframe.grows,
    hbefore.trans (hframe.mono (fun _ h => h) (fun _ h => h) fun _ _ => trivial)⟩

/-- The same, where both machines have got words into their logs since. -/
theorem Installs.again_of_logged {m₀ n₀ : Machine} (hwf : m.files.WellFormed)
    (hwf' : last.WellFormed) (hcwd : m.cwd < m.files.nodes.size) (hlogs : ∀ i, ¬ m.LogsTo i)
    (hmanifests : context.config.manifests m.environment = .ok manifests)
    (hlog : m.Logged m₀) (h : Installs context m₀ m')
    (hframe : FileSystem.Frame (IsTargetOf (Among manifests) last m.cwd) created made
      m'.files last)
    (htrace : ∀ p, context.config.executable m.environment m.argv = .ok p ∨
      context.config.installedBinary m.environment = .ok p → Traceable last m.cwd p)
    (hsep : Separate (Copies context.config m) last m.cwd) (hn : Repeats m n)
    (hfiles : Rewritten (IsTargetOf (Copies context.config m) last m.cwd) last n.files)
    (hlog' : n.Logged n₀) :
    ∃ n', Installs context n₀ n' ∧
      Rewritten (IsTargetOf (Among manifests) last m.cwd) last n'.files := by
  have hcwd₀ : m₀.cwd < m₀.files.nodes.size := by
    rwa [hlog.scene.cwd, hlog.files.size_eq]
  have hmanifests₀ : context.config.manifests m₀.environment = .ok manifests := by
    rwa [hlog.scene.environment]
  have htrace₀ (p : Path) (hp : context.config.executable m₀.environment m₀.argv = .ok p ∨
      context.config.installedBinary m₀.environment = .ok p) : Traceable last m₀.cwd p := by
    rw [hlog.scene.environment, hlog.scene.argv] at hp
    rw [hlog.scene.cwd]
    exact htrace p hp
  have hsep₀ : Separate (Copies context.config m₀) last m₀.cwd := by
    rwa [copies_of_logged hlog, hlog.scene.cwd]
  have hfiles₀ : Rewritten (IsTargetOf (Copies context.config m₀) last m₀.cwd) last n₀.files := by
    rwa [copies_of_logged hlog, hlog.scene.cwd, hlog'.files_eq hn.not_logsTo]
  rw [← hlog.scene.cwd] at hframe ⊢
  exact h.again (hwf.rewritten hlog.files) hwf' hcwd₀ (hlog.scene.logsTo ▸ hlogs) hmanifests₀
    hframe htrace₀ hsep₀ (hn.scene hlog.scene hlog'.scene) hfiles₀

/-- The last two steps do again what they have done. -/
theorem last_steps_again {m₁ m₂ m₃ : Machine} (hdry : context.dryRun = false)
    (hwf : m.files.WellFormed) (hlogs : ∀ i, ¬ m.LogsTo i)
    (hdirectory : (configDirectory.run context).run m = .ok (.code 0) m₁)
    (hlog : m₁.Logged m₂)
    (hmanifests : context.config.manifests m₂.environment = .ok manifests)
    (hcopies : (copyAll false manifests).run m₂ = .ok () m₃) {p : Path}
    (hp : context.config.configDirectory m₂.environment = .ok p)
    (hsep : Separate (Among manifests) m₃.files m.cwd) (hn : Repeats m n)
    (hfiles : Rewritten (IsTargetOf (Among manifests) m₃.files m.cwd) m₃.files n.files) :
    ∃ n₁ n', (configDirectory.run context).run n = .ok (.code 0) n₁ ∧
      (copyManifests.run context).run (n₁.report (.runningStep copyManifests.id)) =
        .ok (.code 0) n' ∧ n'.files = m₃.files := by
  obtain ⟨hscene₃, hwf₂, -, hg, -⟩ := frame_of_last_steps hdry hwf hlogs hdirectory hlog hcopies
  have hscene₂ := hscene₃.trans (copyAll_scene hcopies).symm
  obtain ⟨n₁, hdirectory', hlog₁⟩ := configDirectory_again hdry hwf hdirectory hg hn hfiles
  have hlog₂ := hlog₁.trans (Machine.logged_report (.runningStep copyManifests.id) n₁)
  have hn₂ : Repeats m₂ (n₁.report (.runningStep copyManifests.id)) :=
    hn.scene hscene₂ hlog₂.scene
  rw [← hlog₂.files_eq hn.not_logsTo] at hfiles
  rw [← hscene₂.cwd] at hfiles hsep
  obtain ⟨n₂, hcopies', hsame⟩ :=
    copyAll_again hwf₂ (hscene₂.logsTo ▸ hlogs) hcopies hsep hn₂ hfiles
  rw [← hn₂.environment] at hmanifests hp
  refine ⟨n₁, n₂.report (.manifestsInstalled p.toString manifests.length), hdirectory',
    (copyManifests_eq_ok_iff hdry).2 ⟨manifests, n₂, p, hmanifests, hcopies', hp, rfl⟩, ?_⟩
  rw [Machine.files_report _ ((copyAll_scene hcopies').logsTo ▸ hn₂.not_logsTo), hsame]

/-- The steps of `init` do again what they have done. -/
theorem initSteps_again {r : Pipeline.Result} (hdry : context.dryRun = false)
    (hwf : m.files.WellFormed) (hcwd : m.cwd < m.files.nodes.size) (hlogs : ∀ i, ¬ m.LogsTo i)
    (h : (Pipeline.run context initSteps).run m = .ok r m')
    (htrace : ∀ p, context.config.executable m.environment m.argv = .ok p ∨
      context.config.installedBinary m.environment = .ok p → Traceable m'.files m.cwd p)
    (hsep : Separate (Copies context.config m) m'.files m.cwd) (hn : Repeats m n)
    (hfiles : Rewritten (IsTargetOf (Copies context.config m) m'.files m.cwd) m'.files n.files) :
    ∃ n', (Pipeline.run context initSteps).run n = .ok r n' ∧ n'.files = m'.files := by
  obtain ⟨rfl, m₁, m₂, hbinary, hdirectory, hlast⟩ := (run_initSteps_eq_ok_iff hdry).1 h
  obtain ⟨manifests, m₃, p, hmanifests, hcopies, hp, rfl⟩ := (copyManifests_eq_ok_iff hdry).1 hlast
  have hlog := Machine.logged_report (.runningStep installBinary.id) m
  have hlog₁ := Machine.logged_report (.runningStep configDirectory.id) m₁
  have hlog₂ := Machine.logged_report (.runningStep copyManifests.id) m₂
  have hwf₁ := (hbinary.wellFormed (hwf.rewritten hlog.files)).rewritten hlog₁.files
  have hscene₁ := (hlog.scene.trans hbinary.scene).trans hlog₁.scene
  have hlogs₁ : ∀ i, ¬ m₁.LogsTo i := (hlog.scene.trans hbinary.scene).logsTo ▸ hlogs
  obtain ⟨hscene₃, -, hwf₃, -, hframe⟩ := frame_of_last_steps hdry hwf₁ (hscene₁.logsTo ▸ hlogs)
    hdirectory hlog₂ hcopies
  have hscene₂ := (hscene₁.trans hscene₃).trans (copyAll_scene hcopies).symm
  have hmanifests₀ : context.config.manifests m.environment = .ok manifests := by
    rwa [← hscene₂.environment]
  rw [hscene₁.cwd, Machine.files_report _ hlogs₁] at hframe
  rw [Machine.files_report _ ((hscene₁.trans hscene₃).logsTo ▸ hlogs)] at htrace hsep hfiles ⊢
  have hlog' := Machine.logged_report (.runningStep installBinary.id) n
  obtain ⟨n₁, hbinary', hfiles₁⟩ := hbinary.again_of_logged hwf hwf₃ hcwd hlogs hmanifests₀ hlog
    hframe htrace hsep hn hfiles hlog'
  have hn₁ : Repeats m n₁ := hn.scene (.refl m) (hlog'.scene.trans hbinary'.scene)
  have hlog₁' := Machine.logged_report (.runningStep configDirectory.id) n₁
  rw [← hlog₁'.files_eq hn₁.not_logsTo, ← hscene₁.cwd] at hfiles₁
  have hsep₁ : Separate (Among manifests) m₃.files m.cwd :=
    hsep.mono fun _ _ => .manifest hmanifests₀
  rw [← hscene₁.cwd] at hsep₁
  obtain ⟨n₂, n', hdirectory', hlast', hsame⟩ := last_steps_again hdry hwf₁
    (hscene₁.logsTo ▸ hlogs) hdirectory hlog₂ hmanifests hcopies hp hsep₁
    (hn₁.scene hscene₁ hlog₁'.scene) hfiles₁
  exact ⟨n', (run_initSteps_eq_ok_iff hdry).2 ⟨rfl, n₁, n₂, hbinary', hdirectory', hlast'⟩, hsame⟩

/-- Run again on files that differ from what it has left in the targets of its copies only, `init`
does the same and leaves the same. -/
theorem init_again (children : Child.Behaviour) (entry : Log.Entry) (config : Config)
    (host : Option String) (m m' : Machine) (r : Pipeline.Result) (hwf : m.files.WellFormed)
    (hcwd : (m.files.directory? m.cwd).isSome) (hlogs : ∀ i, ¬ m.LogsTo i)
    (hrun : (runCommand children entry "init" config host false).run m = .ok r m')
    (hsep : Separate (Copies config m) m'.files m.cwd)
    (htrace : ∀ p, config.executable m.environment m.argv = .ok p ∨
      config.installedBinary m.environment = .ok p → Traceable m'.files m.cwd p) :
    ∀ n, Repeats m n → Rewritten (IsTargetOf (Copies config m) m'.files m.cwd) m'.files n.files →
      ∃ n', (runCommand children entry "init" config host false).run n = .ok r n' ∧
        n'.files = m'.files := by
  intro n hn hfiles
  let context : Context := ⟨config, host.getD "", false⟩
  have hdry : context.dryRun = false := rfl
  have hinit : stepsOf? children "init" = some initSteps := rfl
  rw [run_runCommand hinit] at hrun
  cases hsteps : (Pipeline.run context initSteps).run m with
  | error e m₁ =>
    rw [hsteps] at hrun
    cases hrun
  | ok result m₁ =>
    rw [hsteps] at hrun
    cases hrun
    have hchanges : InitChanges config m m m₁ :=
      Action.after_of_ok hsteps ▸ initSteps_changes hdry hwf
    have hsame := (logged_finished entry "init" r m₁).files_eq (hchanges.scene.logsTo ▸ hlogs)
    rw [hsame] at hsep htrace hfiles ⊢
    obtain ⟨d, hd⟩ := Option.isSome_iff_exists.1 hcwd
    obtain ⟨n₁, hsteps', hfiles'⟩ := initSteps_again hdry hwf
      (lt_size_of_node? (directory?_eq_some_iff.1 hd)) hlogs hsteps htrace hsep hn hfiles
    have hchanges' : InitChanges config n n n₁ :=
      Action.after_of_ok hsteps' ▸ initSteps_changes hdry (hchanges.wellFormed.rewritten hfiles)
    obtain ⟨n', hlog, hrun'⟩ := run_init_of_ok hsteps'
    exact ⟨n', hrun', (hlog.files_eq (hchanges'.scene.logsTo ▸ hn.not_logsTo)).trans hfiles'⟩

end

/-! ## Two small machines -/

/-- Where the program alone is copied, its target has to be another file than it. -/
theorem separate_of_binary {fs : FileSystem} {cwd i j : Inode}
    (hsource : config.executable m.environment m.argv = .ok source)
    (htarget : config.installedBinary m.environment = .ok target)
    (hmanifests : config.manifests m.environment = .ok [])
    (hi : fs.find cwd source.toString = .ok i) (hj : IsTarget fs cwd source target j)
    (hne : i ≠ j) : Separate (Copies config m) fs cwd := by
  have hcopy (s t : Path) (h : Copies config m s t) : s = source ∧ t = target := by
    cases h with
    | binary hs ht _ => exact ⟨Except.ok.inj (hs.symm.trans hsource),
        Except.ok.inj (ht.symm.trans htarget)⟩
    | manifest hms hmem =>
      rw [hmanifests] at hms
      cases hms
      simp at hmem
  rintro k ⟨s, t, hc, ht⟩ ⟨s', t', hc', hs⟩
  obtain ⟨rfl, rfl⟩ := hcopy s t hc
  obtain ⟨rfl, rfl⟩ := hcopy s' t' hc'
  have hki : k = i := Except.ok.inj (hs.symm.trans hi)
  have hkj : k = j := Except.ok.inj (ht.symm.trans hj)
  exact hne (hki.symm.trans hkj)

/-- The files that `init` leaves on the machine with `/t` alone. -/
def installedFiles : FileSystem := toolFiles.add root "c" (.file ⟨ByteArray.empty, 0o755, 0⟩)

/-- Where the installed program has been edited, `init` restores it. -/
theorem init_again_of_edited_binary : toolFiles.WellFormed ∧
    let init := runCommand noChildren .command "init" (toolConfig []) none false
    ∃ r m', init.run toolMachine = .ok r m' ∧ ∃ n',
      init.run { m' with files := m'.files.overwrite 2 "x".toUTF8 9 } = .ok r n' ∧
        n'.files = m'.files := by
  refine ⟨toolFiles_wellFormed, ?_⟩
  have hrun : (runCommand noChildren .command "init" (toolConfig []) none false).run toolMachine =
      .ok ⟨.code 0, ["10_install_binary", "20_config_dir", "30_copy_manifests"], none⟩
        { toolMachine with files := installedFiles } := by cbv
  have hsource : (toolConfig []).executable toolMachine.environment toolMachine.argv =
      .ok (Path.ofString "/t") := by cbv
  have htarget : (toolConfig []).installedBinary toolMachine.environment =
      .ok (Path.ofString "/c") := by cbv
  have hmanifests : (toolConfig []).manifests toolMachine.environment = .ok [] := by cbv
  have hinstalled : isInstalled toolMachine.files toolMachine.cwd (Path.ofString "/t")
      (Path.ofString "/c") = .ok false := by cbv
  have hi : installedFiles.find root (Path.ofString "/t").toString = .ok 1 := by cbv
  have hj : IsTarget installedFiles root (Path.ofString "/t") (Path.ofString "/c") 2 := by
    show installedFiles.find root
      (targetOf installedFiles root (Path.ofString "/t") (Path.ofString "/c")).path = .ok 2
    cbv
  have htrace (p : Path) (h : (toolConfig []).executable toolMachine.environment
      toolMachine.argv = .ok p ∨ (toolConfig []).installedBinary toolMachine.environment = .ok p) :
      Traceable installedFiles toolMachine.cwd p := by
    rcases h with h | h
    · rw [hsource] at h
      cases h
      exact .of_root (by decide) (by cbv) (by decide)
    · rw [htarget] at h
      cases h
      exact .of_root (by decide) (by cbv) (by decide)
  have hedited : IsTargetOf (Copies (toolConfig []) toolMachine) installedFiles root 2 :=
    ⟨_, _, .binary hsource htarget hinstalled, hj⟩
  have hfiles : Rewritten (IsTargetOf (Copies (toolConfig []) toolMachine) installedFiles root)
      installedFiles (installedFiles.overwrite 2 "x".toUTF8 9) :=
    (Rewritten.modifyFile installedFiles 2 _).mono fun _ h => h ▸ hedited
  have hsep := separate_of_binary hsource htarget hmanifests hi hj (by decide)
  exact ⟨_, _, hrun, init_again noChildren .command (toolConfig []) none toolMachine _ _
    toolFiles_wellFormed rfl toolMachine_logsTo hrun hsep htrace _
    ⟨rfl, rfl, rfl, toolMachine_logsTo⟩ hfiles⟩

/-- Files with `/t` among them, and a directory that has been removed. -/
def lostFiles : FileSystem :=
  ⟨#[.directory ⟨root, [("t", 1)], false⟩, .file ⟨ByteArray.empty, 0o755, 0⟩,
    .directory ⟨root, [], true⟩]⟩

/-- Settings that install `../t` as `/c`. -/
def lostConfig : Config where
  raw := [(.text "paths", .map [(.text "executable", .text "../t"), (.text "bin_dir", .text "/"),
    (.text "config_dir", .text "/")]), (.text "binary_name", .text "c"),
    (.text "manifests", .list [])]
  source := none

/-- A machine that works in the directory that has been removed. -/
def lostMachine : Machine := { Machine.idle lostFiles .empty [] with cwd := 2 }

theorem lostFiles_wellFormed : lostFiles.WellFormed := by
  have hcases {i : Inode} {d : Directory} (h : lostFiles.directory? i = some d) :
      i = 0 ∧ d = ⟨root, [("t", 1)], false⟩ ∨ i = 2 ∧ d = ⟨root, [], true⟩ := by
    rcases i with _ | _ | _ | i
    · exact .inl ⟨rfl, (Option.some.inj h).symm⟩
    · cases h
    · exact .inr ⟨rfl, (Option.some.inj h).symm⟩
    · cases h
  have hnolink (i : Inode) : lostFiles.link? i = none := by
    rcases i with _ | _ | _ | i <;> rfl
  refine ⟨⟨_, rfl, rfl⟩, ?_, ?_, ?_, ?_, ?_, ?_⟩
  · intro i d hd
    rcases hcases hd with ⟨-, rfl⟩ | ⟨-, rfl⟩ <;> rfl
  · intro i d e hd he
    rcases hcases hd with ⟨-, rfl⟩ | ⟨-, rfl⟩
    · rw [List.mem_singleton.1 he]
      exact ⟨by decide, by decide, by decide, by decide, by decide, by decide⟩
    · simp at he
  · intro i d e hd he
    rcases hcases hd with ⟨-, rfl⟩ | ⟨-, rfl⟩
    · rw [List.mem_singleton.1 he]
      decide
    · simp at he
  · intro i d b e hd he hb
    rcases hcases hd with ⟨-, rfl⟩ | ⟨-, rfl⟩
    · rw [List.mem_singleton.1 he] at hb
      cases hb
    · simp at he
  · intro i d hd
    rcases hcases hd with ⟨-, rfl⟩ | ⟨-, rfl⟩ <;> simp
  · intro i target ht
    rw [hnolink] at ht
    cases ht

/-- From a working directory that has been removed, `init` installs a program and then fails to see
where it is. -/
theorem init_not_again_of_lost_directory : lostFiles.WellFormed ∧
    (lostFiles.directory? lostMachine.cwd).isSome ∧ (∀ i, ¬ lostMachine.LogsTo i) ∧
    let init := runCommand noChildren .command "init" lostConfig none false
    ∃ r m', init.run lostMachine = .ok r m' ∧
      Separate (Copies lostConfig lostMachine) m'.files lostMachine.cwd ∧
      Repeats lostMachine m' ∧ ¬ ∃ n', init.run m' = .ok r n' ∧ n'.files = m'.files := by
  refine ⟨lostFiles_wellFormed, rfl, ?_, ?_⟩
  · simp [Machine.LogsTo, lostMachine, Machine.idle, Log.State.initial]
  let files : FileSystem := lostFiles.add root "c" (.file ⟨ByteArray.empty, 0o755, 0⟩)
  have hrun : (runCommand noChildren .command "init" lostConfig none false).run lostMachine =
      .ok ⟨.code 0, ["10_install_binary", "20_config_dir", "30_copy_manifests"], none⟩
        { lostMachine with files } := by cbv
  have hsource : lostConfig.executable lostMachine.environment lostMachine.argv =
      .ok (Path.ofString "../t") := by cbv
  have htarget : lostConfig.installedBinary lostMachine.environment =
      .ok (Path.ofString "/c") := by cbv
  have hmanifests : lostConfig.manifests lostMachine.environment = .ok [] := by cbv
  have hi : files.find 2 (Path.ofString "../t").toString = .ok 1 := by cbv
  have hj : IsTarget files 2 (Path.ofString "../t") (Path.ofString "/c") 3 := by
    show files.find 2 (targetOf files 2 (Path.ofString "../t") (Path.ofString "/c")).path = .ok 3
    cbv
  have hagain : (Pipeline.run ⟨lostConfig, "", false⟩ initSteps).run { lostMachine with files } =
      .error (.os .notFound .nothing) { lostMachine with files } := by cbv
  refine ⟨_, _, hrun, separate_of_binary hsource htarget hmanifests hi hj (by decide),
    ⟨rfl, rfl, rfl, ?_⟩, ?_⟩
  · simp [Machine.LogsTo, lostMachine, Machine.idle, Log.State.initial]
  · have hfails : (runCommand noChildren .command "init" lostConfig none false).run
        { lostMachine with files } = .error (.os .notFound .nothing)
          ({ lostMachine with files }.report (.failed .command "init")) :=
      run_init_of_error hagain
    rintro ⟨n', hok, -⟩
    rw [hfails] at hok
    cases hok

end DeviceLauncher.Launch
