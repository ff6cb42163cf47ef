import DeviceLauncher.Proofs.Launch.Init

/-!
# What `init` leaves alone

`Changes copies directories m m'` bounds what happened between two machines: targets of some copies
were written or created, and directories were made on the way of some paths. The log wrote what it
writes. All else is as it was, and no child was started.

Each step of `init` keeps to the copies and the directory that are configured
(`installBinary_changes`, `configDirectory_changes`, `copyManifests_changes`), whether or not it
fails, and so does the command (`init_frame`).
-/

namespace DeviceLauncher.Launch

open FileSystem Install

variable {config : Config} {context : Context} {m m' m'' : Machine} {source target : Path}

/-- Whether an inode is the target of one of some copies. -/
def IsTargetOf (copies : Path → Path → Prop) (fs : FileSystem) (cwd : Inode) (i : Inode) : Prop :=
  ∃ source target, copies source target ∧ IsTarget fs cwd source target i

/-- Whether an inode is on the way of one of some paths. -/
def OnTheWayOf (paths : Path → Prop) (fs : FileSystem) (cwd : Inode) (i : Inode) : Prop :=
  ∃ p, paths p ∧ OnTheWay fs cwd p i

/-- How `m'` may differ from `m`. Where copies and paths lead is seen at the end. -/
structure Changes (copies : Path → Path → Prop) (directories : Path → Prop) (m m' : Machine) :
    Prop where
  scene : m.SameScene m'
  children : m'.children = m.children
  wellFormed : m'.files.WellFormed
  frame : FileSystem.Frame (fun i => m.LogsTo i ∨ IsTargetOf copies m'.files m'.cwd i)
    (IsTargetOf copies m'.files m'.cwd) (OnTheWayOf directories m'.files m'.cwd) m.files m'.files

namespace Changes

variable {copies : Path → Path → Prop} {directories : Path → Prop}

theorem of_logged (hwf : m.files.WellFormed) (h : m.Logged m') : Changes copies directories m m' :=
  ⟨h.scene, h.children, hwf.rewritten h.files, .of_rewritten (h.files.mono fun _ => .inl)⟩

theorem refl (hwf : m.files.WellFormed) : Changes copies directories m m :=
  of_logged hwf (.refl m)

theorem trans (h : Changes copies directories m m') (h' : Changes copies directories m' m'') :
    Changes copies directories m m'' := by
  have htarget (i : Inode) (hi : IsTargetOf copies m'.files m'.cwd i) :
      IsTargetOf copies m''.files m''.cwd i := by
    obtain ⟨source, target, hc, ht⟩ := hi
    rw [h'.scene.cwd]
    exact ⟨source, target, hc, ht.of_grows h.wellFormed h'.frame.grows⟩
  have hway (i : Inode) (hi : OnTheWayOf directories m'.files m'.cwd i) :
      OnTheWayOf directories m''.files m''.cwd i := by
    obtain ⟨p, hp, q, hq, hf⟩ := hi
    rw [h'.scene.cwd]
    exact ⟨p, hp, q, hq, find_of_grows h.wellFormed h'.frame.grows hf⟩
  refine ⟨h.scene.trans h'.scene, h'.children.trans h.children, h'.wellFormed, ?_⟩
  have hlogs := h.scene.logsTo
  have hfirst := h.frame.mono (fun i => Or.imp_right (htarget i)) htarget hway
  exact hfirst.trans (hlogs ▸ h'.frame)

theorem of_copied (hwf : m.files.WellFormed) (hc : copies source target)
    (h : Copied source target m m') : Changes copies directories m m' := by
  obtain ⟨hwf', j, hj, hframe⟩ := h.frame hwf
  have htarget (i : Inode) (hi : i = j) : IsTargetOf copies m'.files m'.cwd i :=
    hi ▸ ⟨source, target, hc, hj⟩
  exact ⟨h.scene, h.children, hwf',
    hframe.mono (fun i => Or.imp_right (htarget i)) htarget (fun _ => False.elim)⟩

theorem of_made {p : Path} (hp : directories p) (hscene : m.SameScene m')
    (hchildren : m'.children = m.children) (h : Made m.files m.cwd p m'.files) :
    Changes copies directories m m' := by
  refine ⟨hscene, hchildren, h.wellFormed, h.frame.mono (fun _ => False.elim)
    (fun _ => False.elim) fun i hi => ?_⟩
  rw [hscene.cwd]
  exact ⟨p, hp, hi⟩

end Changes

/-! ## The steps -/

variable {copies : Path → Path → Prop} {directories : Path → Prop}

theorem installBinary_changes (hdry : context.dryRun = false) (hwf : m.files.WellFormed)
    (hcopies : ∀ source target, Copies context.config m source target → copies source target) :
    Changes copies directories m (Action.after (installBinary.run context) m) := by
  rcases installBinary_cases hdry m with ⟨m', hrun, hinstalls⟩ | ⟨e, m', hrun, hlog⟩
  · rw [Action.after_of_ok hrun]
    cases hinstalls with
    | already _ _ _ _ hm => exact hm ▸ .of_logged hwf (Machine.logged_report _ m)
    | copy hsource htarget _ hinstalled hcopied hm =>
      have hcopy : Changes copies directories m _ :=
        .of_copied hwf (hcopies _ _ (.binary hsource htarget hinstalled)) hcopied
      exact hm ▸ hcopy.trans (.of_logged hcopy.wellFormed (Machine.logged_report _ _))
  · rw [Action.after_of_error hrun]
    exact .of_logged hwf hlog

theorem configDirectory_changes (hdry : context.dryRun = false) (hwf : m.files.WellFormed)
    (hdirectories : ∀ p, context.config.configDirectory m.environment = .ok p → directories p) :
    Changes copies directories m (Action.after (configDirectory.run context) m) := by
  rcases configDirectory_cases hdry hwf with ⟨e, -, hrun⟩ |
    ⟨p, m₁, m', hp, hlog, hscene, hchildren, hmade, hend⟩
  · rw [Action.after_of_error hrun]
    exact .refl hwf
  · have hchanges : Changes copies directories m m' :=
      (Changes.of_logged hwf hlog).trans (.of_made (hdirectories p hp) hscene hchildren hmade)
    rcases hend with ⟨e, hrun⟩ | ⟨hrun, -⟩
    · rwa [Action.after_of_error hrun]
    · rwa [Action.after_of_ok hrun]

theorem copyAll_changes {manifests : List Manifest} (hwf : m.files.WellFormed)
    (hcopies : ∀ a ∈ manifests, copies a.source a.target) :
    Changes copies directories m (Action.after (copyAll false manifests) m) := by
  induction manifests generalizing m with
  | nil => exact .refl hwf
  | cons a rest ih =>
    rw [Action.after, run_copyAll_cons]
    rcases installFile_cases a.source a.target m with ⟨m₁, hrun, hcopied⟩ | ⟨e, m₁, hrun, hlog⟩
    · have hcopy : Changes copies directories m m₁ :=
        .of_copied hwf (hcopies a List.mem_cons_self) hcopied
      rw [hrun]
      exact hcopy.trans (ih hcopy.wellFormed fun b hb => hcopies b (List.mem_cons_of_mem a hb))
    · rw [hrun]
      exact .of_logged hwf hlog

theorem copyManifests_changes (hdry : context.dryRun = false) (hwf : m.files.WellFormed)
    (hcopies : ∀ manifests, context.config.manifests m.environment = .ok manifests →
      ∀ a ∈ manifests, copies a.source a.target) :
    Changes copies directories m (Action.after (copyManifests.run context) m) := by
  cases hmanifests : context.config.manifests m.environment with
  | error e =>
    rw [Action.after_of_error (run_copyManifests_of_error hmanifests)]
    exact .refl hwf
  | ok manifests =>
    have hall : Changes copies directories m (Action.after (copyAll false manifests) m) :=
      copyAll_changes hwf (hcopies manifests hmanifests)
    have hrun := run_copyManifests hdry hmanifests
    cases hcopy : (copyAll false manifests).run m with
    | error e m' =>
      rw [hcopy] at hrun
      rwa [Action.after_of_error hrun, ← Action.after_of_error hcopy]
    | ok _ m' =>
      rw [hcopy] at hrun
      rw [Action.after_of_ok hcopy] at hall
      cases hp : context.config.configDirectory m.environment with
      | error e =>
        rw [hp] at hrun
        rwa [Action.after_of_error hrun]
      | ok p =>
        rw [hp] at hrun
        rw [Action.after_of_ok hrun]
        exact hall.trans (.of_logged hall.wellFormed (Machine.logged_report _ m'))

/-! ## The command -/

/-- A pipeline changes what its first step changes, and then what the others do. -/
theorem runFrom_cons_changes {step : Step} {rest : List Step} {ran : List String} {s : Status}
    (hwf : m.files.WellFormed)
    (hstep : ∀ m₁, m.Logged m₁ → m₁.files.WellFormed →
      Changes copies directories m₁ (Action.after (step.run context) m₁))
    (hrest : ∀ m₁ ran s, m.SameScene m₁ → m₁.files.WellFormed →
      Changes copies directories m₁ (Action.after (Pipeline.runFrom context ran s rest) m₁)) :
    Changes copies directories m
      (Action.after (Pipeline.runFrom context ran s (step :: rest)) m) := by
  have hlog := Machine.logged_report (.runningStep step.id) m
  have hreport : Changes copies directories m (m.report (.runningStep step.id)) :=
    .of_logged hwf hlog
  have hchanges := hreport.trans (hstep _ hlog hreport.wellFormed)
  rw [Action.after, Pipeline.run_runFrom_cons]
  cases hrun : (step.run context).run (m.report (.runningStep step.id)) with
  | error e m' => rwa [Action.after_of_error hrun] at hchanges
  | ok status m' =>
    rw [Action.after_of_ok hrun] at hchanges
    by_cases hs : status.isZero
    · simp only [hs, if_true]
      exact hchanges.trans (hrest m' _ _ hchanges.scene hchanges.wellFormed)
    · simp only [hs, Bool.false_eq_true, if_false]
      exact hchanges.trans (.of_logged hchanges.wellFormed (Machine.logged_report _ m'))

theorem runFrom_nil_changes {ran : List String} {s : Status} (hwf : m.files.WellFormed) :
    Changes copies directories m (Action.after (Pipeline.runFrom context ran s []) m) := by
  rw [Action.after_of_ok (Pipeline.run_runFrom_nil context ran s m)]
  exact .refl hwf

section Init

variable {m₁ : Machine} {rest : List Step} {ran : List String} {s : Status}

/-- Whether a path is that of the configuration directory. -/
def IsConfigDirectory (config : Config) (m : Machine) (p : Path) : Prop :=
  config.configDirectory m.environment = .ok p

/-- What `init` may do on a machine. -/
abbrev InitChanges (config : Config) (m : Machine) : Machine → Machine → Prop :=
  Changes (Copies config m) (IsConfigDirectory config m)

theorem runFrom_installBinary_changes (hdry : context.dryRun = false) (hwf : m.files.WellFormed)
    (hrest : ∀ m₁ ran s, m.SameScene m₁ → m₁.files.WellFormed →
      InitChanges context.config m m₁ (Action.after (Pipeline.runFrom context ran s rest) m₁)) :
    InitChanges context.config m m
      (Action.after (Pipeline.runFrom context ran s (installBinary :: rest)) m) := by
  refine runFrom_cons_changes hwf (fun m₁ hlog hwf₁ => ?_) hrest
  exact installBinary_changes hdry hwf₁ fun source target hc => copies_of_logged hlog ▸ hc

theorem runFrom_configDirectory_changes (hdry : context.dryRun = false) (hm : m.SameScene m₁)
    (hwf : m₁.files.WellFormed) (hrest : ∀ m₂ ran s, m.SameScene m₂ → m₂.files.WellFormed →
      InitChanges context.config m m₂ (Action.after (Pipeline.runFrom context ran s rest) m₂)) :
    InitChanges context.config m m₁
      (Action.after (Pipeline.runFrom context ran s (configDirectory :: rest)) m₁) := by
  refine runFrom_cons_changes hwf (fun m₂ hlog hwf₂ => ?_)
    fun m₂ ran s hscene => hrest m₂ ran s (hm.trans hscene)
  refine configDirectory_changes hdry hwf₂ fun p hp => ?_
  rwa [(hm.trans hlog.scene).environment] at hp

theorem runFrom_copyManifests_changes (hdry : context.dryRun = false) (hm : m.SameScene m₁)
    (hwf : m₁.files.WellFormed) :
    InitChanges context.config m m₁
      (Action.after (Pipeline.runFrom context ran s [copyManifests]) m₁) := by
  refine runFrom_cons_changes hwf (fun m₂ hlog hwf₂ => ?_)
    fun m₂ ran s _ hwf₂ => runFrom_nil_changes hwf₂
  refine copyManifests_changes hdry hwf₂ fun manifests hmanifests a ha => ?_
  rw [(hm.trans hlog.scene).environment] at hmanifests
  exact .manifest hmanifests ha

theorem installBinary_pipeline_changes (hdry : context.dryRun = false)
    (hwf : m.files.WellFormed) : InitChanges context.config m m
      (Action.after (Pipeline.run context [installBinary]) m) :=
  runFrom_installBinary_changes hdry hwf fun _ _ _ _ hwf₁ => runFrom_nil_changes hwf₁

theorem configDirectory_pipeline_changes (hdry : context.dryRun = false)
    (hwf : m.files.WellFormed) : InitChanges context.config m m
      (Action.after (Pipeline.run context [installBinary, configDirectory]) m) :=
  runFrom_installBinary_changes hdry hwf fun _ _ _ hm hwf₁ =>
    runFrom_configDirectory_changes hdry hm hwf₁ fun _ _ _ _ hwf₂ => runFrom_nil_changes hwf₂

theorem initSteps_changes (hdry : context.dryRun = false) (hwf : m.files.WellFormed) :
    InitChanges context.config m m (Action.after (Pipeline.run context initSteps) m) :=
  runFrom_installBinary_changes hdry hwf fun _ _ _ hm hwf₁ =>
    runFrom_configDirectory_changes hdry hm hwf₁ fun _ _ _ hm hwf₂ =>
      runFrom_copyManifests_changes hdry hm hwf₂

end Init

theorem init_changes (children : Child.Behaviour) (entry : Log.Entry) (config : Config)
    (host : Option String) (hwf : m.files.WellFormed) : InitChanges config m m
      (Action.after (runCommand children entry "init" config host false) m) := by
  let context : Context := ⟨config, host.getD "", false⟩
  have hpipeline : InitChanges context.config m m
      (Action.after (Pipeline.run context initSteps) m) := initSteps_changes rfl hwf
  have hrun := run_runCommand (show stepsOf? children "init" = some initSteps from rfl) entry
    config host false m
  cases h : (Pipeline.run context initSteps).run m with
  | error e m' =>
    rw [h] at hrun
    rw [Action.after_of_error h] at hpipeline
    rw [Action.after_of_error hrun]
    exact hpipeline.trans (.of_logged hpipeline.wellFormed (Machine.logged_report _ m'))
  | ok result m' =>
    rw [h] at hrun
    rw [Action.after_of_ok h] at hpipeline
    rw [Action.after_of_ok hrun]
    exact hpipeline.trans (.of_logged hpipeline.wellFormed (logged_finished entry "init" result m'))

/-- `init`, whether it returns or fails, writes and creates no files but the targets of its copies,
makes no directories but on the way of the configured one, and starts no child. No name is lost, and
none leads anywhere else than before. -/
theorem init_frame (children : Child.Behaviour) (entry : Log.Entry) (config : Config)
    (host : Option String) (m : Machine) (hwf : m.files.WellFormed) :
    let m' := Action.after (runCommand children entry "init" config host false) m
    let isTarget := IsTargetOf (Copies config m) m'.files m.cwd
    let isOnTheWay := OnTheWayOf (IsConfigDirectory config m) m'.files m.cwd
    m'.children = m.children ∧
      FileSystem.Frame (fun i => m.LogsTo i ∨ isTarget i) isTarget isOnTheWay m.files m'.files := by
  have h := init_changes children entry config host hwf
  have hframe := h.frame
  rw [h.scene.cwd] at hframe
  exact ⟨h.children, hframe⟩

/-- On a machine with `/t` alone, `init` has no child and keeps every name. -/
theorem init_frame_of_tool : toolFiles.WellFormed ∧
    let init := runCommand noChildren .command "init" (toolConfig []) none false
    (Action.after init toolMachine).children = [] ∧
      Grows toolFiles (Action.after init toolMachine).files := by
  obtain ⟨hchildren, hframe⟩ :=
    init_frame noChildren .command (toolConfig []) none toolMachine toolFiles_wellFormed
  exact ⟨toolFiles_wellFormed, hchildren, hframe.grows⟩

end DeviceLauncher.Launch
