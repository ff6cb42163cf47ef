import DeviceLauncher.Proofs.Launch.Init

/-!
# Dry runs

In a dry run every step of a command only writes to the log: it makes no directory, copies nothing
and starts no child, whether it returns or fails. So does the command (`onlyLogs_runCommand`).

Nor does a step come to a status but zero, so that a dry run that does not fail has gone through all
steps (`runCommand_of_dryRun`).
-/

namespace DeviceLauncher

open DeviceLauncher.Action (OnlyLogs Returns)

/-! ## What the steps are made of -/

theorem Install.onlyLogs_installFile (source target : String) :
    OnlyLogs (installFile source target true) := by
  refine (OnlyLogs.look _).bind fun found => OnlyLogs.get.bind fun m => ?_
  split
  · exact .throw _
  · exact .report _

theorem Install.onlyLogs_ensureDirectory (path : String) :
    OnlyLogs (ensureDirectory path true) := .report _

theorem Child.onlyLogs_run (children : Behaviour) (argv : List String)
    (extra : List (String × String)) (directory : Option String) :
    OnlyLogs (run children argv extra directory true) := by
  unfold run
  simp only [↓reduceIte]
  exact (OnlyLogs.report _).bind fun _ =>
    .ite ((OnlyLogs.report _).bind fun _ => .pure _) (.pure _)

theorem Child.returns_run (children : Behaviour) (argv : List String)
    (extra : List (String × String)) (directory : Option String) :
    Returns (fun outcome => outcome.status = 0) (run children argv extra directory true) := by
  unfold run
  simp only [↓reduceIte]
  exact .after fun _ => .ite (.after fun _ => .pure rfl) (.pure rfl)

namespace Launch

/-! ## The steps -/

section

variable {context : Context} (hdry : context.dryRun = true)
include hdry

theorem onlyLogs_installBinary : OnlyLogs (installBinary.run context) := by
  simp only [installBinary, hdry]
  refine OnlyLogs.get.bind fun m => (OnlyLogs.setting _ _).bind fun source =>
    (OnlyLogs.setting _ _).bind fun target => .check _ <| OnlyLogs.get.bind fun m =>
      (OnlyLogs.ofExcept _).bind fun installed => .ite ?_ ?_
  · exact (OnlyLogs.report _).bind fun _ => .pure _
  · exact (Install.onlyLogs_installFile _ _).bind fun _ =>
      (OnlyLogs.report _).bind fun _ => .pure _

theorem onlyLogs_configDirectory : OnlyLogs (configDirectory.run context) := by
  simp only [configDirectory, hdry]
  exact (OnlyLogs.setting _ _).bind fun directory =>
    (Install.onlyLogs_ensureDirectory _).bind fun _ => .pure _

omit hdry in
theorem onlyLogs_copyAll (manifests : List Manifest) : OnlyLogs (copyAll true manifests) := by
  induction manifests with
  | nil => exact .pure ()
  | cons a rest ih => exact (Install.onlyLogs_installFile _ _).bind fun _ => ih

theorem onlyLogs_copyManifests : OnlyLogs (copyManifests.run context) := by
  simp only [copyManifests, hdry]
  exact (OnlyLogs.setting _ _).bind fun manifests => (onlyLogs_copyAll manifests).bind fun _ =>
    (OnlyLogs.setting _ _).bind fun directory => (OnlyLogs.report _).bind fun _ => .pure _

theorem onlyLogs_runChild (children : Child.Behaviour)
    (command : Config → Except Failure (List String)) :
    OnlyLogs (runChild children context command) := by
  simp only [runChild, hdry]
  exact (OnlyLogs.ofExcept _).bind fun argv => (OnlyLogs.ofExcept _).bind fun extra =>
    (OnlyLogs.setting _ _).bind fun directory => (Child.onlyLogs_run _ _ _ _).bind fun outcome =>
      .pure _

theorem onlyLogs_runTarget (children : Child.Behaviour) :
    OnlyLogs ((runTarget children).run context) :=
  (OnlyLogs.ofExcept _).bind fun _ => (OnlyLogs.report _).bind fun _ =>
    onlyLogs_runChild hdry children _

theorem runChild_endsWithZero (children : Child.Behaviour)
    (command : Config → Except Failure (List String)) :
    Returns (· = .code 0) (runChild children context command) := by
  simp only [runChild, hdry]
  exact .after fun _ => .after fun _ => .after fun _ =>
    (Child.returns_run children _ _ _).bind fun outcome hzero => .pure (by rw [hzero])

theorem runTarget_endsWithZero (children : Child.Behaviour) :
    Pipeline.EndsWithZero context (runTarget children) :=
  Returns.after fun _ => .after fun _ => runChild_endsWithZero hdry children _

/-! ## The commands -/

theorem onlyLogs_of_stepsOf? {children : Child.Behaviour} {command : String} {steps : List Step}
    (h : stepsOf? children command = some steps) :
    ∀ step ∈ steps, OnlyLogs (step.run context) := by
  obtain ⟨-, rfl⟩ | ⟨-, rfl⟩ := stepsOf?_cases h
  · simp only [initSteps, List.forall_mem_cons]
    exact ⟨onlyLogs_installBinary hdry, onlyLogs_configDirectory hdry,
      onlyLogs_copyManifests hdry, nofun⟩
  · simp only [runSteps, List.forall_mem_cons]
    exact ⟨onlyLogs_runChild hdry children _, onlyLogs_runTarget hdry children, nofun⟩

theorem endsWithZero_of_stepsOf? {children : Child.Behaviour} {command : String}
    {steps : List Step} (h : stepsOf? children command = some steps) :
    ∀ step ∈ steps, Pipeline.EndsWithZero context step := by
  obtain ⟨-, rfl⟩ | ⟨-, rfl⟩ := stepsOf?_cases h
  · simp only [initSteps, List.forall_mem_cons]
    exact ⟨installBinary_endsWithZero _, configDirectory_endsWithZero _,
      copyManifests_endsWithZero _, nofun⟩
  · simp only [runSteps, List.forall_mem_cons]
    exact ⟨runChild_endsWithZero hdry children _, runTarget_endsWithZero hdry children, nofun⟩

end

/-- Steps that only write to the log do no more as a pipeline. -/
theorem onlyLogs_runFrom {context : Context} {steps : List Step}
    (h : ∀ step ∈ steps, OnlyLogs (step.run context)) (ran : List String) (status : Status) :
    OnlyLogs (Pipeline.runFrom context ran status steps) := by
  induction steps generalizing ran status with
  | nil => exact .pure _
  | cons step rest ih =>
    refine (OnlyLogs.report _).bind fun _ => (h step List.mem_cons_self).bind fun status => ?_
    exact .ite (ih (fun other ho => h other (List.mem_cons_of_mem step ho)) _ _)
      ((OnlyLogs.report _).bind fun _ => .pure _)

/-- A dry run of a command changes no files and starts no children, apart from what the log
writes. -/
theorem onlyLogs_runCommand (children : Child.Behaviour) (entry : Log.Entry) (command : String)
    (config : Config) (host : Option String) :
    OnlyLogs (runCommand children entry command config host true) := by
  unfold runCommand
  cases hsteps : stepsOf? children command with
  | none => exact .throw _
  | some steps =>
    let context : Context := ⟨config, host.getD "", true⟩
    have hdry : context.dryRun = true := rfl
    have hpipeline : OnlyLogs (Pipeline.run context steps) :=
      onlyLogs_runFrom (onlyLogs_of_stepsOf? hdry hsteps) [] (.code 0)
    refine (OnlyLogs.tryCatch hpipeline fun e => ?_).bind fun result => ?_
    · exact (OnlyLogs.report _).bind fun _ => .throw e
    · exact .ite ((OnlyLogs.report _).bind fun _ => .pure _) (.pure _)

/-- A dry run of a command has gone through all of its steps, unless it fails. -/
theorem returns_runCommand {children : Child.Behaviour} {command : String} {steps : List Step}
    (h : stepsOf? children command = some steps) (entry : Log.Entry) (config : Config)
    (host : Option String) :
    Returns (· = ⟨.code 0, steps.map Pipeline.Step.id, none⟩)
      (runCommand children entry command config host true) := by
  intro m r m' hrun
  rw [run_runCommand h] at hrun
  cases hsteps : (Pipeline.run ⟨config, host.getD "", true⟩ steps).run m with
  | error e m₁ =>
    rw [hsteps] at hrun
    cases hrun
  | ok result m₁ =>
    rw [hsteps] at hrun
    cases hrun
    exact Pipeline.returns_runFrom _ [] (endsWithZero_of_stepsOf? rfl h) m _ m₁ hsteps

/-- A dry run of `init` or `run` only reports, whatever it comes to: it starts no children, and
leaves alone what it runs in and all files but those that the log is written to. If it does not fail
then it ends with status zero, after all steps. -/
theorem runCommand_of_dryRun {children : Child.Behaviour} {command : String} {steps : List Step}
    (h : stepsOf? children command = some steps) (entry : Log.Entry) (config : Config)
    (host : Option String) (m : Machine) :
    let m' := (runCommand children entry command config host true).after m
    (∃ notices, m' = m.tell notices) ∧ m'.children = m.children ∧
      m'.environment = m.environment ∧ m'.cwd = m.cwd ∧ m'.argv = m.argv ∧
      FileSystem.Rewritten m.LogsTo m.files m'.files ∧
      ((∀ i, ¬ m.LogsTo i) → m'.files = m.files) ∧
      ∀ r n, (runCommand children entry command config host true).run m = .ok r n →
        r = ⟨.code 0, steps.map Pipeline.Step.id, none⟩ := by
  intro m'
  have htold : m.Told m' := onlyLogs_runCommand children entry command config host m
  have hlog := htold.logged
  exact ⟨htold, hlog.children, hlog.scene.environment, hlog.scene.cwd, hlog.scene.argv, hlog.files,
    hlog.files_eq, returns_runCommand h entry config host m⟩

/-- A manifest that is missing ends a dry run, and nothing has been done. -/
theorem runCommand_of_dryRun_missing_source : stepsOf? noChildren "init" = some initSteps ∧
    let m' := (runCommand noChildren .command "init" (toolConfig [("/s", "/d")]) none true).after
      toolMachine
    m'.children = [] ∧ m'.files = toolFiles := by
  have h : stepsOf? noChildren "init" = some initSteps := rfl
  obtain ⟨-, hchildren, -, -, -, -, hfiles, -⟩ :=
    runCommand_of_dryRun h .command (toolConfig [("/s", "/d")]) none toolMachine
  exact ⟨h, hchildren, hfiles toolMachine_logsTo⟩

end Launch

end DeviceLauncher
