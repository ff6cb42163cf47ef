import DeviceLauncher.Proofs.Config
import DeviceLauncher.Proofs.Launch.Frame

/-!
# What a failure of `init` leaves behind

`init_failure`: wherever `init` fails, what was done before the step or copy that failed stays, and
that step or copy and all after it have done nothing; directories made on the way to a failure are
the one exception. The failure of the step is the failure of the command.

A copy that fails leaves the machine as `init` would with the manifests before it alone
(`run_initSteps_cut`), since no other setting depends on the manifest list
(`Config.cutManifests`).
-/

namespace DeviceLauncher.Launch

open FileSystem Install

variable {config : Config} {context : Context} {m m₁ m₂ m' : Machine} {e : Failure}

/-! ## The steps in a row -/

/-- The first step, and then the second. -/
theorem run_two_steps (context : Context) (m : Machine) :
    (Pipeline.run context [installBinary, configDirectory]).run m =
      match (Pipeline.run context [installBinary]).run m with
      | .error e m₁ => .error e m₁
      | .ok r m₁ => (Pipeline.runFrom context r.ranSteps (.code 0) [configDirectory]).run m₁ := by
  have hfirst : ∀ step ∈ [installBinary], Pipeline.EndsWithZero context step := by
    simp [installBinary_endsWithZero]
  exact Pipeline.run_runFrom_append context [] m hfirst [configDirectory]

/-- The first two steps, and then the third. -/
theorem run_initSteps (context : Context) (m : Machine) :
    (Pipeline.run context initSteps).run m =
      match (Pipeline.run context [installBinary, configDirectory]).run m with
      | .error e m₂ => .error e m₂
      | .ok r m₂ => (Pipeline.runFrom context r.ranSteps (.code 0) [copyManifests]).run m₂ := by
  have hfirst : ∀ step ∈ [installBinary, configDirectory], Pipeline.EndsWithZero context step := by
    simp [installBinary_endsWithZero, configDirectory_endsWithZero]
  exact Pipeline.run_runFrom_append context [] m hfirst [copyManifests]

/-- A failure of the steps is the failure of the command. -/
theorem run_init_of_error {children : Child.Behaviour} {entry : Log.Entry} {host : Option String}
    (h : (Pipeline.run ⟨config, host.getD "", false⟩ initSteps).run m = .error e m₁) :
    (runCommand children entry "init" config host false).run m =
      .error e (m₁.report (.failed entry "init")) := by
  rw [run_runCommand (show stepsOf? children "init" = some initSteps from rfl), h]

theorem run_init_of_ok {children : Child.Behaviour} {entry : Log.Entry} {host : Option String}
    {r : Pipeline.Result}
    (h : (Pipeline.run ⟨config, host.getD "", false⟩ initSteps).run m = .ok r m₁) :
    ∃ m', m₁.Logged m' ∧
      (runCommand children entry "init" config host false).run m = .ok r m' :=
  ⟨_, logged_finished entry "init" r m₁, by
    rw [run_runCommand (show stepsOf? children "init" = some initSteps from rfl), h]⟩

/-! ## Failing steps -/

theorem logged_of_installBinary_error (hdry : context.dryRun = false)
    (h : (Pipeline.run context [installBinary]).run m = .error e m₁) : m.Logged m₁ := by
  rw [Pipeline.run, Pipeline.run_runFrom_singleton _ _ _ _ (installBinary_endsWithZero _)] at h
  have hlog := Machine.logged_report (.runningStep installBinary.id) m
  rcases installBinary_cases hdry (m.report (.runningStep installBinary.id)) with
    ⟨m', hrun, -⟩ | ⟨e', m', hrun, hlog'⟩
  · rw [hrun] at h
    cases h
  · rw [hrun] at h
    cases h
    exact hlog.trans hlog'

/-- The second step makes no files and writes none. -/
theorem frame_of_configDirectory (hdry : context.dryRun = false) (hwf : m.files.WellFormed)
    {ran : List String} {s : Status} : Changes (fun _ _ => False)
      (IsConfigDirectory context.config m) m
      (Action.after (Pipeline.runFrom context ran s [configDirectory]) m) := by
  refine runFrom_cons_changes hwf (fun m₁ hlog hwf₁ => ?_)
    fun m₁ ran s _ hwf₁ => runFrom_nil_changes hwf₁
  refine configDirectory_changes hdry hwf₁ fun p hp => ?_
  rwa [hlog.scene.environment] at hp

/-- After the first two steps the directory setting is no failure. -/
theorem exists_configDirectory (hdry : context.dryRun = false) {r : Pipeline.Result}
    (hwf : m.files.WellFormed)
    (h : (Pipeline.run context [installBinary, configDirectory]).run m = .ok r m₂) :
    ∃ p, context.config.configDirectory m.environment = .ok p := by
  rw [run_two_steps] at h
  have hchanges := installBinary_pipeline_changes hdry hwf
  cases hbinary : (Pipeline.run context [installBinary]).run m with
  | error e m₁ =>
    rw [hbinary] at h
    cases h
  | ok r₁ m₁ =>
    rw [Action.after_of_ok hbinary] at hchanges
    simp only [hbinary] at h
    rw [Pipeline.run_runFrom_singleton _ _ _ _ (configDirectory_endsWithZero _)] at h
    have hscene := hchanges.scene.trans
      (Machine.logged_report (.runningStep configDirectory.id) m₁).scene
    cases hp : context.config.configDirectory m.environment with
    | ok p => exact ⟨p, rfl⟩
    | error e =>
      rw [run_configDirectory_of_error (hscene.environment ▸ hp)] at h
      cases h

/-- The copies after a failing one are not made. -/
theorem run_copyAll_of_error {manifests : List Manifest} {k : Nat} (hk : k < manifests.length)
    (hfirst : (copyAll false (manifests.take k)).run m = .ok () m₁)
    (herror : (installFile manifests[k].source.toString manifests[k].target.toString false).run m₁
      = .error e m₂) : (copyAll false manifests).run m = .error e m₂ := by
  have hsplit : manifests = manifests.take k ++ manifests[k] :: manifests.drop (k + 1) := by
    rw [List.getElem_cons_drop, List.take_append_drop]
  rw [hsplit, run_copyAll_append, hfirst]
  simp only
  rw [run_copyAll_cons, herror]

/-! ## The shorter list -/

/-- The first two steps do not see the manifest list. -/
theorem run_two_steps_cut (config : Config) (k : Nat) (host : String) :
    Pipeline.run (⟨config.cutManifests k, host, false⟩ : Context)
        [installBinary, configDirectory] =
      Pipeline.run ⟨config, host, false⟩ [installBinary, configDirectory] := by
  refine Pipeline.runFrom_congr _ _ _ ?_
  simp only [List.mem_cons, List.not_mem_nil, or_false, forall_eq_or_imp, forall_eq]
  constructor
  · simp only [installBinary, setting, Config.executable_cutManifests,
      Config.installedBinary_cutManifests]
  · simp only [configDirectory, setting, Config.configDirectory_cutManifests]

/-- With the manifests before it alone, `init` ends well where a copy has failed. -/
theorem run_initSteps_cut {host : String} {r : Pipeline.Result} {manifests : List Manifest}
    {k : Nat} (hwf : m.files.WellFormed)
    (hsteps : (Pipeline.run ⟨config, host, false⟩ [installBinary, configDirectory]).run m =
      .ok r m₁)
    (hmanifests : config.manifests m.environment = .ok manifests)
    (hcopies : (copyAll false (manifests.take k)).run
      (m₁.report (.runningStep copyManifests.id)) = .ok () m₂) :
    ∃ m', m₂.Logged m' ∧ (Pipeline.run ⟨config.cutManifests k, host, false⟩ initSteps).run m =
      .ok ⟨.code 0, r.ranSteps ++ [copyManifests.id], none⟩ m' := by
  let context : Context := ⟨config, host, false⟩
  let cut : Context := ⟨config.cutManifests k, host, false⟩
  have hdry : context.dryRun = false := rfl
  have hchanges := configDirectory_pipeline_changes hdry hwf
  rw [Action.after_of_ok hsteps] at hchanges
  have hscene :=
    hchanges.scene.trans (Machine.logged_report (.runningStep copyManifests.id) m₁).scene
  obtain ⟨p, hp⟩ := exists_configDirectory hdry hwf hsteps
  have hmanifests' : cut.config.manifests (m₁.report (.runningStep copyManifests.id)).environment =
      .ok (manifests.take k) := by
    rw [hscene.environment]
    exact config.manifests_cutManifests k hmanifests
  have hp' : cut.config.configDirectory (m₁.report (.runningStep copyManifests.id)).environment =
      .ok p := by
    rw [hscene.environment, ← hp]
    exact config.configDirectory_cutManifests k _
  refine ⟨m₂.report (.manifestsInstalled p.toString (manifests.take k).length),
    Machine.logged_report _ _, ?_⟩
  rw [run_initSteps, run_two_steps_cut, hsteps]
  simp only
  rw [Pipeline.run_runFrom_singleton _ _ _ _ (copyManifests_endsWithZero _),
    run_copyManifests rfl hmanifests', hcopies]
  simp only [hp']

/-! ## The command -/

section

variable {children : Child.Behaviour} {entry : Log.Entry} {host : Option String}
  {r : Pipeline.Result}

theorem init_of_installBinary_error
    (h : (Pipeline.run ⟨config, host.getD "", false⟩ [installBinary]).run m = .error e m₁) :
    ∃ m', (runCommand children entry "init" config host false).run m = .error e m' ∧
      Rewritten m.LogsTo m.files m'.files := by
  have hsteps : (Pipeline.run ⟨config, host.getD "", false⟩ initSteps).run m = .error e m₁ := by
    rw [run_initSteps, run_two_steps, h]
  have hlog := (logged_of_installBinary_error rfl h).trans
    (Machine.logged_report (.failed entry "init") m₁)
  exact ⟨_, run_init_of_error hsteps, hlog.files⟩

theorem init_of_configDirectory_error (hwf : m.files.WellFormed)
    (h₁ : (Pipeline.run ⟨config, host.getD "", false⟩ [installBinary]).run m = .ok r m₁)
    (h₂ : (Pipeline.run ⟨config, host.getD "", false⟩ [installBinary, configDirectory]).run m =
      .error e m₂) :
    ∃ m', (runCommand children entry "init" config host false).run m = .error e m' ∧
      FileSystem.Frame m.LogsTo (fun _ => False)
        (OnTheWayOf (IsConfigDirectory config m) m'.files m.cwd) m₁.files m'.files := by
  let context : Context := ⟨config, host.getD "", false⟩
  have hdry : context.dryRun = false := rfl
  have hsteps : (Pipeline.run context initSteps).run m = .error e m₂ := by
    rw [run_initSteps, h₂]
  have hbinary := installBinary_pipeline_changes hdry hwf
  rw [Action.after_of_ok h₁] at hbinary
  have hscene := hbinary.scene
  have hstep : (Pipeline.runFrom context r.ranSteps (.code 0) [configDirectory]).run m₁ =
      .error e m₂ := by
    rw [run_two_steps, h₁] at h₂
    exact h₂
  have hdirectory : Changes (fun _ _ => False) (IsConfigDirectory config m₁) m₁ m₂ :=
    Action.after_of_error hstep ▸ frame_of_configDirectory hdry hbinary.wellFormed
  have hchanges := hdirectory.trans
    (.of_logged hdirectory.wellFormed (Machine.logged_report (.failed entry "init") m₂))
  refine ⟨_, run_init_of_error hsteps, hchanges.frame.mono (fun i hi => ?_) (fun i hi => ?_)
    fun i hi => ?_⟩
  · rw [hscene.logsTo] at hi
    rcases hi with hi | ⟨_, _, hi, _⟩
    · exact hi
    · exact hi.elim
  · obtain ⟨_, _, hi, _⟩ := hi
    exact hi
  · obtain ⟨p, hp, hi⟩ := hi
    rw [hchanges.scene.cwd, hscene.cwd] at hi
    rw [IsConfigDirectory, hscene.environment] at hp
    exact ⟨p, hp, hi⟩

theorem init_of_manifests_error (hwf : m.files.WellFormed)
    (h₂ : (Pipeline.run ⟨config, host.getD "", false⟩ [installBinary, configDirectory]).run m =
      .ok r m₂) (hmanifests : config.manifests m.environment = .error e) :
    ∃ m', (runCommand children entry "init" config host false).run m = .error e m' ∧
      Rewritten m.LogsTo m₂.files m'.files := by
  let context : Context := ⟨config, host.getD "", false⟩
  have hdry : context.dryRun = false := rfl
  have hbefore := configDirectory_pipeline_changes hdry hwf
  rw [Action.after_of_ok h₂] at hbefore
  have hlog := Machine.logged_report (.runningStep copyManifests.id) m₂
  have hrefused : context.config.manifests (m₂.report (.runningStep copyManifests.id)).environment =
      .error e := by
    rw [(hbefore.scene.trans hlog.scene).environment]
    exact hmanifests
  have hsteps : (Pipeline.run context initSteps).run m =
      .error e (m₂.report (.runningStep copyManifests.id)) := by
    rw [run_initSteps, h₂]
    simp only
    rw [Pipeline.run_runFrom_singleton _ _ _ _ (copyManifests_endsWithZero _),
      run_copyManifests_of_error hrefused]
  refine ⟨_, run_init_of_error hsteps, ?_⟩
  rw [← hbefore.scene.logsTo]
  exact (hlog.trans (Machine.logged_report (.failed entry "init") _)).files

theorem init_of_copy_error (hwf : m.files.WellFormed) {manifests : List Manifest} {k : Nat}
    {m₃ m₄ : Machine}
    (h₂ : (Pipeline.run ⟨config, host.getD "", false⟩ [installBinary, configDirectory]).run m =
      .ok r m₂) (hmanifests : config.manifests m.environment = .ok manifests)
    (hk : k < manifests.length)
    (hcopies : (copyAll false (manifests.take k)).run (m₂.report (.runningStep copyManifests.id)) =
      .ok () m₃)
    (hcopy : (installFile manifests[k].source.toString manifests[k].target.toString false).run m₃ =
      .error e m₄) :
    ∃ m' result m'', (runCommand children entry "init" config host false).run m = .error e m' ∧
      (runCommand children entry "init" (config.cutManifests k) host false).run m =
        .ok result m'' ∧
      result.returncode = .code 0 ∧ Rewritten m.LogsTo m''.files m'.files := by
  let context : Context := ⟨config, host.getD "", false⟩
  have hdry : context.dryRun = false := rfl
  have hbefore := configDirectory_pipeline_changes hdry hwf
  rw [Action.after_of_ok h₂] at hbefore
  have hlog := Machine.logged_report (.runningStep copyManifests.id) m₂
  have hscene := (hbefore.scene.trans hlog.scene).trans (copyAll_scene hcopies)
  have hlist : context.config.manifests (m₂.report (.runningStep copyManifests.id)).environment =
      .ok manifests := by
    rw [(hbefore.scene.trans hlog.scene).environment]
    exact hmanifests
  have hsteps : (Pipeline.run context initSteps).run m = .error e m₄ := by
    rw [run_initSteps, h₂]
    simp only
    rw [Pipeline.run_runFrom_singleton _ _ _ _ (copyManifests_endsWithZero _),
      run_copyManifests rfl hlist, run_copyAll_of_error hk hcopies hcopy]
  obtain ⟨m₅, hlog₅, hcut⟩ := run_initSteps_cut hwf h₂ hmanifests hcopies
  obtain ⟨m₆, hended, hcommand⟩ := run_init_of_ok hcut
  refine ⟨_, _, m₆, run_init_of_error hsteps, hcommand, rfl, ?_⟩
  -- Both ends differ from the machine before the failing copy by what the log has written.
  have hfailed := (installFile_error hcopy).trans (Machine.logged_report (.failed entry "init") m₄)
  rw [← hscene.logsTo]
  exact (hlog₅.trans hended).files.symm.trans hfailed.files

end

/-- What `init` leaves when it fails: in the first step, nothing but what the log has written; in
the second one, directories at most after the first; at a refused manifest list, what the first two
steps have done; at a copy, what `init` does, and ends well, with the manifests before that one
alone. In each case the command fails as the step does. -/
theorem init_failure (children : Child.Behaviour) (entry : Log.Entry) (config : Config)
    (host : Option String) (m : Machine) (hwf : m.files.WellFormed) :
    let init (c : Config) : Action Pipeline.Result :=
      runCommand children entry "init" c host false
    let first : List Step → Action Pipeline.Result := Pipeline.run ⟨config, host.getD "", false⟩
    (∀ e m₁, (first [installBinary]).run m = .error e m₁ →
      ∃ m', (init config).run m = .error e m' ∧ Rewritten m.LogsTo m.files m'.files) ∧
    (∀ r m₁ e m₂, (first [installBinary]).run m = .ok r m₁ →
      (first [installBinary, configDirectory]).run m = .error e m₂ →
      ∃ m', (init config).run m = .error e m' ∧
        FileSystem.Frame m.LogsTo (fun _ => False)
          (OnTheWayOf (IsConfigDirectory config m) m'.files m.cwd) m₁.files m'.files) ∧
    (∀ r m₂ e, (first [installBinary, configDirectory]).run m = .ok r m₂ →
      config.manifests m.environment = .error e →
      ∃ m', (init config).run m = .error e m' ∧ Rewritten m.LogsTo m₂.files m'.files) ∧
    (∀ r m₂ manifests k m₃ e m₄, (first [installBinary, configDirectory]).run m = .ok r m₂ →
      config.manifests m.environment = .ok manifests → ∀ hk : k < manifests.length,
      (copyAll false (manifests.take k)).run (m₂.report (.runningStep copyManifests.id)) =
        .ok () m₃ →
      (installFile manifests[k].source.toString manifests[k].target.toString false).run m₃ =
        .error e m₄ →
      ∃ m' result m'', (init config).run m = .error e m' ∧
        (init (config.cutManifests k)).run m = .ok result m'' ∧
        result.returncode = .code 0 ∧ Rewritten m.LogsTo m''.files m'.files) :=
  ⟨fun _ _ => init_of_installBinary_error,
    fun _ _ _ _ => init_of_configDirectory_error hwf,
    fun _ _ _ => init_of_manifests_error hwf,
    fun _ _ _ _ _ _ _ h₂ hmanifests hk => init_of_copy_error hwf h₂ hmanifests hk⟩

/-- Where the source of the second manifest is missing, `init` leaves what it would leave with the
first one alone. -/
theorem init_failure_of_missing_source : toolFiles.WellFormed ∧
    let config := toolConfig [("/t", "/a"), ("/x", "/b")]
    let init (c : Config) := runCommand noChildren .command "init" c none false
    ∃ m' result m'', (init config).run toolMachine = .error (.missing "/x") m' ∧
      (init (config.cutManifests 1)).run toolMachine = .ok result m'' ∧
      result.returncode = .code 0 ∧ m'.files = m''.files := by
  refine ⟨toolFiles_wellFormed, ?_⟩
  let f : File := ⟨ByteArray.empty, 0o755, 0⟩
  let files₂ := toolFiles.add root "c" (.file f)
  let files₃ := files₂.add root "a" (.file f)
  have hsteps : (Pipeline.run ⟨toolConfig [("/t", "/a"), ("/x", "/b")], "", false⟩
      [installBinary, configDirectory]).run toolMachine =
        .ok ⟨.code 0, ["10_install_binary", "20_config_dir"], none⟩
          { toolMachine with files := files₂ } := by cbv
  have hmanifests : (toolConfig [("/t", "/a"), ("/x", "/b")]).manifests toolMachine.environment =
      .ok [⟨Path.ofString "/t", Path.ofString "/a"⟩, ⟨Path.ofString "/x", Path.ofString "/b"⟩] := by
    cbv
  have hcopies : (copyAll false [⟨Path.ofString "/t", Path.ofString "/a"⟩]).run
      { toolMachine with files := files₂ } = .ok () { toolMachine with files := files₃ } := by cbv
  have hcopy : (installFile "/x" "/b" false).run { toolMachine with files := files₃ } =
      .error (.missing "/x") { toolMachine with files := files₃ } := by cbv
  obtain ⟨-, -, -, hpart⟩ := init_failure noChildren .command
    (toolConfig [("/t", "/a"), ("/x", "/b")]) none toolMachine toolFiles_wellFormed
  obtain ⟨m', result, m'', hrun, hcut, hresult, hfiles⟩ :=
    hpart _ _ _ 1 _ _ _ hsteps hmanifests (by decide) hcopies hcopy
  exact ⟨m', result, m'', hrun, hcut, hresult, hfiles.eq_of_forall_not toolMachine_logsTo⟩

end DeviceLauncher.Launch
