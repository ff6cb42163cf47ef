import DeviceLauncher.Proofs.Launch.Command

/-!
# What `run` runs

`run` is to do what a shell does with `build && run`, in the project directory and with the host
in the environment.

* `AndList`: how such a list of commands runs, whatever the children do. A command is started when
  the one before it has ended with zero; the list stops at a failure and at any other status.
* `runFrom_andList`: a pipeline of steps that each run a child runs the list of their commands.
* `run_andList`: so does `run`, with the words, the directory and the variable as configured.

The files that a child finds are those that were left before it, apart from what the log has
written meanwhile.
-/

namespace DeviceLauncher.Launch

open FileSystem (Rewritten)

variable {children : Child.Behaviour} {m m' m'' : Machine}

/-- What is there before and after a child, and how it ended: with a code, or not even started. -/
structure Ran (children : Child.Behaviour) (start : Child.Start) (m : Machine)
    (outcome : Except Failure Int) (m' : Machine) : Prop where
  scene : m.SameScene m'
  started : m'.children = m.children ++ [start]
  found : ∃ found, Rewritten m.LogsTo m.files found ∧
    (children start ⟨found, m.cwd, m.now⟩).1.map Child.End.code = outcome ∧
    Rewritten m.LogsTo (children start ⟨found, m.cwd, m.now⟩).2 m'.files

theorem Ran.of_logged {start : Child.Start} {outcome : Except Failure Int} (hl : m.Logged m')
    (h : Ran children start m' outcome m'') : Ran children start m outcome m'' := by
  obtain ⟨found, hf, ho, hleft⟩ := h.found
  refine ⟨hl.scene.trans h.scene, by rw [h.started, hl.children], found, ?_, ?_, ?_⟩
  · exact hl.files.trans (hl.scene.logsTo ▸ hf)
  · rw [← ho, hl.scene.cwd, hl.scene.now]
  · rw [← hl.scene.cwd, ← hl.scene.now, ← hl.scene.logsTo]
    exact hleft

theorem Ran.logged {start : Child.Start} {outcome : Except Failure Int}
    (h : Ran children start m outcome m') (hl : m'.Logged m'') :
    Ran children start m outcome m'' := by
  obtain ⟨found, hf, ho, hleft⟩ := h.found
  refine ⟨h.scene.trans hl.scene, by rw [hl.children, h.started], found, hf, ho, ?_⟩
  exact hleft.trans (h.scene.logsTo ▸ hl.files)

/-! ## Single children -/

theorem await_ran (children : Child.Behaviour) (start : Child.Start) (m : Machine) :
    ∃ outcome m', Ran children start m outcome m' ∧
      (Child.await children start).run m = match outcome with
        | .error e => .error e m'
        | .ok code => .ok code m' := by
  simp only [Child.await, EStateM.run_bind, EStateM.run_get, EStateM.run_set]
  cases h : children start ⟨m.files, m.cwd, m.now⟩ with
  | mk result files =>
    cases result with
    | error e =>
      refine ⟨.error e, { m with files, children := m.children ++ [start] }, ?_, rfl⟩
      exact ⟨⟨rfl, rfl, rfl, rfl, rfl⟩, rfl, m.files, .refl _ _, by rw [h]; rfl,
        by rw [h]; exact .refl _ _⟩
    | ok e =>
      refine ⟨.ok e.code, { m with
        files, children := m.children ++ [start], stdout := m.stdout ++ e.stdout,
        stderr := m.stderr ++ e.stderr }, ?_, rfl⟩
      exact ⟨⟨rfl, rfl, rfl, rfl, rfl⟩, rfl, m.files, .refl _ _, by rw [h]; rfl,
        by rw [h]; exact .refl _ _⟩

/-- A command starts one child, in the environment of the launcher with the variables set. -/
theorem run_ran (children : Child.Behaviour) (argv : List String) (extra : List (String × String))
    (directory : Option String) (m : Machine) :
    ∃ outcome m', Ran children ⟨argv, m.environment.overlay extra, directory⟩ m outcome m' ∧
      (Child.run children argv extra directory false).run m = match outcome with
        | .error e => .error e m'
        | .ok code => .ok ⟨argv, exitStatus code⟩ m' := by
  -- What follows the reports is the same whether or not there are variables to report.
  have started (m₁ : Machine) (hm : m.Logged m₁) :
      ∃ outcome m', Ran children ⟨argv, m.environment.overlay extra, directory⟩ m outcome m' ∧
        (do let environment := (← get).environment.overlay extra
            let code ← Child.await children ⟨argv, environment, directory⟩
            if code != 0 then Action.report (.commandFailed code argv)
            return ⟨argv, exitStatus code⟩ : Action Child.Outcome).run m₁ = match outcome with
          | .error e => .error e m'
          | .ok code => .ok ⟨argv, exitStatus code⟩ m' := by
    obtain ⟨outcome, m₂, hran, hrun⟩ :=
      await_ran children ⟨argv, m₁.environment.overlay extra, directory⟩ m₁
    rw [hm.scene.environment] at hran hrun
    simp only [EStateM.run_bind, EStateM.run_get, hm.scene.environment, hrun]
    cases outcome with
    | error e => exact ⟨.error e, m₂, hran.of_logged hm, rfl⟩
    | ok code =>
      simp only
      split
      · exact ⟨.ok code, _, (hran.of_logged hm).logged (Machine.logged_report _ _), rfl⟩
      · exact ⟨.ok code, m₂, hran.of_logged hm, rfl⟩
  simp only [Child.run, EStateM.run_bind, Action.run_report]
  split
  · exact started _ ((Machine.logged_report _ _).trans (Machine.logged_report _ _))
  · exact started _ (Machine.logged_report _ _)

/-- A step of `run` starts one child, in the project directory and with the host in its
environment. -/
theorem runChild_ran (children : Child.Behaviour) (context : Context) (m : Machine)
    (command : Config → Except Failure (List String)) {argv : List String} {name : String}
    {directory : Path} (hdry : context.dryRun = false) (hargv : command context.config = .ok argv)
    (hname : context.config.hostVariable = .ok name)
    (hdirectory : context.config.projectDirectory m.environment = .ok directory) :
    ∃ outcome m', Ran children
        ⟨argv, m.environment.set name context.host, some directory.toString⟩ m outcome m' ∧
      (runChild children context command).run m = match outcome with
        | .error e => .error e m'
        | .ok code => .ok (.code (exitStatus code)) m' := by
  obtain ⟨outcome, m', hran, hrun⟩ :=
    run_ran children argv [(name, context.host)] (some directory.toString) m
  refine ⟨outcome, m', hran, ?_⟩
  have hextra : context.config.childVariables context.host = .ok [(name, context.host)] := by
    rw [Config.childVariables, hname]
    rfl
  simp only [runChild, hargv, hextra, hdry, EStateM.run_bind, Action.run_ofExcept,
    Action.run_setting, hdirectory, hrun]
  cases outcome <;> rfl

/-! ## Lists of commands -/

/-- How commands run one after the other as long as each ends with zero: from some files, the
commands that are started, what the last one of them comes to, and the files that are left. Before
and after each command files in `logs` may be written. -/
inductive AndList (children : Child.Behaviour) (logs : Inode → Prop) (cwd : Inode) (now : Int) :
    FileSystem → List (String × Child.Start) → List (String × Child.Start) →
      Except Failure Int → FileSystem → Prop where
  | done {files left : FileSystem} : Rewritten logs files left →
      AndList children logs cwd now files [] [] (.ok 0) left
  | refused {files found left : FileSystem} {command : String × Child.Start}
      {rest : List (String × Child.Start)} {e : Failure} : Rewritten logs files found →
      (children command.2 ⟨found, cwd, now⟩).1 = .error e →
        Rewritten logs (children command.2 ⟨found, cwd, now⟩).2 left →
          AndList children logs cwd now files (command :: rest) [command] (.error e) left
  | failed {files found left : FileSystem} {command : String × Child.Start}
      {rest : List (String × Child.Start)} {e : Child.End} : Rewritten logs files found →
      (children command.2 ⟨found, cwd, now⟩).1 = .ok e → e.code ≠ 0 →
        Rewritten logs (children command.2 ⟨found, cwd, now⟩).2 left →
          AndList children logs cwd now files (command :: rest) [command] (.ok e.code) left
  | next {files found left : FileSystem} {command : String × Child.Start}
      {rest started : List (String × Child.Start)} {e : Child.End} {outcome : Except Failure Int} :
      Rewritten logs files found → (children command.2 ⟨found, cwd, now⟩).1 = .ok e → e.code = 0 →
        AndList children logs cwd now (children command.2 ⟨found, cwd, now⟩).2 rest started
          outcome left →
          AndList children logs cwd now files (command :: rest) (command :: started) outcome left

namespace AndList

variable {logs : Inode → Prop} {cwd : Inode} {now : Int} {before files left : FileSystem}
  {commands started : List (String × Child.Start)} {outcome : Except Failure Int}

theorem of_rewritten (hw : Rewritten logs before files)
    (h : AndList children logs cwd now files commands started outcome left) :
    AndList children logs cwd now before commands started outcome left := by
  cases h with
  | done hl => exact .done (hw.trans hl)
  | refused hf hc hl => exact .refused (hw.trans hf) hc hl
  | failed hf hc he hl => exact .failed (hw.trans hf) hc he hl
  | next hf hc he hl => exact .next (hw.trans hf) hc he hl

/-- All ends well only when all commands are started. -/
theorem started_eq (h : AndList children logs cwd now files commands started (.ok 0) left) :
    started = commands := by
  generalize ho : (Except.ok 0 : Except Failure Int) = outcome at h
  induction h with
  | done => rfl
  | refused => cases ho
  | failed _ _ he _ => exact absurd (Except.ok.inj ho).symm he
  | next _ _ _ _ ih => rw [ih ho]

end AndList

/-- Whether a step runs a child, on every machine like a given one. -/
def RunsChild (children : Child.Behaviour) (context : Context) (m : Machine) (step : Step)
    (command : String × Child.Start) : Prop :=
  step.id = command.1 ∧ ∀ m₁, m.SameScene m₁ →
    ∃ outcome m₂, Ran children command.2 m₁ outcome m₂ ∧
      (step.run context).run m₁ = match outcome with
        | .error e => .error e m₂
        | .ok code => .ok (.code (exitStatus code)) m₂

/-- Steps that run children run them as a list of commands. -/
theorem runFrom_andList {context : Context} {m₀ : Machine} {steps : List Step}
    {commands : List (String × Child.Start)}
    (hsteps : List.Forall₂ (RunsChild children context m₀) steps commands) (ran : List String)
    (hm : m₀.SameScene m) :
    ∃ started outcome left m', AndList children m.LogsTo m.cwd m.now m.files commands started
        outcome left ∧ m.SameScene m' ∧ m'.children = m.children ++ started.map Prod.snd ∧
      Rewritten m.LogsTo left m'.files ∧
      (Pipeline.runFrom context ran (.code 0) steps).run m = match outcome with
        | .error e => .error e m'
        | .ok code => .ok ⟨.code (exitStatus code), ran ++ started.map Prod.fst,
            if code = 0 then none else (started.map Prod.fst).getLast?⟩ m' := by
  induction hsteps generalizing ran m with
  | nil =>
    refine ⟨[], .ok 0, m.files, m, .done (.refl _ _), .refl m, by simp, .refl _ _, ?_⟩
    rw [Pipeline.run_runFrom_nil]
    simp [exitStatus]
  | @cons step command steps commands hstep _ ih =>
    obtain ⟨hid, hrun⟩ := hstep
    have hlog := Machine.logged_report (.runningStep step.id) m
    obtain ⟨outcome, m₂, hran, hstep⟩ := hrun _ (hm.trans hlog.scene)
    replace hran := hran.of_logged hlog
    obtain ⟨found, hfound, hout, hleft⟩ := hran.found
    rw [Pipeline.run_runFrom_cons, hstep]
    cases hc : (children command.2 ⟨found, m.cwd, m.now⟩).1 with
    | error e =>
      rw [hc] at hout
      subst hout
      exact ⟨[command], .error e, _, m₂, .refused hfound hc (.refl _ _), hran.scene, hran.started,
        hleft, rfl⟩
    | ok e =>
      rw [hc] at hout
      subst hout
      simp only [Except.map, Status.isZero, beq_iff_eq, exitStatus_eq_zero_iff]
      by_cases he : e.code = 0
      · obtain ⟨started, outcome, left, m₃, hlist, hscene, hstarted, hfiles, hrest⟩ :=
          ih (ran ++ [step.id]) (hm.trans hran.scene)
        rw [hran.scene.logsTo] at hlist hfiles
        rw [hran.scene.cwd, hran.scene.now] at hlist
        refine ⟨command :: started, outcome, left, m₃,
          .next hfound hc he (hlist.of_rewritten hleft), hran.scene.trans hscene, ?_, hfiles, ?_⟩
        · rw [hstarted, hran.started]
          simp
        · rw [if_pos he, he, show exitStatus 0 = 0 from rfl, hrest]
          cases outcome with
          | error e => rfl
          | ok code =>
            by_cases hcode : code = 0
            · simp [hcode, hid]
            · cases started with
              | nil => cases hlist; exact absurd rfl hcode
              | cons c rest => simp [hcode, hid, List.getLast?_cons_cons]
      · have hreport := Machine.logged_report (.stepFailed step.id (.code (exitStatus e.code))) m₂
        refine ⟨[command], .ok e.code, _, m₂.report (.stepFailed step.id (.code (exitStatus e.code))),
          .failed hfound hc he (.refl _ _), hran.scene.trans hreport.scene, ?_, ?_, ?_⟩
        · rw [hreport.children, hran.started]
          rfl
        · exact hleft.trans (hran.scene.logsTo ▸ hreport.files)
        · simp [he, hid]

/-! ## The command -/

/-- `run` builds and, if the build ends with zero, runs: it starts the children that
`build && run` starts, each with its words, in the project directory and with one more variable,
and comes to what the last of them comes to. -/
theorem run_andList (children : Child.Behaviour) (config : Config) (m : Machine) {name : String}
    {directory : Path} {buildWords runWords : List String}
    (hname : config.hostVariable = .ok name)
    (hdirectory : config.projectDirectory m.environment = .ok directory)
    (hbuild : config.buildCommand = .ok buildWords) (hrun : config.runCommand = .ok runWords)
    (entry : Log.Entry) (host : String) :
    ∃ environment : Environment,
      (environment.get? name = some host ∧
        ∀ other ≠ name, environment.get? other = m.environment.get? other) ∧
      let commands : List (String × Child.Start) :=
        [("50_build", ⟨buildWords, environment, some directory.toString⟩),
          ("60_run", ⟨runWords, environment, some directory.toString⟩)]
      ∃ started outcome left m',
        AndList children m.LogsTo m.cwd m.now m.files commands started outcome left ∧
        m'.children = m.children ++ started.map Prod.snd ∧ Rewritten m.LogsTo left m'.files ∧
        match outcome with
        | .error e => (runCommand children entry "run" config (some host) false).run m = .error e m'
        | .ok code =>
          (runCommand children entry "run" config (some host) false).run m =
            .ok ⟨.code (exitStatus code), started.map Prod.fst,
              if code = 0 then none else (started.map Prod.fst).getLast?⟩ m' ∧
          (exitStatus code = 0 ↔ code = 0 ∧ started = commands) := by
  refine ⟨m.environment.set name host,
    ⟨m.environment.get?_set_self name host, fun _ h => m.environment.get?_set_of_ne host h⟩, ?_⟩
  intro commands
  let context : Context := ⟨config, host, false⟩
  have hsteps : List.Forall₂ (RunsChild children context m) (runSteps children) commands := by
    refine .cons ⟨rfl, fun m₁ hm => ?_⟩ (.cons ⟨rfl, fun m₁ hm => ?_⟩ .nil)
    · have hran := runChild_ran children context m₁ Config.buildCommand rfl hbuild hname
        (hm.environment ▸ hdirectory)
      rwa [hm.environment] at hran
    · have hlog := Machine.logged_report (.starting name host) m₁
      have hm₂ := hm.trans hlog.scene
      obtain ⟨outcome, m₂, hran, hrunChild⟩ := runChild_ran children context
        (m₁.report (.starting name host)) Config.runCommand rfl hrun hname
        (hm₂.environment ▸ hdirectory)
      rw [hm₂.environment] at hran
      refine ⟨outcome, m₂, hran.of_logged hlog, ?_⟩
      rw [← hrunChild]
      simp only [runTarget, context, hname, EStateM.run_bind, Action.run_ofExcept,
        Action.run_report]
  obtain ⟨started, outcome, left, m', hlist, hscene, hstarted, hfiles, hpipeline⟩ :=
    runFrom_andList hsteps [] (.refl m)
  have hsteps : stepsOf? children "run" = some (runSteps children) := rfl
  have hcommand := run_runCommand hsteps entry config (some host) false m
  replace hpipeline : (Pipeline.run ⟨config, (some host).getD "", false⟩ (runSteps children)).run m
    = _ := hpipeline
  rw [hpipeline] at hcommand
  -- The last word of the command goes into the log and nowhere else.
  have logged {m₁ : Machine} (h : m'.Logged m₁) : m₁.children = m.children ++ started.map Prod.snd ∧
      Rewritten m.LogsTo left m₁.files :=
    ⟨h.children.trans hstarted, hfiles.trans (hscene.logsTo ▸ h.files)⟩
  cases outcome with
  | error e =>
    obtain ⟨hchildren, hleft⟩ := logged (Machine.logged_report (.failed entry "run") m')
    exact ⟨started, .error e, left, _, hlist, hchildren, hleft, hcommand⟩
  | ok code =>
    have hzero : exitStatus code = 0 ↔ code = 0 ∧ started = commands := by
      refine exitStatus_eq_zero_iff.trans ⟨fun h => ⟨h, ?_⟩, And.left⟩
      subst h
      exact hlist.started_eq
    obtain ⟨hchildren, hleft⟩ := logged (logged_finished entry "run" _ m')
    exact ⟨started, .ok code, left, _, hlist, hchildren, hleft, hcommand, hzero⟩

/-- A build that a signal ends is the only child, and gives the status. -/
theorem run_andList_of_killed_build :
    let killed : Child.Behaviour := fun _ site =>
      (.ok ⟨-9, ByteArray.empty, ByteArray.empty⟩, site.files)
    ∃ m', (runCommand killed .command "run" .default (some "10.0.0.1") false).run
        (.idle .empty .empty []) = .ok ⟨.code 137, ["50_build"], some "50_build"⟩ m' ∧
      m'.children.map Child.Start.argv = [Config.defaultBuild] := by
  intro killed
  obtain ⟨environment, -, started, outcome, left, m', hlist, hchildren, -, hrun⟩ :=
    run_andList killed .default (.idle .empty .empty [])
      (show Config.default.hostVariable = .ok "DEVICE_HOST" from rfl)
      (show Config.default.projectDirectory .empty = .ok Path.here from rfl)
      (show Config.default.buildCommand = .ok Config.defaultBuild from rfl)
      (show Config.default.runCommand = .ok Config.defaultRun from rfl) .command "10.0.0.1"
  refine ⟨m', ?_⟩
  cases hlist with
  | refused _ hc _ => cases hc
  | failed _ hc _ _ => cases hc; exact ⟨hrun.1, by rw [hchildren]; rfl⟩
  | next _ hc he _ => cases hc; cases he

end DeviceLauncher.Launch
