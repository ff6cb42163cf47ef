import DeviceLauncher.Proofs.Config.Load
import DeviceLauncher.Proofs.Launch.Request

/-!
# Failures before anything is done

A command needs a configuration, and what that says of the log. `Request.FailsEarly reader m e
request` says that one of these cannot be had: loading fails, or the path of the log file or the
level of the log does. The program then ends with that failure, before it has set up the log or begun
with a step (`program_fails_early`). All that may have happened is that the log, as it had been set up
before, was told at the level of debugging which file was loaded (`Machine.OnlyDebugged`).
-/

namespace DeviceLauncher

namespace Machine

variable {m m' : Machine}

/-! ## Notices and streams -/

theorem stdout_foldl_deliver (text : String) (hs : List Log.Handler) (m : Machine) :
    (hs.foldl (deliver text) m).stdout = m.stdout := by
  induction hs generalizing m with
  | nil => rfl
  | cons h hs ih =>
    rw [List.foldl_cons, ih]
    cases h <;> rfl

/-- Nothing that is reported goes to the output. -/
theorem stdout_report (n : Log.Notice) (m : Machine) : (m.report n).stdout = m.stdout := by
  unfold report
  split
  · simp only
    split
    · split <;> rfl
    · exact stdout_foldl_deliver _ _ _
  · rfl

theorem stderr_foldl_deliver (text : String) {hs : List Log.Handler} (h : .console ∉ hs)
    (m : Machine) : (hs.foldl (deliver text) m).stderr = m.stderr := by
  induction hs generalizing m with
  | nil => rfl
  | cons first hs ih =>
    rw [List.mem_cons, not_or] at h
    rw [List.foldl_cons, ih h.2]
    cases first with
    | console => exact absurd rfl h.1
    | file i => rfl

/-- Below the level of warnings the error stream gets nothing that no handler sends there. -/
theorem stderr_report {n : Log.Notice} (hlevel : n.level < .warning)
    (h : .console ∉ m.log.handlers) : (m.report n).stderr = m.stderr := by
  unfold report
  split
  · simp only
    split
    · rw [if_neg (Int.not_le.2 hlevel)]
    · exact stderr_foldl_deliver _ h _
  · rfl

/-- Whether nothing has happened from `m` to `m'` but that something was reported at the level of
debugging. -/
structure OnlyDebugged (m m' : Machine) : Prop where
  told : ∃ more, m' = m.tell more ∧ ∀ n ∈ more, n.level = .debug
  scene : m.SameScene m'
  children : m'.children = m.children
  stdout : m'.stdout = m.stdout
  level : m'.log.level = m.log.level
  setup : m'.log.setup = m.log.setup
  notices : ∃ more, m'.log.notices = m.log.notices ++ more ∧ ∀ n ∈ more, n.level = .debug
  /-- Only what the log writes to may have been written. -/
  files : FileSystem.Rewritten m.LogsTo m.files m'.files
  stderr : .console ∉ m.log.handlers → m'.stderr = m.stderr
  eq_of_not_passes : m.log.passes .debug = false → m' = m

theorem OnlyDebugged.refl (m : Machine) : m.OnlyDebugged m where
  told := ⟨[], rfl, by simp⟩
  scene := .refl m
  children := rfl
  stdout := rfl
  level := rfl
  setup := rfl
  notices := ⟨[], (List.append_nil _).symm, by simp⟩
  files := .refl _ _
  stderr _ := rfl
  eq_of_not_passes _ := rfl

theorem OnlyDebugged.report {n : Log.Notice} (hn : n.level = .debug) (m : Machine) :
    m.OnlyDebugged (m.report n) where
  told := ⟨[n], rfl, by simpa using hn⟩
  scene := (logged_report n m).scene
  children := (logged_report n m).children
  stdout := stdout_report n m
  level := (m.log_report n).1
  setup := (m.log_report n).2.1
  notices := by
    refine ⟨if m.log.passes n.level then [n] else [], ?_, fun n' hn' => ?_⟩
    · rw [notices_report]
      split <;> simp
    · split at hn'
      · rw [List.mem_singleton.1 hn', hn]
      · cases hn'
  files := (logged_report n m).files
  stderr := stderr_report (by rw [hn]; decide)
  eq_of_not_passes h := by rw [Machine.report, hn, h]; rfl

end Machine

namespace Config

/-- Loading that fails has done nothing. Else it may have told what it has loaded. -/
theorem load_cases (reader : Yaml.Reader) (explicit : Option String) (m : Machine) :
    (∃ e, (load reader explicit).run m = .error e m) ∨
      ∃ c m', (load reader explicit).run m = .ok c m' ∧ m.OnlyDebugged m' := by
  obtain ⟨path, required, h⟩ := exists_chooses explicit m.environment
  rw [run_load h rfl]
  split
  · exact .inl ⟨_, rfl⟩
  · split
    · exact .inl ⟨_, rfl⟩
    · exact .inr ⟨_, _, rfl, .refl m⟩
  · split
    · split
      · exact .inl ⟨_, rfl⟩
      · split
        · exact .inl ⟨_, rfl⟩
        · exact .inr ⟨_, _, rfl, .report rfl m⟩
    · exact .inl ⟨_, rfl⟩

variable {reader : Yaml.Reader} {explicit : Option String} {m m' : Machine}

theorem eq_of_load_error {e : Failure} (h : (load reader explicit).run m = .error e m') : m' = m := by
  obtain ⟨e', hrun⟩ | ⟨c, m₁, hrun, -⟩ := load_cases reader explicit m
  · cases hrun.symm.trans h
    rfl
  · cases hrun.symm.trans h

theorem onlyDebugged_of_load {c : Config} (h : (load reader explicit).run m = .ok c m') :
    m.OnlyDebugged m' := by
  obtain ⟨e, hrun⟩ | ⟨c', m₁, hrun, honly⟩ := load_cases reader explicit m
  · cases hrun.symm.trans h
  · cases hrun.symm.trans h
    exact honly

end Config

namespace Launch

/-! ## Failures of the settings -/

/-- Whether a command that is asked for fails for its configuration, or for what that says of the
log. The path of the log file is asked for before the level. -/
inductive Request.FailsEarly (reader : Yaml.Reader) (m : Machine) (e : Failure) :
    Request → Prop where
  | load {name : String} {config host : Option String} {dryRun : Bool} {m' : Machine} :
      (Config.load reader config).run m = .error e m' →
        FailsEarly reader m e (.command name config dryRun host)
  | logPath {name : String} {config host : Option String} {dryRun : Bool} {c : Config}
      {m' : Machine} : (Config.load reader config).run m = .ok c m' →
        c.logPath m.environment = .error e → FailsEarly reader m e (.command name config dryRun host)
  | logLevel {name : String} {config host path : Option String} {dryRun : Bool} {c : Config}
      {m' : Machine} : (Config.load reader config).run m = .ok c m' →
        c.logPath m.environment = .ok path → c.logLevel m.environment = .error e →
          FailsEarly reader m e (.command name config dryRun host)

variable (reader : Yaml.Reader) (children : Child.Behaviour) (entry : Log.Entry)

/-- If the configuration, the path of the log file or the level of the log cannot be had, the program
ends with that failure, and has done nothing but to tell at the level of debugging what it has loaded,
if anything. -/
theorem program_fails_early {words : List String} {m : Machine} {e : Failure}
    (h : (Request.ofWords words).FailsEarly reader m e) :
    ∃ m', (program reader children entry words).run m = .error e m' ∧ m.OnlyDebugged m' := by
  rw [program_eq_perform]
  generalize Request.ofWords words = request at h
  cases h with
  | load hload =>
    obtain rfl := Config.eq_of_load_error hload
    refine ⟨_, ?_, .refl _⟩
    simp only [Request.perform, Request.runCommandWith, EStateM.run_bind, hload]
  | @logPath _ _ _ _ _ m' hload hpath =>
    have honly := Config.onlyDebugged_of_load hload
    rw [← honly.scene.environment] at hpath
    refine ⟨m', ?_, honly⟩
    simp only [Request.perform, Request.runCommandWith, EStateM.run_bind, hload, EStateM.run_get,
      Action.run_ofExcept, hpath]
  | @logLevel _ _ _ _ _ _ m' hload hpath hlevel =>
    have honly := Config.onlyDebugged_of_load hload
    rw [← honly.scene.environment] at hpath hlevel
    refine ⟨m', ?_, honly⟩
    simp only [Request.perform, Request.runCommandWith, EStateM.run_bind, hload, EStateM.run_get,
      Action.run_ofExcept, hpath, hlevel]

/-- A level that has no name is refused before the log is set up. -/
theorem program_fails_early_of_level :
    let m := Machine.idle .empty ⟨[(Config.levelVariable, "chatty")], .none⟩ []
    (Request.ofWords ["init"]).FailsEarly Yaml.sampleReader m (.unknownLevel "chatty") ∧
      ∃ m', (program Yaml.sampleReader noChildren .command ["init"]).run m =
        .error (.unknownLevel "chatty") m' ∧ m'.log.setup = none := by
  intro m
  have hname : (Path.ofString Config.defaultName).toString = "ripple-launcher.yaml" := by decide
  have hnone : m.files.look m.cwd (Path.ofString Config.defaultName).toString = .ok none := by
    rw [hname]
    exact FileSystem.look_empty ⟨by decide, by decide, by decide⟩
      ⟨by decide, by decide, by decide, by decide⟩ (by decide)
  have hload : (Config.load Yaml.sampleReader none).run m = .ok .default m := by
    have hchosen : Config.Chooses none m.environment Config.defaultName false :=
      Config.chooses_iff.2 (by decide)
    rw [Config.run_load hchosen rfl, hnone]
    rfl
  have hrequest : Request.ofWords ["init"] = .command "init" none false none := by decide
  have hfails :
      (Request.ofWords ["init"]).FailsEarly Yaml.sampleReader m (.unknownLevel "chatty") := by
    rw [hrequest]
    exact .logLevel hload rfl rfl
  obtain ⟨m', hrun, honly⟩ := program_fails_early Yaml.sampleReader noChildren .command hfails
  exact ⟨hfails, m', hrun, honly.setup⟩

end Launch

end DeviceLauncher
