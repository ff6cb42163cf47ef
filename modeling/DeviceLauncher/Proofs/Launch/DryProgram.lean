import DeviceLauncher.Proofs.Config.Content
import DeviceLauncher.Proofs.Launch.DryRun
import DeviceLauncher.Proofs.Launch.Request
import DeviceLauncher.Proofs.Log.Setup

/-!
# The program with `--dry-run`

The steps of a dry run only write to the log. But before them the configuration is loaded, and the
log is set up as that says (`runCommandWith_of_dryRun`), which may open a log file and make the
directories above it. This is all that a dry run changes (`program_of_dryRun`), and it does change it
(`not_dryRun_untouched`).
-/

namespace DeviceLauncher

open CommandLine
open DeviceLauncher.Action (Leaves OnlyLogs)

namespace Launch

variable (reader : Yaml.Reader) (children : Child.Behaviour) (entry : Log.Entry)

/-- Once the configuration is loaded and tells how to set up the log, that is done. What follows only
writes to the log. -/
theorem told_runCommandWith {config : Option String} {loaded : Config} {m m₁ : Machine}
    {path : Option String} {level : Log.Level}
    (hload : (Config.load reader config).run m = .ok loaded m₁)
    (hpath : loaded.logPath m₁.environment = .ok path)
    (hlevel : loaded.logLevel m₁.environment = .ok level) (name : String) (host : Option String) :
    ((Log.configure path level true).after m₁).Told
      ((Request.runCommandWith reader children entry name config true host).after m) := by
  have hcommand : OnlyLogs (do
      let result ← runCommand children entry name loaded host true
      return result.returncode) :=
    (onlyLogs_runCommand children entry name loaded host).bind fun _ => .pure _
  -- Once the log is set up, all that is left is to say which file was loaded and the command.
  obtain ⟨last, hlast, hrest⟩ : ∃ last : Action Status, OnlyLogs last ∧
      (Request.runCommandWith reader children entry name config true host).after m =
        (Log.configure path level true >>= fun _ => last).after m₁ := by
    cases hsource : loaded.source with
    | none =>
      refine ⟨_, hcommand, (Action.after_bind_of_ok hload).trans ?_⟩
      simp only [Action.after, EStateM.run_bind, EStateM.run_get, Action.run_ofExcept, hpath,
        hlevel, hsource]
    | some source =>
      refine ⟨_, (OnlyLogs.report (.usingConfig entry source)).bind fun _ => hcommand,
        (Action.after_bind_of_ok hload).trans ?_⟩
      simp only [Action.after, EStateM.run_bind, EStateM.run_get, Action.run_ofExcept, hpath,
        hlevel, hsource]
  rw [hrest]
  cases hconfigure : (Log.configure path level true).run m₁ with
  | error e m₂ =>
    rw [Action.after_bind_of_error hconfigure, Action.after_of_error hconfigure]
    exact .refl m₂
  | ok chosen m₂ =>
    rw [Action.after_bind_of_ok hconfigure, Action.after_of_ok hconfigure]
    exact hlast m₂

/-- A dry run sets up the log, or it ends before and has only written to it. -/
theorem runCommandWith_of_dryRun (name : String) (config host : Option String) (m : Machine) :
    let m' := (Request.runCommandWith reader children entry name config true host).after m
    m.Told m' ∨ ∃ loaded m₁ path level, (Config.load reader config).run m = .ok loaded m₁ ∧ m.Told m₁ ∧
      loaded.logPath m₁.environment = .ok path ∧
        ((Log.configure path level true).after m₁).Told m' := by
  intro m'
  have hload : m.Told ((Config.load reader config).after m) :=
    Config.onlyLogs_load reader config m
  cases hloaded : (Config.load reader config).run m with
  | error e m₁ =>
    have hm' : m' = m₁ := Action.after_bind_of_error hloaded
    exact .inl (hm' ▸ Action.after_of_error hloaded ▸ hload)
  | ok loaded m₁ =>
    rw [Action.after_of_ok hloaded] at hload
    cases hpath : loaded.logPath m₁.environment with
    | error e =>
      have hm' : m' = m₁ := by
        refine (Action.after_bind_of_ok hloaded).trans ?_
        simp only [Action.after, EStateM.run_bind, EStateM.run_get, Action.run_ofExcept, hpath]
      exact .inl (hm' ▸ hload)
    | ok path =>
      cases hlevel : loaded.logLevel m₁.environment with
      | error e =>
        have hm' : m' = m₁ := by
          refine (Action.after_bind_of_ok hloaded).trans ?_
          simp only [Action.after, EStateM.run_bind, EStateM.run_get, Action.run_ofExcept, hpath,
            hlevel]
        exact .inl (hm' ▸ hload)
      | ok level =>
        exact .inr ⟨loaded, m₁, path, level, rfl, hload, hpath,
          told_runCommandWith reader children entry hloaded hpath hlevel name host⟩

theorem logChanged_runCommandWith (name : String) (config host : Option String) :
    Leaves Machine.LogChanged
      (Request.runCommandWith reader children entry name config true host) := by
  intro m
  rcases runCommandWith_of_dryRun reader children entry name config host m with
    htold | ⟨loaded, m₁, path, level, -, hfirst, -, hlast⟩
  · exact htold.logged.logChanged
  · exact (hfirst.logged.logChanged.trans (Log.logChanged_configure path level true m₁)).trans
      hlast.logged.logChanged

/-- With the option for it, a command line is a dry run or no run at all. -/
theorem program_cases_of_dryRun {words : List String} {o : Options}
    (h : Options.ofWords (split words).1 = .ok o) (hdry : o.dryRun = true) :
    program reader children entry words = Request.help.perform reader children entry ∨
      ∃ name host, program reader children entry words =
        Request.runCommandWith reader children entry name o.config.join true host := by
  rw [program_eq_perform, Request.ofWords, h]
  cases (split words).2 with
  | nil => exact .inl rfl
  | cons name arguments =>
    simp only [Request.ofOptions, hdry]
    split
    · exact .inl rfl
    · exact .inr ⟨_, _, rfl⟩

theorem logChanged_program_of_dryRun {words : List String} {o : Options}
    (h : Options.ofWords (split words).1 = .ok o) (hdry : o.dryRun = true) :
    Leaves Machine.LogChanged (program reader children entry words) := by
  obtain hprogram | ⟨name, host, hprogram⟩ := program_cases_of_dryRun reader children entry h hdry <;>
    rw [hprogram]
  · exact fun m => ⟨rfl, List.Subset.refl _, id, fun _ => .refl _⟩
  · exact logChanged_runCommandWith reader children entry name o.config.join host

/-! ## A small machine with a configuration -/

variable {reader}

/-- Files with a single one among them, `/c.yml`. -/
def settingsFiles (content : ByteArray) : FileSystem :=
  FileSystem.empty.add FileSystem.root "c.yml" (.file ⟨content, 0o644, 0⟩)

theorem load_settingsFiles {content : ByteArray} {c : Config}
    (h : Config.ofBytes reader "/c.yml" content = .ok c) :
    (Config.load reader (some "/c.yml")).run (.idle (settingsFiles content) .empty []) =
      .ok c (.idle (settingsFiles content) .empty []) := by
  have hm : Machine.idle (settingsFiles content) .empty [] = Config.contentMachine content := rfl
  rw [hm, Config.run_load_contentMachine, h]
  rfl

/-- A configuration that asks for the log file `/l`. -/
def loggingText : ByteArray := "logging: \x7bpath: /l\x7d\n".toUTF8

theorem ofBytes_loggingText (h : reader.ReadsSamples) :
    ∃ c, Config.ofBytes reader "/c.yml" loggingText = .ok c ∧
      c.logPath .empty = .ok (some "/l") ∧ c.logLevel .empty = .ok .info := by
  have hdocument := Config.isDocument_toUTF8 (by decide) h.logPath
  exact ⟨_, Config.ofBytes_ok_iff.2 (.mapping hdocument rfl), by cbv, by cbv⟩

/-- The log file is new, and is opened. -/
theorem configure_settingsFiles (content : ByteArray) :
    let m := Machine.idle (settingsFiles content) .empty []
    let files := m.files.add FileSystem.root "l" (.file ⟨ByteArray.empty, 0o644, 0⟩)
    (Log.configure (some "/l") .info true).run m = .ok (some "/l")
      (({ m with files }.setLevel .info).attach [.file 2, .console] (some "/l")) := by
  cbv

/-! ## What a dry run leaves -/

/-- Whether the configuration that is loaded asks for a log file. -/
def AsksForLogFile (reader : Yaml.Reader) (config : Option String) (m : Machine) (path : String) :
    Prop :=
  ∃ loaded m₁, (Config.load reader config).run m = .ok loaded m₁ ∧
    loaded.logPath m.environment = .ok (some path)

/-- How a dry run leaves a machine, with the path of a configuration or the usual one. -/
structure LeftByDryRun (reader : Yaml.Reader) (config : Option String) (m m' : Machine) :
    Prop where
  children : m'.children = m.children
  environment : m'.environment = m.environment
  cwd : m'.cwd = m.cwd
  argv : m'.argv = m.argv
  /-- If no log file is open, and none is asked for, no files are touched. -/
  untouched : (∀ i, ¬ m.LogsTo i) →
    m.log.setup ≠ none ∨ (∀ path, ¬ AsksForLogFile reader config m path) → m'.files = m.files
  /-- Else log files are written, and one may be created, with directories on its way. -/
  frame : m.files.WellFormed → FileSystem.Frame m'.LogsTo m'.LogsTo
    (fun i => ∃ path, AsksForLogFile reader config m path ∧
      Install.OnTheWay m'.files m'.cwd (Path.ofString path).parent i) m.files m'.files

variable {m m' m₁ m₂ : Machine} {config : Option String}

theorem LeftByDryRun.of_told (h : m.Told m') : LeftByDryRun reader config m m' := by
  have hlog := h.logged
  refine ⟨hlog.children, hlog.scene.environment, hlog.scene.cwd, hlog.scene.argv,
    fun hno _ => hlog.files_eq hno, fun _ => ?_⟩
  rw [hlog.scene.logsTo]
  exact .of_rewritten hlog.files

/-- The log is set up between two reports. -/
theorem LeftByDryRun.of_setUp {path : Option String}
    (hasks : ∀ p, Log.askedPath path = some p → AsksForLogFile reader config m p) (hfirst : m.Told m₁)
    (hsetUp : m₁.LogSetUp (Log.askedPath path) m₂) (hlast : m₂.Told m') :
    LeftByDryRun reader config m m' := by
  have hbefore := hfirst.logged
  have hafter := hlast.logged
  refine ⟨?_, ?_, ?_, ?_, fun hno hidle => ?_, fun hwf => ?_⟩
  · rw [hafter.children, hsetUp.children, hbefore.children]
  · rw [hafter.scene.environment, hsetUp.environment, hbefore.scene.environment]
  · rw [hafter.scene.cwd, hsetUp.cwd, hbefore.scene.cwd]
  · rw [hafter.scene.argv, hsetUp.argv, hbefore.scene.argv]
  · have hno₁ : ∀ i, ¬ m₁.LogsTo i := hbefore.scene.logsTo ▸ hno
    have hidle₁ : m₁.log.setup ≠ none ∨ Log.askedPath path = none := by
      rw [hfirst.setup]
      refine hidle.imp_right fun hnone => ?_
      cases hasked : Log.askedPath path with
      | none => rfl
      | some p => exact absurd (hasks p hasked) (hnone p)
    obtain ⟨hfiles, hlogs⟩ := hsetUp.idle hidle₁
    rw [hafter.files_eq fun i hi => hno₁ i ((hlogs i).1 hi), hfiles, hbefore.files_eq hno]
  · have hopen : m'.LogsTo = m₂.LogsTo := hafter.scene.logsTo
    have hold (i : Inode) (hi : m.LogsTo i) : m'.LogsTo i := by
      rw [hopen]
      exact hsetUp.handlers (hbefore.scene.handlers ▸ hi)
    have hframe := hsetUp.frame (hwf.rewritten hbefore.files)
    refine ((FileSystem.Frame.of_rewritten (hbefore.files.mono hold)).trans
      (hframe.mono (fun _ => False.elim) (fun i hi => hopen ▸ hi) fun i hi => ?_)).trans
      (.of_rewritten (hopen ▸ hafter.files))
    obtain ⟨p, hp, q, hq, hi⟩ := hi
    exact ⟨p, hasks p hp, q, hq, by rw [hafter.files.find, hafter.scene.cwd, hi]⟩

variable (reader)

/-- With the option for it, a command line is a dry run or no run at all: nothing is done but that
the log is set up and written to. Files are left as they are unless there is a log file. -/
theorem program_of_dryRun {words : List String} {o : Options}
    (h : Options.ofWords (split words).1 = .ok o) (hdry : o.dryRun = true) (m : Machine) :
    LeftByDryRun reader o.config.join m ((program reader children entry words).after m) := by
  obtain hprogram | ⟨name, host, hprogram⟩ := program_cases_of_dryRun reader children entry h hdry <;>
    rw [hprogram]
  · exact ⟨rfl, rfl, rfl, rfl, fun _ _ => rfl, fun _ => .refl _⟩
  · rcases runCommandWith_of_dryRun reader children entry name o.config.join host m with
      htold | ⟨loaded, m₁, path, level, hload, hfirst, hpath, hlast⟩
    · exact .of_told htold
    · refine .of_setUp (fun p hp => ⟨loaded, m₁, hload, ?_⟩) hfirst
        (Log.configure_setUp path level true m₁) hlast
      rw [← hfirst.logged.scene.environment, hpath, Option.eq_some_of_filter_eq_some hp]

/-- An empty configuration asks for no log file. -/
theorem program_of_dryRun_without_log : let words := ["--config", "/c.yml", "--dry-run", "init"]
    let m := Machine.idle (settingsFiles .empty) .empty []
    ∃ o, Options.ofWords (split words).1 = .ok o ∧ o.dryRun = true ∧
      ((program Yaml.sampleReader noChildren .command words).after m).files = m.files := by
  intro words m
  let o : Options := ⟨false, some (some "/c.yml"), true, []⟩
  have ho : Options.ofWords (split words).1 = .ok o := by decide
  have hdocument := Config.isDocument_toUTF8 (by decide) Yaml.readsSamples_sampleReader.nothing
  have hbytes : Config.ofBytes Yaml.sampleReader "/c.yml" .empty = .ok ⟨[], some "/c.yml", []⟩ :=
    Config.ofBytes_ok_iff.2 (.nothing hdocument rfl (by simp [Knots.untie]))
  have hload := load_settingsFiles hbytes
  have hleft := program_of_dryRun Yaml.sampleReader noChildren .command ho rfl m
  refine ⟨o, ho, rfl, hleft.untouched ?_ (.inr ?_)⟩
  · simp [Machine.LogsTo, m, Machine.idle, Log.State.initial]
  · rintro path ⟨loaded, m₁, hrun, hpath⟩
    cases hload.symm.trans hrun
    cases hpath

/-- A dry run makes the log file that its configuration asks for, if that is read as YAML. -/
theorem not_dryRun_untouched : Yaml.sampleReader.ReadsSamples ∧
    ∀ reader : Yaml.Reader, reader.ReadsSamples →
      ¬ ∀ (words : List String) (o : Options) (m : Machine),
        Options.ofWords (split words).1 = .ok o → o.dryRun = true → (split words).2 = ["init"] →
          (∀ i, ¬ m.LogsTo i) →
            ((program reader noChildren .command words).after m).files = m.files := by
  refine ⟨Yaml.readsSamples_sampleReader, fun reader hreader h => ?_⟩
  let words := ["--config", "/c.yml", "--dry-run", "init"]
  let m := Machine.idle (settingsFiles loggingText) .empty []
  have hlogs : ∀ i, ¬ m.LogsTo i := by simp [Machine.LogsTo, m, Machine.idle, Log.State.initial]
  have hfiles := h words ⟨false, some (some "/c.yml"), true, []⟩ m (by decide) rfl (by decide) hlogs
  have hrequest : Request.ofWords words = .command "init" (some "/c.yml") true none := by decide
  rw [program_eq_perform, hrequest, Request.perform] at hfiles
  -- After the log is set up there is one more node, and there are no fewer at the end.
  obtain ⟨c, hc, hpath, hlevel⟩ := ofBytes_loggingText hreader
  have htold := told_runCommandWith reader noChildren .command (load_settingsFiles hc) hpath hlevel
    "init" none
  rw [Action.after_of_ok (configure_settingsFiles loggingText)] at htold
  have hsize := htold.logged.files.size_eq
  rw [hfiles] at hsize
  exact absurd hsize (by decide)

end Launch

end DeviceLauncher
