import DeviceLauncher.Proofs.FileSystem.OneName
import DeviceLauncher.Proofs.Install.Refusal
import DeviceLauncher.Proofs.Launch.Again

/-!
# Installing a program over itself

The first step of `init` takes the program for installed if the two paths have the same canonical
path, but a copy is refused if the two paths lead to the same file. That is the same where the file
has one name, by whatever links the paths lead to it: then the copy is left out and `init` goes on
(`Skips`). Where a file has two names it may fail (`skips_or_refused`, `hard_link_not_skipped`).
-/

namespace DeviceLauncher.Launch

open FileSystem Install

variable {context : Context} {m m₁ : Machine} {source target : Path} {i : Inode}

/-- Whether the two paths of the program, which is no lone script, lead to one file. -/
structure RunsInstalled (context : Context) (m : Machine) (source target : Path) (i : Inode) :
    Prop where
  executable : context.config.executable m.environment m.argv = .ok source
  installedBinary : context.config.installedBinary m.environment = .ok target
  no_script : source.suffix ≠ ".py"
  source : m.files.find m.cwd source.toString = .ok i
  target : m.files.find m.cwd target.toString = .ok i
  file : (m.files.file? i).isSome

/-- The copy is left out: the first step does nothing but to report, and `init` goes on with the
others. -/
structure Skips (context : Context) (m : Machine) : Prop where
  step : ∃ m', (installBinary.run context).run m = .ok (.code 0) m' ∧ m.Logged m' ∧
    ((∀ k, ¬ m.LogsTo k) → m'.files = m.files)
  rest : ∃ m', m.Logged m' ∧ (Pipeline.run context initSteps).run m =
    (Pipeline.runFrom context [installBinary.id] (.code 0) [configDirectory, copyManifests]).run m'

theorem run_installBinary_of_installed (h : RunsInstalled context m source target i)
    (hinstalled : isInstalled m.files m.cwd source target = .ok true) :
    (installBinary.run context).run m =
      .ok (.code 0) (m.report (.alreadyInstalled target.toString)) := by
  simp only [installBinary, EStateM.run_bind, EStateM.run_get, Action.run_setting,
    Action.run_ofExcept, h.executable, h.installedBinary, h.no_script, if_false, hinstalled]
  rfl

theorem RunsInstalled.of_logged (h : RunsInstalled context m source target i)
    (hlog : m.Logged m₁) : RunsInstalled context m₁ source target i where
  executable := by rw [hlog.scene.environment, hlog.scene.argv, h.executable]
  installedBinary := by rw [hlog.scene.environment, h.installedBinary]
  no_script := h.no_script
  source := by rw [hlog.files.find, hlog.scene.cwd, h.source]
  target := by rw [hlog.files.find, hlog.scene.cwd, h.target]
  file := by rw [hlog.files.isSome_file?, h.file]

theorem skips_of_installed (h : RunsInstalled context m source target i)
    (hinstalled : isInstalled m.files m.cwd source target = .ok true) : Skips context m := by
  have hlog (n : Log.Notice) (m : Machine) := Machine.logged_report n m
  refine ⟨⟨_, run_installBinary_of_installed h hinstalled, hlog _ m, (hlog _ m).files_eq⟩, ?_⟩
  have hstart := hlog (.runningStep installBinary.id) m
  refine ⟨_, hstart.trans (hlog (.alreadyInstalled target.toString) _), ?_⟩
  rw [Pipeline.run, initSteps, Pipeline.run_runFrom_cons,
    run_installBinary_of_installed (h.of_logged hstart)]
  · rfl
  · rw [isInstalled_of_logged hstart, hinstalled]

/-- The copy is refused, and nothing has happened but that it was reported. A dry run only tells of
the copy. -/
structure Refused (context : Context) (m : Machine) (source target : Path) : Prop where
  fails : context.dryRun = false → ∃ m', (installBinary.run context).run m =
    .error (.sameFile source.toString (.given target.toString)) m' ∧ m.Logged m'
  dry : context.dryRun = true →
    ∃ m', (installBinary.run context).run m = .ok (.code 0) m' ∧ m.Logged m'

theorem RunsInstalled.hasFile (h : RunsInstalled context m source target i) : m.HasFile source := by
  obtain ⟨f, hf⟩ := Option.isSome_iff_exists.1 h.file
  exact ⟨i, f, h.source, hf⟩

/-- The target is no directory, so that it is itself what would be written. -/
theorem RunsInstalled.targetOf_eq (h : RunsInstalled context m source target i) :
    targetOf m.files m.cwd source target = .given target.toString := by
  obtain ⟨f, hf⟩ := Option.isSome_iff_exists.1 h.file
  have hno : m.files.hasDirectory m.cwd target.toString = false := by
    simp [hasDirectory, h.target, directory?, node?_of_file? hf]
  simp [targetOf, hno]

theorem refused_of_not_installed (h : RunsInstalled context m source target i)
    (hinstalled : isInstalled m.files m.cwd source target = .ok false) :
    Refused context m source target := by
  refine ⟨fun hdry => ?_, fun hdry => ?_⟩
  · have hitself : CopiesItself m source target := by
      obtain ⟨f, hf⟩ := Option.isSome_iff_exists.1 h.file
      exact ⟨i, f, h.source, hf, by rw [h.targetOf_eq]; exact h.target⟩
    refine ⟨_, ?_, Machine.logged_report (.copy source.toString target.toString) m⟩
    rw [run_installBinary hdry h.executable h.installedBinary h.no_script, hinstalled,
      run_installFile_of_itself hitself, h.targetOf_eq]
  · refine ⟨_, ?_, (Machine.logged_report (.wouldCopy source.toString target.toString) m).trans
      (Machine.logged_report (.installed target.toString) _)⟩
    simp only [installBinary, EStateM.run_bind, EStateM.run_get, Action.run_setting,
      Action.run_ofExcept, h.executable, h.installedBinary, h.no_script, if_false, hinstalled,
      Bool.false_eq_true, hdry, run_installFile_dry h.hasFile]
    rfl

/-- Where the paths lead to one file, the copy is left out if their canonical paths are the same,
and refused if they are not. They are the same where the file has one name. -/
theorem skips_or_refused (hwf : m.files.WellFormed) (h : RunsInstalled context m source target i)
    (hs : Traceable m.files m.cwd source) (ht : Traceable m.files m.cwd target) :
    (IsTree m.files → HasOneName m.files i → Skips context m) ∧
    ∃ p q, m.files.canonical m.cwd source = .ok p ∧ m.files.canonical m.cwd target = .ok q ∧
      (p = q → Skips context m) ∧ (p ≠ q → Refused context m source target) := by
  refine ⟨fun htree hone => ?_, ?_⟩
  · refine skips_of_installed h ?_
    rw [isInstalled_of_found h.target, samePlace_eq_true_iff]
    exact canonical_eq_of_find hwf htree hone h.source h.target hs ht
  · obtain ⟨p, hp, -⟩ := canonical_of_find hwf h.source hs
    obtain ⟨q, hq, -⟩ := canonical_of_find hwf h.target ht
    have hinstalled : isInstalled m.files m.cwd source target = .ok (decide (p = q)) := by
      simp [isInstalled_of_found h.target, samePlace, hp, hq, Except.mapError, bind, Except.bind,
        pure, Except.pure]
    refine ⟨p, q, hp, hq, fun heq => ?_, fun hne => ?_⟩
    · exact skips_of_installed h (by rw [hinstalled, decide_eq_true heq])
    · exact refused_of_not_installed h (by rw [hinstalled, decide_eq_false hne])

/-! ## Small machines -/

/-- A machine with `/t` alone, on which that runs as `t`, to be installed where it is. -/
def selfMachine : Machine := .idle toolFiles .empty ["t"]

def selfContext : Context where
  config :=
    { raw := [(.text "paths", .map [(.text "bin_dir", .text "/")]), (.text "binary_name", .text "t")]
      source := none }
  host := ""
  dryRun := false

theorem toolFiles_isTree : IsTree toolFiles := by
  refine .of_root_alone fun {j d} hd => ?_
  rcases j with _ | _ | j
  · cases hd
    exact ⟨rfl, by decide⟩
  · cases hd
  · cases hd

theorem toolFiles_hasOneName : HasOneName toolFiles 1 := by
  have hcases {j : Inode} {d : Directory} {x : String} (hd : toolFiles.directory? j = some d)
      (hx : (x, 1) ∈ d.entries) : j = 0 ∧ x = "t" := by
    rcases j with _ | _ | j
    · cases hd
      have hx : (x, 1) ∈ [("t", 1)] := hx
      exact ⟨rfl, by simpa using hx⟩
    · cases hd
    · cases hd
  intro j k d e x y hd hx he hy
  obtain ⟨rfl, rfl⟩ := hcases hd hx
  obtain ⟨rfl, rfl⟩ := hcases he hy
  exact ⟨rfl, rfl⟩

/-- A program that is named from the working directory is where it is installed from the root. -/
theorem skips_of_relative : selfMachine.files.WellFormed ∧
    RunsInstalled selfContext selfMachine (Path.ofString "t") (Path.ofString "/t") 1 ∧
    Skips selfContext selfMachine := by
  have hruns : RunsInstalled selfContext selfMachine (Path.ofString "t") (Path.ofString "/t") 1 :=
    ⟨by cbv, by cbv, by cbv, by cbv, by cbv, by cbv⟩
  have hs : Traceable selfMachine.files selfMachine.cwd (Path.ofString "t") :=
    .of_relative (by decide) (by cbv) (by cbv) (by decide)
  have ht : Traceable selfMachine.files selfMachine.cwd (Path.ofString "/t") :=
    .of_root (by decide) (by cbv) (by decide)
  obtain ⟨hskips, -⟩ := skips_or_refused toolFiles_wellFormed hruns hs ht
  exact ⟨toolFiles_wellFormed, hruns, hskips toolFiles_isTree toolFiles_hasOneName⟩

/-- Files with a single one among them, known as `/t` and as `/c`. -/
def linkedFiles : FileSystem := toolFiles.enter root "c" 1

/-- A file with a second name is installed over itself, and that is refused. -/
theorem hard_link_not_skipped : ¬ ∀ (context : Context) (m : Machine) (source target : Path)
    (i : Inode), m.files.WellFormed → IsTree m.files →
      RunsInstalled context m source target i → Skips context m := by
  intro h
  have hwf : linkedFiles.WellFormed := .enter toolFiles_wellFormed rfl
    ⟨by decide, by decide, by decide, by decide, by decide, by decide⟩ rfl (by decide) rfl
  have htree : IsTree linkedFiles := by
    refine .of_root_alone fun {j d} hd => ?_
    rcases j with _ | _ | j
    · cases hd
      exact ⟨rfl, by decide⟩
    · cases hd
    · cases hd
  let context : Context := ⟨toolConfig [], "", false⟩
  have hruns : RunsInstalled context (.idle linkedFiles .empty []) (Path.ofString "/t")
      (Path.ofString "/c") 1 :=
    ⟨by cbv, by cbv, by cbv, by cbv, by cbv, by cbv⟩
  have hrun : (installBinary.run context).run (.idle linkedFiles .empty []) =
      .error (.sameFile "/t" (.given "/c")) (.idle linkedFiles .empty []) := by cbv
  obtain ⟨⟨m', hok, -⟩, -⟩ := h _ _ _ _ _ hwf htree hruns
  rw [hrun] at hok
  cases hok

end DeviceLauncher.Launch
