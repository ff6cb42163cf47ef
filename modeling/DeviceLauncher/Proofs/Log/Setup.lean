import DeviceLauncher.Log.Setup
import DeviceLauncher.Proofs.Install.Directory
import DeviceLauncher.Proofs.Install.File

/-!
# What setting up the log does

* `openLog_cases`: opening a log file makes directories and may create one file.
* `configure_of_setup`, `configure_cases`: a call to set up the log that has been set up only sets
  the level. Any other one attaches handlers, or it fails and attaches none.
* `Machine.LogChanged m m'`: from `m` to `m'` nothing happened but that the log was set up and
  written to. Setting it up does no more (`logChanged_configure`, by `configure_setUp`).
-/

namespace DeviceLauncher

open FileSystem Install

/-- The machine with another level of its log. -/
def Machine.setLevel (m : Machine) (level : Log.Level) : Machine :=
  { m with log := { m.log with level } }

/-- The machine with more handlers in its log, which counts as set up from then on. -/
def Machine.attach (m : Machine) (handlers : List Log.Handler) (path : Option String) : Machine :=
  { m with log := { m.log with handlers := m.log.handlers ++ handlers, setup := some path } }

namespace Log

variable {m : Machine}

/-! ## Opening a log file -/

theorem openFile_cases (p : Path) (m : Machine) :
    (∃ path files i, m.files.openForWriting m.cwd path m.now = .ok (files, i) ∧
      (openFile p).run m = .ok i { m with files }) ∨
    ∃ e, (openFile p).run m = .error e m := by
  simp only [openFile, EStateM.run_bind, EStateM.run_get, Action.run_ofExcept]
  cases m.files.absolute m.cwd p with
  | error e => exact .inr ⟨_, rfl⟩
  | ok path =>
    simp only [Except.mapError]
    cases hopen : m.files.openForWriting m.cwd path.toString m.now with
    | error r => exact .inr ⟨_, rfl⟩
    | ok opened => exact .inl ⟨_, _, _, hopen, rfl⟩

/-- The files with the directories that are made for a log file. -/
def withDirectories (m : Machine) (path : String) : FileSystem :=
  (makeAll m.files m.cwd (Path.ofString path).parent).1

theorem openAt_cases (path : String) (m : Machine) :
    (∃ opened files i,
      (withDirectories m path).openForWriting m.cwd opened m.now = .ok (files, i) ∧
      (openAt (Path.ofString path)).run m =
        .ok (i, (Path.ofString path).toString) { m with files }) ∨
    ∃ e, (openAt (Path.ofString path)).run m =
      .error e { m with files := withDirectories m path } := by
  simp only [openAt, EStateM.run_bind, run_makeDirectories, withDirectories]
  cases makeAll m.files m.cwd (Path.ofString path).parent with
  | mk made failure =>
    cases failure with
    | some e => exact .inr ⟨e, rfl⟩
    | none =>
      simp only
      rcases openFile_cases (Path.ofString path) { m with files := made } with
        ⟨opened, files, i, hopen, hrun⟩ | ⟨e, hrun⟩
      · exact .inl ⟨opened, files, i, hopen, by rw [hrun]; rfl⟩
      · exact .inr ⟨e, by rw [hrun]⟩

theorem openFallback_cases (m : Machine) :
    (∃ opened files i chosen, m.files.openForWriting m.cwd opened m.now = .ok (files, i) ∧
      openFallback.run m = .ok (i, chosen) { m with files }) ∨
    ∃ e, openFallback.run m = .error e m := by
  simp only [openFallback, EStateM.run_bind, EStateM.run_get]
  cases m.files.pathOf? m.cwd with
  | none => exact .inr ⟨_, rfl⟩
  | some here =>
    simp only [EStateM.run_bind]
    rcases openFile_cases ((Path.ofString here).join (Path.ofString fallbackName)) m with
      ⟨opened, files, i, hopen, hrun⟩ | ⟨e, hrun⟩
    · exact .inl ⟨opened, files, i, _, hopen, by rw [hrun]; rfl⟩
    · exact .inr ⟨e, by rw [hrun]⟩

/-- Directories are made, and then a file is opened, there or in the working directory. -/
theorem openLog_cases (path : String) (m : Machine) :
    (∃ opened files i chosen,
      (withDirectories m path).openForWriting m.cwd opened m.now = .ok (files, i) ∧
      (openLog path).run m = .ok (i, chosen) { m with files }) ∨
    ∃ e, (openLog path).run m = .error e { m with files := withDirectories m path } := by
  rw [openLog, Action.run_tryCatch]
  rcases openAt_cases path m with ⟨opened, files, i, hopen, hrun⟩ | ⟨e, hrun⟩
  · exact .inl ⟨opened, files, i, _, hopen, by rw [hrun]⟩
  · rw [hrun]
    cases e with
    | os errno subject => exact openFallback_cases { m with files := withDirectories m path }
    | _ => exact .inr ⟨_, rfl⟩

/-! ## Setting up -/

/-- The path of a log file, if one is asked for. -/
def askedPath (path : Option String) : Option String := path.filter fun p => !p.isEmpty

theorem isSome_askedPath {path : Option String} :
    (askedPath path).isSome ↔ ∃ p, path = some p ∧ p ≠ "" := by
  cases path with
  | none => simp [askedPath]
  | some p => simp [askedPath, Option.filter_some]

/-- What is opened for a log: nothing if no file is asked for. -/
inductive Opens (m : Machine) : Option String → Option (Inode × String) → FileSystem → Prop where
  | nothing : Opens m none none m.files
  | file {path opened chosen : String} {files : FileSystem} {i : Inode} :
    (withDirectories m path).openForWriting m.cwd opened m.now = .ok (files, i) →
      Opens m (some path) (some (i, chosen)) files

/-- The handlers that a call attaches which has opened a file, or none. -/
def newHandlers (file : Option (Inode × String)) (console : Bool) : List Handler :=
  (file.map fun f => .file f.1).toList ++ if console then [.console] else []

variable (path : Option String) (level : Level) (console : Bool)

theorem configure_of_setup {chosen : Option String} (h : m.log.setup = some chosen) :
    (configure path level console).run m = .ok chosen (m.setLevel level) := by
  simp only [configure, EStateM.run_bind, EStateM.run_modify, EStateM.run_get]
  split
  · next p hp =>
    rw [h] at hp
    cases hp
    rfl
  · next hp =>
    rw [h] at hp
    cases hp

theorem configure_cases (h : m.log.setup = none) :
    (∃ file files, Opens (m.setLevel level) (askedPath path) file files ∧
      (configure path level console).run m = .ok (file.map Prod.snd)
        (({ m with files }.setLevel level).attach (newHandlers file console)
          (file.map Prod.snd))) ∨
    ∃ asked e, askedPath path = some asked ∧ (configure path level console).run m =
      .error e ({ m with files := withDirectories m asked }.setLevel level) := by
  simp only [configure, EStateM.run_bind, EStateM.run_modify, EStateM.run_get]
  split
  · next p hp =>
    rw [h] at hp
    cases hp
  · cases path with
    | none => exact .inl ⟨none, m.files, .nothing, rfl⟩
    | some p =>
      cases hp : p.isEmpty with
      | true =>
        have hasked : askedPath (some p) = none := by rw [askedPath, Option.filter_some, hp]; rfl
        rw [hasked]
        simp only [hp, ↓reduceIte]
        exact .inl ⟨none, m.files, .nothing, rfl⟩
      | false =>
        have hasked : askedPath (some p) = some p := by rw [askedPath, Option.filter_some, hp]; rfl
        rw [hasked]
        simp only [hp, Bool.false_eq_true, ↓reduceIte, EStateM.run_bind, EStateM.run_map]
        rcases openLog_cases p (m.setLevel level) with
          ⟨opened, files, i, chosen, hopen, hrun⟩ | ⟨e, hrun⟩
        · refine .inl ⟨some (i, chosen), files, .file hopen, ?_⟩
          rw [Machine.setLevel] at hrun
          rw [hrun]
          rfl
        · refine .inr ⟨p, e, rfl, ?_⟩
          rw [Machine.setLevel] at hrun
          rw [hrun]
          rfl

/-! ## What setting up leaves alone -/

variable {path level console}

theorem Opens.isSome_eq {asked : Option String} {file : Option (Inode × String)}
    {files : FileSystem} (h : Opens m asked file files) : file.isSome = asked.isSome := by
  cases h <;> rfl

/-- Whether an inode is on the way of a log file that is asked for. -/
def OnTheWayOfLog (fs : FileSystem) (cwd : Inode) (asked : Option String) (i : Inode) : Prop :=
  ∃ path, asked = some path ∧ OnTheWay fs cwd (Path.ofString path).parent i

/-- Opening makes directories, and creates no file but the one that is opened. -/
theorem Opens.frame {asked : Option String} {file : Option (Inode × String)} {files : FileSystem}
    (h : Opens m asked file files) (hwf : m.files.WellFormed) :
    files.WellFormed ∧ Frame (fun _ => False) (fun i => i ∈ file.map Prod.fst)
      (OnTheWayOfLog files m.cwd asked) m.files files := by
  cases h with
  | nothing => exact ⟨hwf, .refl _⟩
  | @file path _ _ _ i hopen =>
    have hmade := (makeAll_made hwf m.cwd (Path.ofString path).parent).1
    have hopened := opened_of_openForWriting hmade.wellFormed hopen
    refine ⟨hopened.wellFormed, .trans (hmade.frame.mono ?_ ?_ ?_) (hopened.frame.mono ?_ ?_ ?_)⟩
    · exact fun _ => False.elim
    · exact fun _ => False.elim
    · rintro j ⟨q, hq, hj⟩
      exact ⟨path, rfl, q, hq, find_of_grows hmade.wellFormed hopened.frame.grows hj⟩
    · exact fun _ => id
    · exact fun j hj => by simp [hj]
    · exact fun _ => False.elim

/-- What is written to a file that is opened for a log stays there, except on the device that
forgets everything. -/
theorem Opens.file_or_null {asked : Option String} {i : Inode} {chosen : String}
    {files : FileSystem} (h : Opens m asked (some (i, chosen)) files) (hwf : m.files.WellFormed) :
    (files.file? i).isSome ∨ files.node? i = some .null := by
  cases h with
  | @file path _ _ _ _ hopen =>
    have hmade := (makeAll_made hwf m.cwd (Path.ofString path).parent).1
    exact (opened_of_openForWriting hmade.wellFormed hopen).file_or_null

end Log

/-- From `m` to `m'` the log may have been set up and written to, and that is all. The files that
it has written or created are those that it writes to now. -/
structure Machine.LogChanged (m m' : Machine) : Prop where
  children : m'.children = m.children
  handlers : m.log.handlers ⊆ m'.log.handlers
  wellFormed : m.files.WellFormed → m'.files.WellFormed
  frame : m.files.WellFormed → Frame m'.LogsTo m'.LogsTo (fun _ => True) m.files m'.files

namespace Machine

variable {m m' m'' : Machine}

theorem LogChanged.trans (h : m.LogChanged m') (h' : m'.LogChanged m'') : m.LogChanged m'' := by
  refine ⟨h'.children.trans h.children, List.Subset.trans h.handlers h'.handlers,
    fun hwf => h'.wellFormed (h.wellFormed hwf), fun hwf => ?_⟩
  have hlogs (i : Inode) (hi : m'.LogsTo i) : m''.LogsTo i := h'.handlers hi
  exact ((h.frame hwf).mono hlogs hlogs fun _ => id).trans (h'.frame (h.wellFormed hwf))

theorem Logged.logChanged (h : m.Logged m') : m.LogChanged m' := by
  refine ⟨h.children, fun x hx => h.scene.handlers ▸ hx, fun hwf => hwf.rewritten h.files,
    fun _ => ?_⟩
  rw [h.scene.logsTo]
  exact .of_rewritten h.files

theorem LogChanged.refl (m : Machine) : m.LogChanged m := (Logged.refl m).logChanged

end Machine

theorem Action.OnlyLogs.logChanged {α : Type} {x : Action α} (hx : OnlyLogs x) :
    Leaves Machine.LogChanged x := fun m => (hx m).logged.logChanged

/-- What a call to set up the log may do from `m` to `m'`, with a path for a log file or without. -/
structure Machine.LogSetUp (asked : Option String) (m m' : Machine) : Prop where
  children : m'.children = m.children
  environment : m'.environment = m.environment
  cwd : m'.cwd = m.cwd
  argv : m'.argv = m.argv
  handlers : m.log.handlers ⊆ m'.log.handlers
  /-- Without a path, and when the log has been set up before, no file is opened. -/
  idle : m.log.setup ≠ none ∨ asked = none → m'.files = m.files ∧ ∀ i, m'.LogsTo i ↔ m.LogsTo i
  wellFormed : m.files.WellFormed → m'.files.WellFormed
  frame : m.files.WellFormed → Frame (fun _ => False) m'.LogsTo
    (Log.OnTheWayOfLog m'.files m'.cwd asked) m.files m'.files

theorem Log.configure_setUp (path : Option String) (level : Level) (console : Bool) (m : Machine) :
    m.LogSetUp (askedPath path) ((configure path level console).after m) := by
  cases hsetup : m.log.setup with
  | some chosen =>
    rw [Action.after_of_ok (configure_of_setup path level console hsetup)]
    exact ⟨rfl, rfl, rfl, rfl, List.Subset.refl _, fun _ => ⟨rfl, fun _ => .rfl⟩, id,
      fun _ => .refl _⟩
  | none =>
    rcases configure_cases path level console hsetup with
      ⟨file, files, hopens, hrun⟩ | ⟨asked, e, hasked, hrun⟩
    · rw [Action.after_of_ok hrun]
      refine ⟨rfl, rfl, rfl, rfl, List.subset_append_left _ _, fun hidle => ?_,
        fun hwf => (hopens.frame hwf).1, fun hwf => ?_⟩
      · have hnone : askedPath path = none := hidle.resolve_left (absurd hsetup)
        rw [hnone] at hopens
        cases hopens
        refine ⟨rfl, fun i => ?_⟩
        cases console <;>
          simp [Machine.LogsTo, Machine.attach, Machine.setLevel, newHandlers]
      · refine (hopens.frame hwf).2.mono (fun _ => id) (fun i hi => ?_) fun _ => id
        obtain ⟨⟨j, chosen⟩, rfl, rfl⟩ := Option.map_eq_some_iff.1 hi
        exact List.mem_append_right _ List.mem_cons_self
    · rw [Action.after_of_error hrun, hasked]
      have hmade (hwf : m.files.WellFormed) :=
        (makeAll_made hwf m.cwd (Path.ofString asked).parent).1
      refine ⟨rfl, rfl, rfl, rfl, List.Subset.refl _, fun hidle => ?_,
        fun hwf => (hmade hwf).wellFormed, fun hwf => (hmade hwf).frame.mono (fun _ => id)
          (fun _ => False.elim) fun i hi => ⟨asked, rfl, hi⟩⟩
      exact absurd (hidle.resolve_left (absurd hsetup)) (Option.some_ne_none asked)

theorem Log.logChanged_configure (path : Option String) (level : Level) (console : Bool) :
    Action.Leaves Machine.LogChanged (configure path level console) := by
  intro m
  have h := configure_setUp path level console m
  exact ⟨h.children, h.handlers, h.wellFormed, fun hwf =>
    (h.frame hwf).mono (fun _ => False.elim) (fun _ => id) fun _ _ => trivial⟩

end DeviceLauncher
