import DeviceLauncher.Proofs.FileSystem.Stop
import DeviceLauncher.Proofs.Install.File

/-!
# Which copies fail

`Hindered m source target` lists all that keeps a file from being copied, and a copy fails for
these reasons and no others (`installFile_fails_iff`). All of them come up before anything is
written, so a copy that fails has done nothing but to report. A dry run asks for the source only.
-/

namespace DeviceLauncher

open FileSystem

section

variable {fs : FileSystem} {cwd i : Inode} {path name : String} {now : Int} {r : Refusal}

theorem FileSystem.openForWriting_of_refuses (h : Refuses fs cwd path .create r) :
    fs.openForWriting cwd path now = .error r := by
  simp [openForWriting, locate_eq_error_iff.2 h, bind, Except.bind]

theorem FileSystem.openForWriting_of_free (h : fs.locate cwd path .create = .ok (.free i name)) :
    fs.openForWriting cwd path now =
      if (fs.directory? i).any Directory.removed then .error (.errno .notFound)
      else .ok (fs.add i name (.file ⟨ByteArray.empty, newFileMode, now⟩), fs.nodes.size) := by
  simp only [openForWriting, h, bind, Except.bind]
  split <;> rfl

/-- A directory is never opened, be it on account of how a link to it is written. -/
theorem FileSystem.openForWriting_of_hasDirectory (h : fs.hasDirectory cwd path = true) :
    ∃ r, fs.openForWriting cwd path now = .error r := by
  obtain ⟨i, hi, hd⟩ := hasDirectory_eq_true_iff.1 h
  cases hl : fs.locate cwd path .create with
  | error r => exact ⟨r, openForWriting_of_refuses (locate_eq_error_iff.1 hl)⟩
  | ok place =>
    obtain ⟨hp, hw⟩ := locate_eq_ok_iff.1 hl
    have hfind : fs.locate cwd path .find = .ok place :=
      locate_eq_ok_iff.2 ⟨hp, hw.to_find (by simp)⟩
    rw [find_eq_ok_iff, hfind] at hi
    cases hi
    exact ⟨.errno .isDirectory, by simp [openForWriting, hl, hd, bind, Except.bind]; rfl⟩

/-- Opening a file fails where there is a directory, outside of all directories, and where the
path is not followed. -/
theorem FileSystem.openForWriting_fails_iff (now : Int) :
    (∃ r, fs.openForWriting cwd path now = .error r) ↔
      fs.hasDirectory cwd path = true ∨ fs.LacksDirectory cwd path ∨ fs.IsRejected cwd path := by
  rw [lacksDirectory_or_isRejected_iff]
  constructor
  · rintro ⟨r, h⟩
    cases hl : fs.locate cwd path .create with
    | error r => exact .inr (.inl ⟨r, locate_eq_error_iff.1 hl⟩)
    | ok place =>
      cases place with
      | node i =>
        refine .inl (hasDirectory_eq_true_iff.2 ⟨i, find_of_locate hl, ?_⟩)
        by_contra hd
        rw [openForWriting_of_node hl (by simpa using hd)] at h
        cases h
      | free i name =>
        refine .inr (.inr ⟨i, name, rfl, ?_⟩)
        by_contra hr
        rw [openForWriting_of_free hl, if_neg hr] at h
        cases h
  · rintro (hd | ⟨r, hr⟩ | ⟨i, name, hl, hr⟩)
    · exact openForWriting_of_hasDirectory hd
    · exact ⟨r, openForWriting_of_refuses hr⟩
    · exact ⟨.errno .notFound, by rw [openForWriting_of_free hl, if_pos hr]⟩

end

namespace Install

variable {fs : FileSystem} {cwd i : Inode} {source target : Path} {m : Machine}

theorem copyTo_of_same {f : File} {t : Target} {now : Int} (h : fs.find cwd t.path = .ok i) :
    copyTo fs cwd source i f t now = .error (.sameFile source.toString t) := by
  rw [copyTo, if_pos (by rw [h]; rfl)]

/-- Putting a file at a target fails where it is already, and where nothing can be written. -/
theorem copyTo_fails_iff (source : Path) (i : Inode) (f : File) {t : Target} (now : Int) :
    (∃ e, copyTo fs cwd source i f t now = .error e) ↔
      fs.find cwd t.path = .ok i ∨ fs.hasDirectory cwd t.path = true ∨
        fs.LacksDirectory cwd t.path ∨ fs.IsRejected cwd t.path := by
  by_cases hsame : fs.find cwd t.path = .ok i
  · exact iff_of_true ⟨_, copyTo_of_same hsame⟩ (.inl hsame)
  · have hne : (fs.find cwd t.path).toOption ≠ some i := by
      cases hf : fs.find cwd t.path with
      | error r => simp [Except.toOption]
      | ok j => simpa [Except.toOption, hf] using hsame
    rw [← openForWriting_fails_iff now, copyTo, if_neg hne]
    cases fs.openForWriting cwd t.path now with
    | error r =>
      simp only [hsame, false_or, Except.error.injEq, exists_eq', iff_true]
      split <;> exact ⟨_, rfl⟩
    | ok opened => simp [hsame]

/-- Whether a copy would write the file that it reads. -/
def CopiesItself (m : Machine) (source target : Path) : Prop :=
  ∃ i f, m.files.find m.cwd source.toString = .ok i ∧ m.files.file? i = some f ∧
    m.files.find m.cwd (targetOf m.files m.cwd source target).path = .ok i

/-- What keeps the file at `source` from being copied to `target`. -/
inductive Hindered (m : Machine) (source target : Path) : Prop where
  | noSource : ¬ m.HasFile source → Hindered m source target
  | itself : CopiesItself m source target → Hindered m source target
  | directory : m.files.hasDirectory m.cwd (targetOf m.files m.cwd source target).path = true →
      Hindered m source target
  | noDirectory : m.files.LacksDirectory m.cwd (targetOf m.files m.cwd source target).path →
      Hindered m source target
  | rejected : m.files.IsRejected m.cwd (targetOf m.files m.cwd source target).path →
      Hindered m source target

/-- What is so when a copy has failed. A source is missing if the path is one that the system looks
at; it does not look where the path or a name on its way is too long. -/
structure Failed (source target : String) (m m' : Machine) (e : Failure) : Prop where
  logged : m.Logged m'
  files_eq : (∀ i, ¬ m.LogsTo i) → m'.files = m.files
  of_noSource : ¬ m.HasFile (.ofString source) → e = .missing source ∨
    Refuses m.files m.cwd (Path.ofString source).toString .find (.errno .nameTooLong) ∧
      e = .os .nameTooLong (.path (Path.ofString source).toString)
  of_itself : CopiesItself m (.ofString source) (.ofString target) →
    e = .sameFile (Path.ofString source).toString
      (targetOf m.files m.cwd (.ofString source) (.ofString target))

/-- Without a source a copy fails at once. -/
theorem run_installFile_noSource {source : String} (target : String) (dryRun : Bool)
    (h : ¬ m.HasFile (.ofString source)) :
    ∃ e, (installFile source target dryRun).run m = .error e m ∧
      (e = .missing source ∨
        Refuses m.files m.cwd (Path.ofString source).toString .find (.errno .nameTooLong) ∧
          e = .os .nameTooLong (.path (Path.ofString source).toString)) := by
  cases hl : m.files.look m.cwd (Path.ofString source).toString with
  | error e =>
    obtain ⟨rfl, hr⟩ := look_eq_error_iff.1 hl
    refine ⟨.os .nameTooLong (.path (Path.ofString source).toString), ?_, .inr ⟨hr, rfl⟩⟩
    simp only [installFile, EStateM.run_bind, Action.run_look, Action.run_ofExcept, hl,
      Except.mapError]
  | ok found =>
    have hnone : (found.bind fun i => (m.files.file? i).map (i, ·)) = none := by
      cases found with
      | none => rfl
      | some i =>
        cases hf : m.files.file? i with
        | none => simp [hf]
        | some f => exact absurd ⟨i, f, look_eq_some_iff.1 hl, hf⟩ h
    refine ⟨.missing source, ?_, .inl rfl⟩
    simp only [installFile, EStateM.run_bind, Action.run_look, Action.run_ofExcept, hl,
      Except.mapError, EStateM.run_get, hnone]
    rfl

/-- What is a file still is one when something has been reported. -/
theorem exists_file?_of_logged {m₁ : Machine} {f₀ : File} (h : m.Logged m₁)
    (hf₀ : m.files.file? i = some f₀) : ∃ f, m₁.files.file? i = some f := by
  rw [← Option.isSome_iff_exists, h.files.isSome_file?, hf₀]
  rfl

theorem targetOf_of_logged {m₁ : Machine} (h : m.Logged m₁) :
    targetOf m₁.files m₁.cwd source target = targetOf m.files m.cwd source target := by
  rw [targetOf, targetOf, h.files.hasDirectory, h.scene.cwd]

/-- How the paths are written makes no difference where there is a source. -/
theorem run_installFile_toString {source target : String} {dryRun : Bool}
    (h : m.HasFile (.ofString source)) :
    (installFile source target dryRun).run m =
      (installFile (Path.ofString source).toString (Path.ofString target).toString dryRun).run
        m := by
  obtain ⟨i, f₀, hi, hf₀⟩ := h
  simp only [installFile, Path.ofString_toString, EStateM.run_bind, Action.run_look,
    Action.run_ofExcept, look_eq_some_iff.2 hi, Except.mapError, EStateM.run_get,
    Option.bind_some, hf₀, Option.map_some]
  cases dryRun with
  | true => rfl
  | false =>
    obtain ⟨f, hf⟩ := exists_file?_of_logged (Machine.logged_report
      (.copy (Path.ofString source).toString (Path.ofString target).toString) m) hf₀
    simp only [Bool.false_eq_true, if_false, EStateM.run_bind, Action.run_report,
      EStateM.run_get, hf]

/-- A copy of a file that is there fails for one of the other reasons. What is reported first makes
none of them, and takes none away. -/
theorem run_installFile_fails_iff (h : m.HasFile source) :
    (∃ e m', (installFile source.toString target.toString false).run m = .error e m') ↔
      Hindered m source target := by
  obtain ⟨i, f₀, hi, hf₀⟩ := id h
  have hlog := Machine.logged_report (.copy source.toString target.toString) m
  obtain ⟨f, hf⟩ := exists_file?_of_logged hlog hf₀
  rw [run_installFile_of_file rfl hi hf, targetOf_of_logged hlog, hlog.scene.cwd]
  generalize hm₁ : m.report (.copy source.toString target.toString) = m₁ at *
  have hcopy : (∃ e, copyTo m₁.files m.cwd source i f (targetOf m.files m.cwd source target)
      m₁.now = .error e) ↔ _ := copyTo_fails_iff source i f m₁.now
  rw [hlog.files.find, hlog.files.hasDirectory, hlog.files.lacksDirectory, hlog.files.isRejected]
    at hcopy
  constructor
  · rintro ⟨e, m', h⟩
    split at h
    · cases h
    · next e' hc =>
      rcases hcopy.1 ⟨e', hc⟩ with hs | hd | hl | hr
      · exact .itself ⟨i, f₀, hi, hf₀, hs⟩
      · exact .directory hd
      · exact .noDirectory hl
      · exact .rejected hr
  · intro hh
    obtain ⟨e, he⟩ := hcopy.2 <| by
      cases hh with
      | noSource hno => exact absurd h hno
      | itself hi' =>
        obtain ⟨j, -, hj, -, ht⟩ := hi'
        cases hi.symm.trans hj
        exact .inl ht
      | directory hd => exact .inr (.inl hd)
      | noDirectory hl => exact .inr (.inr (.inl hl))
      | rejected hr => exact .inr (.inr (.inr hr))
    rw [he]
    exact ⟨e, _, rfl⟩

theorem run_installFile_of_itself (h : CopiesItself m source target) :
    (installFile source.toString target.toString false).run m =
      .error (.sameFile source.toString (targetOf m.files m.cwd source target))
        (m.report (.copy source.toString target.toString)) := by
  obtain ⟨i, f₀, hi, hf₀, ht⟩ := h
  have hlog := Machine.logged_report (.copy source.toString target.toString) m
  obtain ⟨f, hf⟩ := exists_file?_of_logged hlog hf₀
  rw [run_installFile_of_file rfl hi hf, targetOf_of_logged hlog, copyTo_of_same]
  rw [hlog.files.find, hlog.scene.cwd, ht]

/-- A copy fails if and only if there is no file at its source, its target is the same file, a
directory, or in no directory, or the path of the target is not followed. Whatever it fails for,
the files are as they were, but for what has been reported into the log. A dry run fails if and
only if there is no file at the source. -/
theorem installFile_fails_iff (source target : String) (m : Machine) :
    ((∃ e m', (installFile source target false).run m = .error e m') ↔
      Hindered m (.ofString source) (.ofString target)) ∧
    (∀ e m', (installFile source target false).run m = .error e m' →
      Failed source target m m' e) ∧
    ((∃ e m', (installFile source target true).run m = .error e m') ↔
      ¬ m.HasFile (.ofString source)) := by
  by_cases h : m.HasFile (.ofString source)
  · simp only [run_installFile_toString h]
    refine ⟨run_installFile_fails_iff h, fun e m' hrun => ?_, ?_⟩
    · have hlog := installFile_error hrun
      refine ⟨hlog, hlog.files_eq, (absurd h ·), fun hi => ?_⟩
      rw [run_installFile_of_itself hi] at hrun
      cases hrun
      rfl
    · rw [run_installFile_dry h]
      refine iff_of_false ?_ (fun hno => hno h)
      rintro ⟨e, m', hrun⟩
      cases hrun
  · obtain ⟨e, hrun, he⟩ := run_installFile_noSource target false h
    obtain ⟨e₁, hdry, -⟩ := run_installFile_noSource target true h
    rw [hrun, hdry]
    refine ⟨iff_of_true ⟨e, m, rfl⟩ (.noSource h), fun e' m' hfail => ?_,
      iff_of_true ⟨e₁, m, rfl⟩ h⟩
    cases hfail
    exact ⟨.refl m, fun _ => rfl, fun _ => he, fun ⟨i, f, hi, hf, _⟩ => absurd ⟨i, f, hi, hf⟩ h⟩

/-- Nothing is left behind where the target is in no directory. -/
theorem installFile_fails_outside_directory :
    let m := Machine.idle (empty.add root "t" (.file ⟨ByteArray.empty, 0o755, 0⟩)) .empty []
    ∃ e m', (installFile "/t" "/x/y" false).run m = .error e m' ∧ m'.files = m.files := by
  intro m
  have hlogs (i : Inode) : ¬ m.LogsTo i := by
    simp [Machine.LogsTo, m, Machine.idle, Log.State.initial]
  have hnames : (Route.ofString "/x/y").names = ["x", "y"] := by decide
  have hrefuses (purpose : Purpose) :
      Refuses m.files m.cwd "/x/y" purpose (.errno .notFound) := by
    refine .stop ⟨by decide, by decide, by decide⟩ ?_
    rw [hnames]
    exact .missing rfl ⟨by decide, by decide, by decide, by decide⟩ (by simp) rfl (by simp)
  have htext : (Path.ofString "/x/y").toString = "/x/y" := by decide
  have htarget : targetOf m.files m.cwd (.ofString "/t") (.ofString "/x/y") = .given "/x/y" := by
    simp [targetOf, htext, hasDirectory, find_eq_error_iff.2 (.inl (hrefuses .find))]
  have hhindered : Hindered m (.ofString "/t") (.ofString "/x/y") :=
    .noDirectory (by rw [htarget]; exact .inl (hrefuses .create))
  obtain ⟨hiff, hfailed, -⟩ := installFile_fails_iff "/t" "/x/y" m
  obtain ⟨e, m', hrun⟩ := hiff.2 hhindered
  exact ⟨e, m', hrun, (hfailed e m' hrun).files_eq hlogs⟩

end Install

end DeviceLauncher
