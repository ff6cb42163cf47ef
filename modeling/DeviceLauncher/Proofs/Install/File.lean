import DeviceLauncher.Install.File
import DeviceLauncher.Proofs.Action
import DeviceLauncher.Proofs.Path

/-!
# What a copy does

* `IsTarget fs cwd source target i`: a copy from `source` to `target` writes the file with inode
  `i`. It stays the same file when the file system grows (`IsTarget.of_grows`).
* `Copied source target m m'`: what a copy has done that succeeded: it has written its target and
  nothing else (`Copied.frame`). A copy that fails has done nothing
  (`installFile_cases`).
-/

namespace DeviceLauncher

open FileSystem

/-! ## Opening a file -/

section

variable {fs opened : FileSystem} {cwd i : Inode} {path : String} {now : Int}

/-- A file that is opened was there, or it is the new one. -/
theorem FileSystem.openForWriting_ok (h : fs.openForWriting cwd path now = .ok (opened, i)) :
    (opened = fs ∧ fs.locate cwd path .create = .ok (.node i) ∧ fs.directory? i = none) ∨
    (∃ d name, fs.locate cwd path .create = .ok (.free d name) ∧
      (fs.directory? d).any Directory.removed = false ∧ i = fs.nodes.size ∧
      opened = fs.add d name (.file ⟨ByteArray.empty, newFileMode, now⟩)) := by
  unfold openForWriting at h
  cases hl : fs.locate cwd path .create with
  | error r => simp [hl, bind, Except.bind] at h
  | ok place =>
    rw [hl] at h
    cases place with
    | node j =>
      simp only [bind, Except.bind] at h
      split at h
      · cases h
      · next hd =>
        cases h
        exact .inl ⟨rfl, rfl, by simpa using hd⟩
    | free d name =>
      simp only [bind, Except.bind] at h
      split at h
      · cases h
      · next hr =>
        cases h
        exact .inr ⟨d, name, rfl, by simpa using hr, rfl, rfl⟩

theorem FileSystem.openForWriting_of_node (hl : fs.locate cwd path .create = .ok (.node i))
    (hd : fs.directory? i = none) : fs.openForWriting cwd path now = .ok (fs, i) := by
  simp [openForWriting, hl, hd, bind, Except.bind, pure, Except.pure]

/-- What is so of a file that is open. -/
structure Opened (fs : FileSystem) (cwd : Inode) (path : String) (opened : FileSystem)
    (i : Inode) : Prop where
  wellFormed : opened.WellFormed
  locate : opened.locate cwd path .create = .ok (.node i)
  no_directory : opened.directory? i = none
  frame : Frame (fun _ => False) (· = i) (fun _ => False) fs opened
  found_or_new : fs.find cwd path = .ok i ∨ i = fs.nodes.size

theorem FileSystem.opened_of_openForWriting (hwf : fs.WellFormed)
    (h : fs.openForWriting cwd path now = .ok (opened, i)) : Opened fs cwd path opened i := by
  rcases openForWriting_ok h with ⟨rfl, hl, hd⟩ | ⟨d, name, hl, hr, rfl, rfl⟩
  · exact ⟨hwf, hl, hd, .refl _, .inl (find_of_locate hl)⟩
  · obtain ⟨dd, hdd, hrd, hfree, hname, hadd⟩ := of_locate_free hwf hl hr
    refine ⟨hwf.add hdd hname hfree (.file _), hadd _ (.file _), ?_,
      .add hwf hdd hrd (.file _) (.inl ⟨_, rfl, rfl⟩), .inr rfl⟩
    rw [directory?, node?_add_size name _ hdd]

/-- What can be opened keeps what is written to it, or it is the device that forgets everything. -/
theorem Opened.file_or_null (h : Opened fs cwd path opened i) :
    (opened.file? i).isSome ∨ opened.node? i = some .null := by
  have hlt := lt_size_of_locate h.wellFormed h.locate
  have hlink := link?_of_locate h.wellFormed (by simp) h.locate
  have hdirectory := h.no_directory
  obtain ⟨n, hn⟩ : ∃ n, opened.node? i = some n := ⟨_, Array.getElem?_eq_getElem hlt⟩
  rw [link?, hn] at hlink
  rw [directory?, hn] at hdirectory
  cases n with
  | file f => exact .inl (by rw [file?, hn]; rfl)
  | null => exact .inr hn
  | directory d => cases hdirectory
  | link target => cases hlink

end

/-- Whether there is a regular file at a path. -/
def Machine.HasFile (m : Machine) (p : Path) : Prop :=
  ∃ i f, m.files.find m.cwd p.toString = .ok i ∧ m.files.file? i = some f

/-- The log makes no difference to the files that are there. -/
theorem Machine.hasFile_of_logged {m m' : Machine} (h : m.Logged m') (p : Path) :
    m'.HasFile p ↔ m.HasFile p := by
  simp only [HasFile, h.files.find, h.scene.cwd, ← Option.isSome_iff_exists, exists_and_left,
    h.files.isSome_file?]

namespace Install

variable {fs fs' : FileSystem} {cwd i j : Inode} {source target : Path}

/-! ## Targets -/

/-- Whether a copy from `source` to `target` writes the node with inode `i`. -/
def IsTarget (fs : FileSystem) (cwd : Inode) (source target : Path) (i : Inode) : Prop :=
  fs.find cwd (targetOf fs cwd source target).path = .ok i

/-- At the path that is given there is the target, or a directory. -/
theorem IsTarget.find (h : IsTarget fs cwd source target i) :
    ∃ j, fs.find cwd target.toString = .ok j ∧ (j = i ∨ (fs.directory? j).isSome) := by
  cases hd : fs.hasDirectory cwd target.toString with
  | true =>
    obtain ⟨j, hj, hdirectory⟩ := hasDirectory_eq_true_iff.1 hd
    exact ⟨j, hj, .inr hdirectory⟩
  | false => exact ⟨i, by simpa [IsTarget, targetOf, hd, Target.path] using h, .inl rfl⟩

theorem IsTarget.targetOf_of_grows (hwf : fs.WellFormed) (hg : Grows fs fs')
    (h : IsTarget fs cwd source target i) :
    targetOf fs' cwd source target = targetOf fs cwd source target := by
  obtain ⟨j, hj, -⟩ := h.find
  rw [targetOf, targetOf, hasDirectory_of_grows hwf hg hj]

theorem IsTarget.of_grows (hwf : fs.WellFormed) (hg : Grows fs fs')
    (h : IsTarget fs cwd source target i) : IsTarget fs' cwd source target i := by
  rw [IsTarget, h.targetOf_of_grows hwf hg]
  exact find_of_grows hwf hg h

/-! ## Copies -/

theorem copyTo_ok {f : File} {t : Target} {now : Int}
    (h : copyTo fs cwd source i f t now = .ok fs') :
    fs.find cwd t.path ≠ .ok i ∧ ∃ opened j, fs.openForWriting cwd t.path now = .ok (opened, j) ∧
      fs' = opened.modifyFile j fun _ => f := by
  unfold copyTo at h
  split at h
  · cases h
  · next hsame =>
    refine ⟨fun hf => hsame (by rw [hf]; rfl), ?_⟩
    split at h
    · simp only at h
      split at h <;> cases h
    · next opened j hopen =>
      cases h
      exact ⟨opened, j, hopen, rfl⟩

/-- A copy to a file that is there writes it. -/
theorem copyTo_of_node {f : File} {t : Target} {now : Int}
    (hl : fs.locate cwd t.path .create = .ok (.node j)) (hd : fs.directory? j = none)
    (hij : i ≠ j) : copyTo fs cwd source i f t now = .ok (fs.modifyFile j fun _ => f) := by
  have hfind : fs.find cwd t.path = .ok j := find_of_locate hl
  have hne : (fs.find cwd t.path).toOption ≠ some i := by
    rw [hfind]
    exact fun h => hij (Option.some.inj h).symm
  rw [copyTo, if_neg hne, openForWriting_of_node hl hd]

/-- What a copy that succeeds has done: it has been reported, and a file is written. -/
inductive Copied (source target : Path) (m m' : Machine) : Prop where
  | intro {m₁ : Machine} {i : Inode} {f : File} {files : FileSystem} :
    m₁ = m.report (.copy source.toString target.toString) →
      m.files.find m.cwd source.toString = .ok i → m₁.files.file? i = some f →
      copyTo m₁.files m₁.cwd source i f (targetOf m₁.files m₁.cwd source target) m₁.now =
        .ok files → m' = { m₁ with files } → Copied source target m m'

section

variable {m m' m₁ : Machine}

theorem run_installFile_of_file {f : File}
    (hm : m₁ = m.report (.copy source.toString target.toString))
    (hi : m.files.find m.cwd source.toString = .ok i) (hf : m₁.files.file? i = some f) :
    (installFile source.toString target.toString false).run m =
      match copyTo m₁.files m₁.cwd source i f (targetOf m₁.files m₁.cwd source target) m₁.now with
      | .ok files => .ok () { m₁ with files }
      | .error e => .error e m₁ := by
  have hlook : m.files.look m.cwd source.toString = .ok (some i) := look_eq_some_iff.2 hi
  have hfile : (m.files.file? i).isSome := by
    rw [← (hm ▸ Machine.logged_report _ m : m.Logged m₁).files.isSome_file? i, hf]
    rfl
  obtain ⟨f₀, hf₀⟩ := Option.isSome_iff_exists.1 hfile
  simp only [installFile, Path.ofString_toString, EStateM.run_bind, Action.run_look,
    Action.run_ofExcept, hlook, Except.mapError, EStateM.run_get, Option.bind_some, hf₀,
    Option.map_some, Bool.false_eq_true, if_false, Action.run_report, ← hm, hf, EStateM.run_set]
  cases copyTo m₁.files m₁.cwd source i f (targetOf m₁.files m₁.cwd source target) m₁.now <;> rfl

theorem run_installFile_dry {source target : Path} (h : m.HasFile source) :
    (installFile source.toString target.toString true).run m =
      .ok () (m.report (.wouldCopy source.toString target.toString)) := by
  obtain ⟨i, f, hi, hf⟩ := h
  simp only [installFile, Path.ofString_toString, EStateM.run_bind, Action.run_look,
    Action.run_ofExcept, FileSystem.look_eq_some_iff.2 hi, Except.mapError, EStateM.run_get,
    Option.bind_some, hf, Option.map_some, if_true, Action.run_report]

theorem installFile_of_copied (h : Copied source target m m') :
    (installFile source.toString target.toString false).run m = .ok () m' := by
  obtain ⟨hm, hi, hf, hcopy, rfl⟩ := h
  rw [run_installFile_of_file hm hi hf, hcopy]

/-- A copy succeeds, or it fails and has done nothing but to report. -/
theorem installFile_cases (source target : Path) (m : Machine) :
    (∃ m', (installFile source.toString target.toString false).run m = .ok () m' ∧
      Copied source target m m') ∨
    ∃ e m', (installFile source.toString target.toString false).run m = .error e m' ∧
      m.Logged m' := by
  have hlog := Machine.logged_report (.copy source.toString target.toString) m
  cases hl : m.files.look m.cwd source.toString with
  | error e =>
    refine .inr ⟨.os e (.path source.toString), m, ?_, .refl m⟩
    simp only [installFile, Path.ofString_toString, EStateM.run_bind, Action.run_look,
      Action.run_ofExcept, hl, Except.mapError]
  | ok found =>
    cases hfound : found.bind fun i => (m.files.file? i).map (i, ·) with
    | none =>
      refine .inr ⟨.missing source.toString, m, ?_, .refl m⟩
      simp only [installFile, Path.ofString_toString, EStateM.run_bind, Action.run_look,
        Action.run_ofExcept, hl, Except.mapError, EStateM.run_get, hfound]
      rfl
    | some file =>
      obtain ⟨i, f₀⟩ := file
      have hi : m.files.find m.cwd source.toString = .ok i := by
        obtain ⟨j, rfl, hj⟩ := Option.bind_eq_some_iff.1 hfound
        obtain ⟨f, -, hji⟩ := Option.map_eq_some_iff.1 hj
        cases hji
        exact look_eq_some_iff.1 hl
      cases hf : (m.report (.copy source.toString target.toString)).files.file? i with
      | none =>
        refine .inr ⟨.missing source.toString, _, ?_, hlog⟩
        simp only [installFile, Path.ofString_toString, EStateM.run_bind, Action.run_look,
          Action.run_ofExcept, hl, Except.mapError, EStateM.run_get, hfound, Bool.false_eq_true,
          if_false, Action.run_report, hf]
        rfl
      | some f =>
        have hrun := run_installFile_of_file rfl hi hf
        split at hrun
        · next files hcopy => exact .inl ⟨_, hrun, .intro rfl hi hf hcopy rfl⟩
        · exact .inr ⟨_, _, hrun, hlog⟩

theorem installFile_ok_iff : (installFile source.toString target.toString false).run m =
    .ok () m' ↔ Copied source target m m' := by
  refine ⟨fun h => ?_, installFile_of_copied⟩
  rcases installFile_cases source target m with ⟨m₂, hrun, hcopied⟩ | ⟨e, m₂, hrun, -⟩
  · rw [hrun] at h
    cases h
    exact hcopied
  · rw [hrun] at h
    cases h

/-- How two paths are written makes no difference, but to what is said where there is no source. -/
theorem installFile_ok_iff_copied (source target : String) :
    (installFile source target false).run m = .ok () m' ↔
      Copied (Path.ofString source) (Path.ofString target) m m' := by
  rw [← installFile_ok_iff]
  simp only [installFile, Path.ofString_toString, EStateM.run_bind, Action.run_look,
    Action.run_ofExcept]
  cases m.files.look m.cwd (Path.ofString source).toString with
  | error e => exact Iff.rfl
  | ok found =>
    simp only [Except.mapError, EStateM.run_get]
    cases found.bind fun i => (m.files.file? i).map (i, ·) with
    | none => exact iff_of_false nofun nofun
    | some file =>
      simp only [Bool.false_eq_true, if_false, EStateM.run_bind, Action.run_report, EStateM.run_get]
      split
      · exact iff_of_false nofun nofun
      · exact Iff.rfl

theorem installFile_error {e : Failure}
    (h : (installFile source.toString target.toString false).run m = .error e m') :
    m.Logged m' := by
  rcases installFile_cases source target m with ⟨m₂, hrun, -⟩ | ⟨e', m₂, hrun, hlog⟩
  · rw [hrun] at h
    cases h
  · rw [hrun] at h
    cases h
    exact hlog

/-! ## What a copy leaves alone -/

theorem Copied.scene (h : Copied source target m m') : m.SameScene m' := by
  obtain ⟨rfl, -, -, -, rfl⟩ := h
  have hscene := (Machine.logged_report (.copy source.toString target.toString) m).scene
  exact ⟨hscene.cwd, hscene.environment, hscene.argv, hscene.handlers, hscene.now⟩

theorem Copied.children (h : Copied source target m m') : m'.children = m.children := by
  obtain ⟨rfl, -, -, -, rfl⟩ := h
  exact (Machine.logged_report (.copy source.toString target.toString) m).children

/-- Opening the target of a copy makes no directory of it, and takes none away. -/
theorem hasDirectory_of_opened {opened : FileSystem} (hwf : fs.WellFormed)
    (ho : Opened fs cwd (targetOf fs cwd source target).path opened j)
    (hw : Rewritten (· = j) opened fs') :
    fs'.hasDirectory cwd target.toString = fs.hasDirectory cwd target.toString := by
  have hg : Grows fs fs' := ho.frame.grows.trans (.of_rewritten (hw.mono fun _ _ => trivial))
  have hj : fs'.find cwd (targetOf fs cwd source target).path = .ok j := by
    rw [hw.find]
    exact find_of_locate ho.locate
  cases hd : fs.hasDirectory cwd target.toString with
  | true =>
    obtain ⟨k, hk, -⟩ := hasDirectory_eq_true_iff.1 hd
    rw [hasDirectory_of_grows hwf hg hk, hd]
  | false =>
    -- What was opened at the path itself is no directory.
    simp only [targetOf, hd, Bool.false_eq_true, if_false, Target.path] at hj
    simp only [hasDirectory, hj, hw.directory?, ho.no_directory, Option.isSome_none]

theorem targetOf_of_opened {opened : FileSystem} (hwf : fs.WellFormed)
    (ho : Opened fs cwd (targetOf fs cwd source target).path opened j)
    (hw : Rewritten (· = j) opened fs') :
    targetOf fs' cwd source target = targetOf fs cwd source target := by
  rw [targetOf, hasDirectory_of_opened hwf ho hw, ← targetOf]

/-- The file that is opened for a copy is the target of the copy. -/
theorem locate_of_opened {opened : FileSystem} (hwf : fs.WellFormed)
    (ho : Opened fs cwd (targetOf fs cwd source target).path opened j)
    (hw : Rewritten (· = j) opened fs') :
    fs'.locate cwd (targetOf fs' cwd source target).path .create = .ok (.node j) := by
  rw [targetOf_of_opened hwf ho hw, hw.locate]
  exact ho.locate

/-- A copy opens its target, which is not its source, and writes what it has read. -/
theorem Copied.opens (hwf : m.files.WellFormed) (h : Copied source target m m') :
    ∃ m₁ i f j opened, m₁ = m.report (.copy source.toString target.toString) ∧
      m₁.files.WellFormed ∧ m.files.find m.cwd source.toString = .ok i ∧
      m₁.files.file? i = some f ∧ i ≠ j ∧
      Opened m₁.files m₁.cwd (targetOf m₁.files m₁.cwd source target).path opened j ∧
      m' = { m₁ with files := opened.modifyFile j fun _ => f } := by
  obtain @⟨m₁, i, f, _, hm, hi, hf, hcopy, rfl⟩ := h
  have hlog : m.Logged m₁ := hm ▸ Machine.logged_report _ m
  have hwf₁ := hwf.rewritten hlog.files
  obtain ⟨hsame, opened, j, hopen, rfl⟩ := copyTo_ok hcopy
  have ho := opened_of_openForWriting hwf₁ hopen
  refine ⟨m₁, i, f, j, opened, hm, hwf₁, hi, hf, ?_, ho, rfl⟩
  rintro rfl
  obtain hfound | hnew := ho.found_or_new
  · exact hsame hfound
  · exact Nat.lt_irrefl _ (hnew ▸ lt_size_of_node? (node?_of_file? hf))

/-- A copy writes its target, which may be new, and nothing else. -/
theorem Copied.frame (hwf : m.files.WellFormed) (h : Copied source target m m') :
    m'.files.WellFormed ∧ ∃ j, IsTarget m'.files m'.cwd source target j ∧
      Frame (fun k => m.LogsTo k ∨ k = j) (· = j) (fun _ => False) m.files m'.files := by
  obtain ⟨m₁, i, f, j, opened, hm, hwf₁, -, -, -, ho, rfl⟩ := h.opens hwf
  have hlog : m.Logged m₁ := hm ▸ Machine.logged_report _ m
  have hw := Rewritten.modifyFile opened j fun _ => f
  refine ⟨ho.wellFormed.rewritten hw, j, find_of_locate (locate_of_opened hwf₁ ho hw), ?_⟩
  have hreport : Frame (fun k => m.LogsTo k ∨ k = j) (· = j) (fun _ => False) m.files m₁.files :=
    .of_rewritten (hlog.files.mono fun _ => .inl)
  have hopened : Frame (fun k => m.LogsTo k ∨ k = j) (· = j) (fun _ => False) m₁.files opened :=
    ho.frame.mono (fun _ => False.elim) (fun _ h => h) (fun _ h => h)
  exact (hreport.trans hopened).trans (.of_rewritten (hw.mono fun _ => .inr))

/-! ## Copies that are made again -/

/-- What a copy that succeeded has read and written, with no file among the handlers of the log. -/
theorem Copied.exists_target (hwf : m.files.WellFormed) (hlogs : ∀ i, ¬ m.LogsTo i)
    (h : Copied source target m m') :
    ∃ i f j, m.files.find m.cwd source.toString = .ok i ∧ m.files.file? i = some f ∧
      m'.files.locate m'.cwd (targetOf m'.files m'.cwd source target).path .create =
        .ok (.node j) ∧
      m'.files.directory? j = none ∧ (∀ g, m'.files.file? j = some g → g = f) ∧
      Frame (· = j) (· = j) (fun _ => False) m.files m'.files := by
  obtain ⟨m₁, i, f, j, opened, hm, hwf₁, hi, hf, -, ho, rfl⟩ := h.opens hwf
  have hsame : m₁.files = m.files := hm ▸ Machine.files_report _ hlogs
  have hw := Rewritten.modifyFile opened j fun _ => f
  refine ⟨i, f, j, hi, hsame ▸ hf, locate_of_opened hwf₁ ho hw, ?_, fun g hg => ?_, ?_⟩
  · rw [directory?_modifyFile]
    exact ho.no_directory
  · rw [file?_modifyFile_self] at hg
    obtain ⟨-, -, rfl⟩ := Option.map_eq_some_iff.1 hg
    rfl
  · have hframe : Frame (· = j) (· = j) (fun _ => False) m₁.files opened :=
      ho.frame.mono (fun _ => False.elim) (fun _ h => h) (fun _ h => h)
    rw [hsame] at hframe
    exact hframe.trans (.of_rewritten hw)

/-- A copy that has been made is made again on files that differ in its target, and in files that
were written since. What it has written then is as it was. -/
theorem Copied.again {written created made : Inode → Prop} {last : FileSystem} {n : Machine}
    (hwf : m.files.WellFormed) (hwf' : m'.files.WellFormed) (hlogs : ∀ i, ¬ m.LogsTo i)
    (h : Copied source target m m') (hframe : Frame written created made m'.files last)
    (hsource : ∀ i, last.find m.cwd source.toString = .ok i →
      ¬ written i ∧ ¬ IsTarget last m.cwd source target i)
    (hcwd : n.cwd = m.cwd) (hlogs' : ∀ i, ¬ n.LogsTo i)
    (hfiles : Rewritten (fun i => IsTarget last m.cwd source target i ∨ written i) last n.files) :
    ∃ n', Copied source target n n' ∧ Rewritten written last n'.files := by
  obtain ⟨i, f, j, hi, hf, hlocate, hdirectory, hwritten, hcopy⟩ := h.exists_target hwf hlogs
  rw [h.scene.cwd] at hlocate
  have hg := hframe.grows
  have htarget' : IsTarget m'.files m.cwd source target j := find_of_locate hlocate
  have htarget := htarget'.of_grows hwf' hg
  have hfound : last.find m.cwd source.toString = .ok i :=
    find_of_grows hwf' hg (find_of_grows hwf hcopy.grows hi)
  obtain ⟨hsource₁, hsource₂⟩ := hsource i hfound
  have hij : i ≠ j := fun he => hsource₂ (he ▸ htarget)
  -- The source is read as before, for no copy since has written it.
  have hlast : last.file? i = some f :=
    hframe.file?_of_not (hcopy.file?_of_not hf hij) hsource₁
  have hnot : ¬ (IsTarget last m.cwd source target i ∨ written i) :=
    fun h => h.elim hsource₂ hsource₁
  have hlog := Machine.logged_report (.copy source.toString target.toString) n
  have hsame := hlog.files_eq hlogs'
  have hreported : n.files.find n.cwd source.toString = .ok i := by
    rw [hcwd, hfiles.find, hfound]
  have hread : (n.report (.copy source.toString target.toString)).files.file? i = some f := by
    rw [hsame, hfiles.file?_of_not hnot, hlast]
  -- The target is there by now.
  have hat : targetOf n.files m.cwd source target = targetOf m'.files m.cwd source target := by
    rw [← htarget'.targetOf_of_grows hwf' hg, targetOf, targetOf, hfiles.hasDirectory]
  have hopen : n.files.locate m.cwd (targetOf n.files m.cwd source target).path .create =
      .ok (.node j) := by
    rw [hat, hfiles.locate]
    exact locate_of_grows hwf' hg hlocate
  have hplain : n.files.directory? j = none := by
    rw [hfiles.directory?]
    exact hg.directory?_eq_none (lt_size_of_locate hwf' hlocate) hdirectory
  have hscene := hlog.scene
  have hcopied : copyTo (n.report (.copy source.toString target.toString)).files
      (n.report (.copy source.toString target.toString)).cwd source i f
      (targetOf (n.report (.copy source.toString target.toString)).files
        (n.report (.copy source.toString target.toString)).cwd source target)
      (n.report (.copy source.toString target.toString)).now =
        .ok (n.files.modifyFile j fun _ => f) := by
    rw [hsame, hscene.cwd, hcwd]
    exact copyTo_of_node hopen hplain hij
  refine ⟨_, .intro rfl hreported hread hcopied rfl, ?_⟩
  refine (hfiles.mono fun k hk => hk.imp_left fun hk => ?_).modifyFile_back ?_
  · exact Except.ok.inj (hk.symm.trans htarget)
  · by_cases hj : written j
    · exact .inl hj
    · refine .inr fun g hgj => ?_
      cases hold : m'.files.file? j with
      | none =>
        rw [hg.file?_eq_none (lt_size_of_locate hwf' hlocate) hold] at hgj
        cases hgj
      | some f' =>
        rw [hframe.file?_of_not hold hj] at hgj
        cases hgj
        exact hwritten _ hold

end

end Install

end DeviceLauncher
