import DeviceLauncher.Proofs.Install.File

/-!
# What is at the target of a copy

* `Placed fs cwd source target`: the file that a copy from `source` to `target` writes has the bytes,
  the permission bits and the time of the source. A copy comes to this (`Copied.placed`), and what is
  written to other files since does not change it (`Placed.of_frame`).
* `HasCopy fs cwd source target`: at `target` itself there is such a file. This is so if a copy finds
  nothing there, or a regular file, perhaps through links (`Copied.hasCopy`).

A copy onto a directory is placed inside, and the directory stays. One onto the device that forgets
everything leaves no file.
-/

namespace DeviceLauncher.Install

open FileSystem

variable {fs before after : FileSystem} {cwd i j : Inode} {source target : Path} {f : File}
  {written created made : Inode → Prop} {m m' : Machine}

/-- Whether a node has taken a file: it is a regular file, with the same contents, or the device that
forgets everything. -/
def Stores (fs : FileSystem) (j : Inode) (f : File) : Prop :=
  fs.file? j = some f ∨ fs.node? j = some .null

/-- Whether the target of a copy has taken the source. -/
def Placed (fs : FileSystem) (cwd : Inode) (source target : Path) : Prop :=
  ∃ i f j, fs.find cwd source.toString = .ok i ∧ fs.file? i = some f ∧
    IsTarget fs cwd source target j ∧ Stores fs j f

/-- Whether at a path there is a regular file with the contents of another one. -/
def HasCopy (fs : FileSystem) (cwd : Inode) (source target : Path) : Prop :=
  ∃ i f j, fs.find cwd source.toString = .ok i ∧ fs.file? i = some f ∧
    fs.find cwd target.toString = .ok j ∧ fs.file? j = some f

/-- Whether at a path there is a regular file or nothing. -/
def IsReplaceable (fs : FileSystem) (cwd : Inode) (target : Path) : Prop :=
  ∀ j, fs.find cwd target.toString = .ok j → (fs.file? j).isSome

/-- Whether the device that forgets everything is at a path. -/
def HasNull (fs : FileSystem) (cwd : Inode) (target : Path) : Prop :=
  ∃ j, fs.find cwd target.toString = .ok j ∧ fs.node? j = some .null

theorem IsReplaceable.of_rewritten (hw : Rewritten written before after)
    (h : IsReplaceable before cwd target) : IsReplaceable after cwd target := by
  intro j hj
  rw [hw.find] at hj
  rw [hw.isSome_file?]
  exact h j hj

theorem IsReplaceable.hasDirectory_eq (h : IsReplaceable fs cwd target) :
    fs.hasDirectory cwd target.toString = false := by
  refine Bool.eq_false_iff.2 fun hd => ?_
  obtain ⟨j, hj, hdirectory⟩ := hasDirectory_eq_true_iff.1 hd
  obtain ⟨f, hf⟩ := Option.isSome_iff_exists.1 (h j hj)
  rw [directory?, node?_of_file? hf] at hdirectory
  cases hdirectory

/-! ## Later changes -/

theorem Stores.of_frame (hframe : Frame written created made before after)
    (h : Stores before j f) (hj : ¬ written j) : Stores after j f := by
  obtain hfile | hnull := h
  · exact .inl (hframe.file?_of_not hfile hj)
  · obtain ⟨n, hn, hkeeps⟩ := hframe.old hnull
    cases hkeeps
    exact .inr hn

/-- What is written to other files does not change a copy. -/
theorem Placed.of_frame (hwf : before.WellFormed)
    (hframe : Frame written created made before after) (h : Placed before cwd source target)
    (hsource : ∀ i, after.find cwd source.toString = .ok i → ¬ written i)
    (htarget : ∀ j, IsTarget after cwd source target j → ¬ written j) :
    Placed after cwd source target := by
  obtain ⟨i, f, j, hi, hf, hj, hstores⟩ := h
  have hg := hframe.grows
  have hi' := find_of_grows hwf hg hi
  have hj' := hj.of_grows hwf hg
  exact ⟨i, f, j, hi', hframe.file?_of_not hf (hsource i hi'), hj',
    hstores.of_frame hframe (htarget j hj')⟩

/-- At the path given for a copy there is the copy, unless there is a directory or a device. -/
theorem Placed.cases (h : Placed fs cwd source target) :
    HasCopy fs cwd source target ∨ fs.hasDirectory cwd target.toString = true ∨
      HasNull fs cwd target := by
  obtain ⟨i, f, j, hi, hf, hj, hstores⟩ := h
  cases hd : fs.hasDirectory cwd target.toString with
  | true => exact .inr (.inl rfl)
  | false =>
    have hfind : fs.find cwd target.toString = .ok j := by
      simpa [IsTarget, targetOf, hd, Target.path] using hj
    obtain hfile | hnull := hstores
    · exact .inl ⟨i, f, j, hi, hf, hfind, hfile⟩
    · exact .inr (.inr ⟨j, hfind, hnull⟩)

/-! ## Copies -/

/-- Where there is nothing or a regular file, it is a regular file that is opened. -/
theorem isSome_file?_of_opened {path : String} {opened : FileSystem}
    (h : Opened fs cwd path opened i) (hfile : fs.find cwd path = .ok i → (fs.file? i).isSome) :
    (opened.file? i).isSome := by
  refine h.file_or_null.resolve_right fun hnull => ?_
  obtain hfound | hnew := h.found_or_new
  · obtain ⟨f, hf⟩ := Option.isSome_iff_exists.1 (hfile hfound)
    obtain ⟨g, hg⟩ := h.frame.exists_file? hf
    rw [node?_of_file? hg] at hnull
    cases hnull
  · obtain ⟨f, hf, -⟩ | ⟨d, hd, -⟩ := h.frame.new (Nat.le_of_eq hnew.symm) hnull
    · cases hf
    · cases hd

theorem Copied.placed (hwf : m.files.WellFormed) (h : Copied source target m m') :
    Placed m'.files m'.cwd source target := by
  obtain ⟨m₁, i, f, j, opened, hm, hwf₁, hi, hf, hij, ho, rfl⟩ := h.opens hwf
  have hlog : m.Logged m₁ := hm ▸ Machine.logged_report _ m
  have hw := Rewritten.modifyFile opened j fun _ => f
  have hi₁ : m₁.files.find m₁.cwd source.toString = .ok i := by
    rw [hlog.scene.cwd, hlog.files.find, hi]
  refine ⟨i, f, j, ?_, ?_, find_of_locate (locate_of_opened hwf₁ ho hw), ?_⟩
  · rw [hw.find]
    exact find_of_grows hwf₁ ho.frame.grows hi₁
  · rw [hw.file?_of_not hij]
    exact ho.frame.file?_of_not hf id
  · obtain hfile | hnull := ho.file_or_null
    · obtain ⟨g, hg⟩ := Option.isSome_iff_exists.1 hfile
      exact .inl (by rw [file?_modifyFile_self, hg]; rfl)
    · have hnone : opened.file? j = none := by rw [file?, hnull]
      exact .inr (by rw [modifyFile_of_not_file _ hnone, hnull])

/-- A copy replaces what is at the path given for it, if that is a regular file or nothing. -/
theorem Copied.hasCopy (hwf : m.files.WellFormed) (h : Copied source target m m')
    (hreplaceable : IsReplaceable m.files m.cwd target) : HasCopy m'.files m'.cwd source target := by
  obtain ⟨m₁, i, f, j, opened, hm, hwf₁, -, -, -, ho, hm'⟩ := h.opens hwf
  have hlog : m.Logged m₁ := hm ▸ Machine.logged_report _ m
  have hw := Rewritten.modifyFile opened j fun _ => f
  have hthere : IsReplaceable m₁.files m₁.cwd target :=
    hlog.scene.cwd ▸ hreplaceable.of_rewritten hlog.files
  have hplain := hthere.hasDirectory_eq
  have hpath : (targetOf m₁.files m₁.cwd source target).path = target.toString := by
    simp [targetOf, hplain, Target.path]
  have hj : m'.files.find m'.cwd target.toString = .ok j := by
    rw [hm', hw.find, ← hpath]
    exact find_of_locate ho.locate
  have hfile : (m'.files.file? j).isSome := by
    rw [hm', hw.isSome_file?]
    exact isSome_file?_of_opened ho fun hfound => hthere j (hpath ▸ hfound)
  obtain hcopy | hdirectory | ⟨k, hk, hnull⟩ := (h.placed hwf).cases
  · exact hcopy
  · rw [hm', hasDirectory_of_opened hwf₁ ho hw, hplain] at hdirectory
    cases hdirectory
  · cases hj.symm.trans hk
    obtain ⟨g, hg⟩ := Option.isSome_iff_exists.1 hfile
    rw [node?_of_file? hg] at hnull
    cases hnull

end DeviceLauncher.Install
