import DeviceLauncher.Proofs.FileSystem.Absolute
import DeviceLauncher.Proofs.Install.Refusal
import DeviceLauncher.Proofs.Log.Setup

/-!
# Opening a log file

A log file is asked for at a path, and the directories above it are made first. `OpensAsked m path`
says that it can be opened then; else the file in the working directory takes its place, at
`fallbackPath`.

* `Takes fs cwd path`: a file can be written at a path. This does not change when directories are
  made, unless one is made there (`Takes.of_frame`).
* Making directories and opening a file fail by NUL in the path, or by a refusal of the system
  (`makeAll_error`, `openForWriting_error`). Only a refusal is made up for.
* `run_openLog` says which file is opened, or that there is none.
-/

namespace DeviceLauncher

open FileSystem Install

/-! ## Files that can be written -/

namespace FileSystem

variable {fs before after : FileSystem} {cwd i : Inode} {path : String} {p q : Path}
  {written made : Inode → Prop}

/-- Whether a file can be written at a path, be it a new one. -/
def Takes (fs : FileSystem) (cwd : Inode) (path : String) : Prop :=
  ¬ (fs.hasDirectory cwd path = true ∨ fs.LacksDirectory cwd path ∨ fs.IsRejected cwd path)

theorem takes_iff (now : Int) :
    fs.Takes cwd path ↔ ∃ files i, fs.openForWriting cwd path now = .ok (files, i) := by
  rw [Takes, ← openForWriting_fails_iff now]
  cases fs.openForWriting cwd path now with
  | error r => simp
  | ok opened =>
    obtain ⟨files, i⟩ := opened
    simp

theorem not_takes_iff (now : Int) :
    ¬ fs.Takes cwd path ↔ ∃ r, fs.openForWriting cwd path now = .error r := by
  rw [Takes, not_not, ← openForWriting_fails_iff now]

/-- Where a file can be written one still can when directories have been made, unless one of them is
there. -/
theorem Takes.of_frame (hwf : before.WellFormed)
    (hg : Frame written (fun _ => False) made before after) (h : before.Takes cwd path)
    (hno : after.hasDirectory cwd path = false) : after.Takes cwd path := by
  obtain ⟨files, i, hopen⟩ := (takes_iff 0).1 h
  refine (takes_iff 0).2 ?_
  rcases openForWriting_ok hopen with ⟨-, hl, hd⟩ | ⟨d, name, hl, hr, -, -⟩
  · have hd' := hg.directory?_eq_none (lt_size_of_locate hwf hl) hd
    exact ⟨after, i, openForWriting_of_node (locate_of_grows hwf hg.grows hl) hd'⟩
  · obtain ⟨hadmissible, hleads⟩ := locate_eq_ok_iff.1 hl
    obtain hfree | ⟨j, hj, hnode⟩ := hleads.free_or_new hwf hg
    · obtain ⟨dd, hdd, hremoved, -⟩ := of_locate_free hwf hl hr
      obtain ⟨more, hdd', -⟩ := hg.directory? hdd
      refine ⟨_, _, (openForWriting_of_free (locate_eq_ok_iff.2 ⟨hadmissible, hfree⟩)).trans
        (if_neg ?_)⟩
      simp [hdd', hremoved]
    · -- What is new is a directory.
      obtain ⟨n, hn⟩ : ∃ n, after.node? j = some n := ⟨_, Array.getElem?_eq_getElem hj.2⟩
      obtain ⟨-, -, hfalse⟩ | ⟨e, rfl, -⟩ := hg.new hj.1 hn
      · exact hfalse.elim
      have hfind := find_of_locate (locate_eq_ok_iff.2 ⟨hadmissible, hnode⟩)
      have hyes : after.hasDirectory cwd path = true :=
        hasDirectory_eq_true_iff.2 ⟨j, hfind, by simp [directory?, hn]⟩
      rw [hyes] at hno
      cases hno

theorem openForWriting_error {now : Int} {r : Refusal}
    (h : fs.openForWriting cwd path now = .error r) : r = .nul ↔ '\x00' ∈ path.toList := by
  cases hl : fs.locate cwd path .create with
  | error r' =>
    cases h.symm.trans (openForWriting_of_refuses (locate_eq_error_iff.1 hl))
    have hnul : fs.locate cwd path .create = .error .nul ↔ _ := locate_eq_nul_iff
    simpa [hl] using hnul
  | ok place =>
    have hnul := (locate_eq_ok_iff.1 hl).1.no_nul
    cases place with
    | node i =>
      simp only [openForWriting, hl, bind, Except.bind] at h
      split at h
      · cases h
        simp [hnul]
      · cases h
    | free d name =>
      rw [openForWriting_of_free hl] at h
      split at h
      · cases h
        simp [hnul]
      · cases h

end FileSystem

/-! ## Failures -/

theorem Path.nul_mem_of_parent {p : Path} (h : '\x00' ∈ p.parent.toString.toList) :
    '\x00' ∈ p.toString.toList := by
  rw [Path.mem_toString_iff (by decide) (by decide)] at h ⊢
  obtain ⟨n, hn, hc⟩ := h
  exact ⟨n, List.mem_of_mem_dropLast hn, hc⟩

/-- Whether the operating system has refused. -/
def Failure.IsRefusal (e : Failure) : Prop := ∃ errno subject, e = .os errno subject

namespace Install

variable {fs made : FileSystem} {cwd : Inode} {p : Path} {e : Failure}

theorem makeDirectory_error {r : Refusal} (h : fs.makeDirectory cwd p.toString = .error r) :
    r = .nul ↔ '\x00' ∈ p.toString.toList := by
  rw [makeDirectory, Path.withoutLastSlash_toString, putNew, freePlace] at h
  cases hl : fs.locate cwd p.toString .findLink with
  | error r' =>
    rw [hl] at h
    cases h
    have hnul : fs.locate cwd p.toString .findLink = .error .nul ↔ _ := locate_eq_nul_iff
    simpa [hl] using hnul
  | ok place =>
    have hnul := (locate_eq_ok_iff.1 hl).1.no_nul
    rw [hl] at h
    cases place with
    | node i =>
      cases h
      simp [hnul]
    | free d name =>
      simp only [bind, Except.bind] at h
      split at h
      · next herror =>
        split at herror
        · cases herror
          cases h
          simp [hnul]
        · cases herror
      · cases h

theorem no_nul_of_makeDirectory_error {errno : Errno}
    (h : fs.makeDirectory cwd p.toString = .error (.errno errno)) : '\x00' ∉ p.toString.toList :=
  fun hnul => Refusal.noConfusion ((makeDirectory_error h).2 hnul)

/-- How a path fails at a call on the system: by NUL in its text, else by a refusal. -/
def FailsAt (p : Path) (e : Failure) : Prop :=
  e = .nul ∧ '\x00' ∈ p.toString.toList ∨ e.IsRefusal ∧ '\x00' ∉ p.toString.toList

theorem settle_error {r : Refusal} (hr : r = .nul ↔ '\x00' ∈ p.toString.toList)
    (h : settle fs cwd p r = some e) : FailsAt p e := by
  cases r with
  | nul =>
    cases h
    exact .inl ⟨rfl, hr.1 rfl⟩
  | errno errno =>
    refine .inr ⟨?_, fun hnul => Refusal.noConfusion (hr.2 hnul)⟩
    unfold settle at h
    split at h
    · next heq => cases heq
    · split at h
      · cases h
        exact ⟨_, _, rfl⟩
      · split at h
        · cases h
        · cases h
          exact ⟨_, _, rfl⟩

theorem makeOne_error (h : (makeOne fs cwd p).2 = some e) : FailsAt p e := by
  unfold makeOne at h
  split at h
  · cases h
  · next herror =>
    cases h
    exact .inr ⟨⟨_, _, rfl⟩, no_nul_of_makeDirectory_error herror⟩
  · next herror => exact settle_error (makeDirectory_error herror) h

/-- Making directories fails by NUL in the path, else by a refusal. -/
theorem makeAll_error (h : (makeAll fs cwd p).2 = some e) : FailsAt p e := by
  fun_induction makeAll fs cwd p with
  | case1 => cases h
  | case2 p herror hnames =>
    cases h
    exact .inr ⟨⟨_, _, rfl⟩, no_nul_of_makeDirectory_error herror⟩
  | case3 p herror hnames fs₁ e' hparent ih =>
    cases h
    rw [hparent] at ih
    have hnul := no_nul_of_makeDirectory_error herror
    obtain ⟨-, hparent⟩ | ⟨hrefusal, -⟩ := ih rfl
    · exact absurd (Path.nul_mem_of_parent hparent) hnul
    · exact .inr ⟨hrefusal, hnul⟩
  | case4 p herror hnames fs₁ hparent ih => exact makeOne_error h
  | case5 p r hr herror => exact settle_error (makeDirectory_error herror) h

end Install

namespace Log

variable {fs : FileSystem} {cwd i : Inode} {m : Machine} {p q : Path} {path here : String}
  {e : Failure}

/-! ## Opening one file -/

/-- Whether a log file can be opened at a path, which the log asks for from the root. -/
def CanOpen (fs : FileSystem) (cwd : Inode) (p : Path) : Prop :=
  ∃ q, fs.absolute cwd p = .ok q ∧ fs.Takes cwd q.toString

/-- A path without `..` can be opened as a log file if a file can be written at it. -/
theorem canOpen_iff_takes (hwf : fs.WellFormed) (h : fs.absolute cwd p = .ok q)
    (hup : Name.up ∉ p.names) (hlength : q.toString.utf8ByteSize < pathLimit) :
    CanOpen fs cwd p ↔ fs.Takes cwd p.toString := by
  have hopen : fs.openForWriting cwd q.toString 0 = fs.openForWriting cwd p.toString 0 := by
    rw [openForWriting, openForWriting, locate_absolute hwf h hup hlength]
  rw [CanOpen, takes_iff 0, ← hopen, ← takes_iff 0]
  constructor
  · rintro ⟨q', hq', htakes⟩
    cases h.symm.trans hq'
    exact htakes
  · exact fun htakes => ⟨q, h, htakes⟩

theorem exists_absolute (h : (fs.pathOf? cwd).isSome) : ∃ q, fs.absolute cwd p = .ok q := by
  obtain ⟨text, htext⟩ := Option.isSome_iff_exists.1 h
  unfold absolute
  split
  · exact ⟨_, rfl⟩
  · exact ⟨_, by rw [htext]⟩

theorem run_openFile (h : m.files.absolute m.cwd p = .ok q) : (openFile p).run m =
    match m.files.openForWriting m.cwd q.toString m.now with
    | .error r => .error (.ofRefusal q.toString r) m
    | .ok (files, i) => .ok i { m with files } := by
  simp only [openFile, EStateM.run_bind, EStateM.run_get, Action.run_ofExcept, h, Except.mapError]
  cases m.files.openForWriting m.cwd q.toString m.now <;> rfl

/-- A path from the root holds NUL where the path does, if no directory on its way has it. -/
theorem nul_mem_absolute_iff (hwf : fs.WellFormed) (h : fs.absolute cwd p = .ok q)
    (hparent : '\x00' ∉ p.parent.toString.toList) :
    '\x00' ∈ q.toString.toList ↔ '\x00' ∈ p.toString.toList := by
  have hnames : ∃ above, (∀ n ∈ above, '\x00' ∉ n.text.toList) ∧
      q.names = Path.collapseOnto q.anchor [] (above ++ p.names) := by
    obtain ⟨-, rfl⟩ | ⟨-, above, habove, rfl⟩ := absolute_cases hwf h
    · exact ⟨[], by simp, rfl⟩
    · exact ⟨above, fun n => no_nul_of_descend hwf habove.descend, rfl⟩
  obtain ⟨above, habove, hq⟩ := hnames
  rw [Path.mem_toString_iff (by decide) (by decide), Path.mem_toString_iff (by decide) (by decide),
    hq]
  constructor
  · rintro ⟨n, hn, hc⟩
    have hmem := (Path.mem_of_mem_collapseOnto hn).resolve_left List.not_mem_nil
    rcases List.mem_append.1 hmem with hmem | hmem
    · exact absurd hc (habove n hmem)
    · exact ⟨n, hmem, hc⟩
  · intro hnul
    -- The name that holds NUL is the last one, and it is not taken away.
    obtain ⟨front, last, hlast, hc⟩ := Path.exists_last_of_mem_toString (by decide) (by decide)
      ((Path.mem_toString_iff (by decide) (by decide)).2 hnul) hparent
    have hup : Name.up ∉ [last] := by
      rw [List.mem_singleton]
      rintro rfl
      exact absurd hc (by decide)
    refine ⟨last, ?_, hc⟩
    rw [hlast, ← List.append_assoc, Path.collapseOnto_append hup]
    exact List.mem_append_right _ List.mem_cons_self

/-! ## The file that is asked for -/

/-- Whether the directories above a log file are there once they have been made, and the file can be
opened then. -/
def OpensAsked (m : Machine) (path : String) : Prop :=
  (withDirectories m path).hasDirectory m.cwd (Path.ofString path).parent.toString = true ∧
    CanOpen (withDirectories m path) m.cwd (Path.ofString path)

/-- Whether a path with NUL in it comes to a call on the system: where directories are made, or where
the file is opened after that. -/
def MeetsNul (m : Machine) (path : String) : Prop :=
  '\x00' ∈ (Path.ofString path).parent.toString.toList ∨
    (withDirectories m path).hasDirectory m.cwd (Path.ofString path).parent.toString = true ∧
      '\x00' ∈ (Path.ofString path).toString.toList

/-- How the log comes to be written to a file at a path, after the directories have been made for the
path that was asked for. -/
def OpensAt (m : Machine) (path : String) (p : Path) (i : Inode) (files : FileSystem) : Prop :=
  ∃ q, m.files.absolute m.cwd p = .ok q ∧
    (withDirectories m path).openForWriting m.cwd q.toString m.now = .ok (files, i)

theorem no_nul_of_hasDirectory {text : String} (h : fs.hasDirectory cwd text = true) :
    '\x00' ∉ text.toList := by
  obtain ⟨i, hi, -⟩ := hasDirectory_eq_true_iff.1 h
  exact (locate_eq_ok_iff.1 (find_eq_ok_iff.1 hi)).1.no_nul

section

variable (hwf : m.files.WellFormed) (hcwd : (m.files.pathOf? m.cwd).isSome)

include hwf hcwd

/-- Opening the file that is asked for succeeds, or it fails by NUL, or by a refusal. -/
theorem run_openAt (path : String) :
    OpensAsked m path ∧ (∃ i files, OpensAt m path (Path.ofString path) i files ∧
      (openAt (Path.ofString path)).run m =
        .ok (i, (Path.ofString path).toString) { m with files }) ∨
    ¬ OpensAsked m path ∧ ∃ e,
      (openAt (Path.ofString path)).run m = .error e { m with files := withDirectories m path } ∧
        (e = .nul ∧ MeetsNul m path ∨ e.IsRefusal ∧ ¬ MeetsNul m path) := by
  obtain ⟨hmade, hdirectory⟩ := makeAll_made hwf m.cwd (Path.ofString path).parent
  simp only [openAt, EStateM.run_bind, run_makeDirectories, OpensAsked, MeetsNul, OpensAt,
    withDirectories]
  cases hrun : makeAll m.files m.cwd (Path.ofString path).parent with
  | mk made failure =>
    rw [hrun] at hmade hdirectory
    cases failure with
    | some e =>
      have hno := makeAll_failed hrun
      refine .inr ⟨by simp [hno], e, rfl, ?_⟩
      obtain ⟨rfl, hnul⟩ | ⟨hrefusal, hnul⟩ := makeAll_error (congrArg Prod.snd hrun)
      · exact .inl ⟨rfl, .inl hnul⟩
      · exact .inr ⟨hrefusal, by simp [hnul, hno]⟩
    | none =>
      have hyes : made.hasDirectory m.cwd _ = true := hdirectory rfl
      have hparent := no_nul_of_hasDirectory hyes
      obtain ⟨q, hq⟩ := exists_absolute (p := Path.ofString path) hcwd
      have hq' : made.absolute m.cwd _ = _ := absolute_of_grows hmade.frame.grows hq
      have hcan : CanOpen made m.cwd (Path.ofString path) ↔ made.Takes m.cwd q.toString := by
        simp [CanOpen, hq']
      have hopen := run_openFile (m := { m with files := made }) hq'
      simp only [hyes, hcan, true_and]
      cases hwrite : made.openForWriting m.cwd q.toString m.now with
      | ok opened =>
        obtain ⟨files, i⟩ := opened
        refine .inl ⟨(takes_iff _).2 ⟨files, i, hwrite⟩, i, files, ⟨q, hq, hwrite⟩, ?_⟩
        rw [hopen, hwrite]
        rfl
      | error r =>
        refine .inr ⟨(not_takes_iff _).2 ⟨r, hwrite⟩, .ofRefusal q.toString r, ?_, ?_⟩
        · rw [hopen, hwrite]
        · have hnul := (openForWriting_error hwrite).trans
            (nul_mem_absolute_iff hmade.wellFormed hq' hparent)
          cases r with
          | nul => exact .inl ⟨rfl, .inr (hnul.1 rfl)⟩
          | errno errno =>
            refine .inr ⟨⟨_, _, rfl⟩, ?_⟩
            exact fun h => h.elim hparent fun h => Refusal.noConfusion (hnul.2 h)

end

/-! ## The file in the working directory -/

/-- The path of the file that takes the place of another, below the path of the working directory. -/
def fallbackPath (here : String) : Path := (Path.ofString here).join (Path.ofString fallbackName)

section

variable (hwf : m.files.WellFormed) (hhere : m.files.pathOf? m.cwd = some here)

include hwf hhere

theorem absolute_fallbackPath : m.files.absolute m.cwd (fallbackPath here) =
    .ok (fallbackPath here) := by
  obtain ⟨above, habove, -, hup⟩ := exists_of_pathOf? hwf hhere
  have hname : Path.ofString fallbackName =
      ⟨.relative, [⟨fallbackName, by decide, by decide, by decide⟩]⟩ := by decide
  have hpath : fallbackPath here =
      ⟨.root, above ++ [⟨fallbackName, by decide, by decide, by decide⟩]⟩ := by
    rw [fallbackPath, habove, hname]
    rfl
  have hno : Name.up ∉ (fallbackPath here).names := by
    rw [hpath]
    simp only [List.mem_append, hup, List.mem_singleton, false_or]
    decide
  rw [absolute, if_pos (by simp [hpath]), Path.collapse_of_up_not_mem hno]

/-- The file in the working directory is opened unless a directory has been made at its place. -/
theorem run_openFallback (htakes : m.files.Takes m.cwd (fallbackPath here).toString)
    (path : String) :
    let made := withDirectories m path
    made.hasDirectory m.cwd (fallbackPath here).toString = false ∧
      (∃ i files, OpensAt m path (fallbackPath here) i files ∧
        openFallback.run { m with files := made } =
          .ok (i, (fallbackPath here).toString) { m with files }) ∨
    made.hasDirectory m.cwd (fallbackPath here).toString = true ∧
      ∃ e, openFallback.run { m with files := made } = .error e { m with files := made } := by
  intro made
  have hmade : Made m.files m.cwd _ made := (makeAll_made hwf m.cwd (Path.ofString path).parent).1
  have hq := absolute_fallbackPath hwf hhere
  have hopen := run_openFile (m := { m with files := made })
    (absolute_of_grows hmade.frame.grows hq)
  have hrun : openFallback.run { m with files := made } =
      (do return (← openFile (fallbackPath here), (fallbackPath here).toString) :
        Action (Inode × String)).run { m with files := made } := by
    simp only [openFallback, EStateM.run_bind, EStateM.run_get,
      pathOf?_of_grows hmade.frame.grows hhere]
    rfl
  rw [hrun, EStateM.run_bind, hopen]
  cases hdirectory : made.hasDirectory m.cwd (fallbackPath here).toString with
  | false =>
    obtain ⟨files, i, hwrite⟩ :=
      (takes_iff m.now).1 (htakes.of_frame hwf hmade.frame hdirectory)
    simp only [hwrite]
    exact .inl ⟨trivial, i, files, ⟨_, hq, hwrite⟩, rfl⟩
  | true =>
    obtain ⟨r, hwrite⟩ : ∃ r, made.openForWriting m.cwd (fallbackPath here).toString m.now =
      .error r := openForWriting_of_hasDirectory hdirectory
    simp only [hwrite]
    exact .inr ⟨trivial, _, rfl⟩

/-- The log file is the one that is asked for, or else the one in the working directory, or else there
is none. -/
theorem run_openLog (htakes : m.files.Takes m.cwd (fallbackPath here).toString) (path : String) :
    OpensAsked m path ∧ (∃ i files, OpensAt m path (Path.ofString path) i files ∧
      (openLog path).run m = .ok (i, (Path.ofString path).toString) { m with files }) ∨
    (¬ OpensAsked m path ∧ ¬ MeetsNul m path ∧
        (withDirectories m path).hasDirectory m.cwd (fallbackPath here).toString = false) ∧
      (∃ i files, OpensAt m path (fallbackPath here) i files ∧
        (openLog path).run m = .ok (i, (fallbackPath here).toString) { m with files }) ∨
    (¬ OpensAsked m path ∧ (MeetsNul m path ∨
        (withDirectories m path).hasDirectory m.cwd (fallbackPath here).toString = true)) ∧
      ∃ e m', (openLog path).run m = .error e m' := by
  rw [openLog, Action.run_tryCatch]
  obtain ⟨hasked, i, files, hopens, hrun⟩ | ⟨hasked, e, hrun, hfail⟩ :=
    run_openAt hwf (by simp [hhere]) path
  · exact .inl ⟨hasked, i, files, hopens, by rw [hrun]⟩
  rw [hrun]
  obtain ⟨rfl, hnul⟩ | ⟨⟨errno, subject, rfl⟩, hnul⟩ := hfail
  · exact .inr (.inr ⟨⟨hasked, .inl hnul⟩, _, _, rfl⟩)
  · obtain ⟨hno, i, files, hopens, hfallback⟩ | ⟨hyes, e, hfallback⟩ :=
      run_openFallback hwf hhere htakes path
    · exact .inr (.inl ⟨⟨hasked, hnul, hno⟩, i, files, hopens, hfallback⟩)
    · exact .inr (.inr ⟨⟨hasked, .inr hyes⟩, e, _, hfallback⟩)

end

end Log

end DeviceLauncher
