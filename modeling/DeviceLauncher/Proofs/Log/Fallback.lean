import DeviceLauncher.Proofs.Log.Delivery
import DeviceLauncher.Proofs.Log.Opening

/-!
# Which file the log is written to

`WritesTo m p level console i m'` says how a log is set up that is written to the file `i` at the
path `p`: records are added to what the file held, and no other file changes.

`configure_falls_back` says when this is the file that is asked for, and when it is the one in the
working directory. There is none if NUL keeps the system from being asked (`not_always_falls_back`),
or if a directory that was made for the path stands in the way.
-/

namespace DeviceLauncher

open FileSystem Install

namespace Log

variable {fs : FileSystem} {cwd i : Inode} {m : Machine} {p : Path} {path here : String}

/-! ## What is written -/

/-- Records go to the files of a log that is set up, and to no others. -/
theorem rewritten_afterAll (events : List Event) {chosen : Option String}
    (hm : m.log.setup = some chosen) :
    Rewritten m.LogsTo m.files (afterAll events m).files := by
  induction events generalizing m with
  | nil => exact .refl _ _
  | cons event rest ih =>
    have hstep : Rewritten m.LogsTo m.files (event.after m).files ∧
        (event.after m).log.setup = m.log.setup ∧ (event.after m).LogsTo = m.LogsTo := by
      cases event with
      | configure path level console =>
        rw [Event.after, Action.after_of_ok (configure_of_setup path level console hm)]
        exact ⟨.refl _ _, rfl, rfl⟩
      | record n =>
        have hlogged := Machine.logged_report n m
        exact ⟨hlogged.files, (m.log_report n).2.1, hlogged.scene.logsTo⟩
    obtain ⟨hfiles, hsetup, hlogsTo⟩ := hstep
    exact hfiles.trans (hlogsTo ▸ ih (hsetup.trans hm))

/-- How a log is set up from `m` to `m'` that is written to the file `i`, the one at the path `p`. -/
structure WritesTo (m : Machine) (p : Path) (level : Level) (console : Bool) (i : Inode)
    (m' : Machine) : Prop where
  handlers : m'.log.handlers = m.log.handlers ++ newHandlers (some (i, p.toString)) console
  /-- The file is the one at the path that the log asks for. -/
  found : ∃ q, m.files.absolute m.cwd p = .ok q ∧ m'.files.find m.cwd q.toString = .ok i
  found_of_up_not_mem : Name.up ∉ p.names → m'.files.find m.cwd p.toString = .ok i
  file_or_null : (m'.files.file? i).isSome ∨ m'.files.node? i = some .null
  /-- The file is as it was, or new and empty. -/
  content : i < m.files.nodes.size ∧ m'.files.file? i = m.files.file? i ∨
    m.files.nodes.size ≤ i ∧ m'.received (.file i) = some ByteArray.empty
  others {j : Inode} : j ≠ i → m'.files.file? j = m.files.file? j
  /-- Each record is added to the file, unless the log has been written to it already. -/
  received (events : List Event) : .file i ∉ m.log.handlers →
    (afterAll events m').received (.file i) = (m'.received (.file i)).map
      (written ((passing level events).map (Notice.line m.marks)))
  others_afterAll (events : List Event) {j : Inode} : j ≠ i → ¬ m.LogsTo j →
    (afterAll events m').files.file? j = m'.files.file? j

/-- The machine on which a log has been set up with a file. -/
def withFile (m : Machine) (files : FileSystem) (level : Level) (console : Bool) (i : Inode)
    (chosen : String) : Machine :=
  ({ m with files }.setLevel level).attach (newHandlers (some (i, chosen)) console) (some chosen)

theorem OpensAt.writesTo {files : FileSystem} (hwf : m.files.WellFormed)
    (h : OpensAt m path p i files) (level : Level) (console : Bool) :
    WritesTo m p level console i (withFile m files level console i p.toString) := by
  obtain ⟨q, hq, hopen⟩ := h
  have hmade : Made m.files m.cwd _ (withDirectories m path) :=
    (makeAll_made hwf m.cwd (Path.ofString path).parent).1
  have hopened := opened_of_openForWriting hmade.wellFormed hopen
  have hframe : Frame (fun _ => False) (· = i) (fun _ => True) m.files files :=
    (hmade.frame.mono (fun _ => id) (fun _ => False.elim) fun _ _ => trivial).trans
      (hopened.frame.mono (fun _ => id) (fun _ => id) fun _ _ => trivial)
  have hfound : files.find m.cwd q.toString = .ok i := find_of_locate hopened.locate
  have hsetup : (withFile m files level console i p.toString).log.setup = some (some p.toString) :=
    rfl
  refine ⟨rfl, ⟨q, hq, hfound⟩, fun hup => ?_, hopened.file_or_null, ?_,
    fun {j} hj => hframe.file?_eq hj, fun events hnew => ?_, fun events {j} hj hno => ?_⟩
  · have hlength := (locate_eq_ok_iff.1 hopened.locate).1.length_lt
    have hq' := absolute_of_grows hframe.grows hq
    refine find_eq_ok_iff.2 (?_ : files.locate m.cwd p.toString .find = .ok (.node i))
    rw [← locate_absolute hopened.wellFormed hq' hup hlength]
    exact find_eq_ok_iff.1 hfound
  · rcases openForWriting_ok hopen with ⟨rfl, hl, hd⟩ | ⟨d, name, hl, hr, rfl, rfl⟩
    · refine .inl ⟨?_, hmade.frame.file?_eq id⟩
      -- What is new after directories have been made is one of them.
      by_contra hlt
      obtain ⟨n, hn⟩ : ∃ n, (withDirectories m path).node? i = some n :=
        ⟨_, Array.getElem?_eq_getElem (lt_size_of_locate hmade.wellFormed hl)⟩
      obtain ⟨-, -, hfalse⟩ | ⟨e, rfl, -⟩ := hmade.frame.new (Nat.not_lt.1 hlt) hn
      · exact hfalse
      · simp [directory?, hn] at hd
    · obtain ⟨e, he, -⟩ := of_locate_free hmade.wellFormed hl hr
      refine .inr ⟨hmade.frame.size_le, ?_⟩
      simp [withFile, Machine.attach, Machine.setLevel, Machine.received, file?,
        node?_add_size name _ he]
  · have hmem : .file i ∈ newHandlers (some (i, p.toString)) console := List.mem_cons_self
    have hkept := kept_afterAll events hsetup
    rw [hkept.received (List.mem_append_right _ hmem)]
    change ((withFile m files level console i p.toString).received (.file i)).map
      (written ((passing level events).flatMap fun n => List.replicate
        ((m.log.handlers ++ newHandlers (some (i, p.toString)) console).count (.file i))
          (n.line m.marks))) = _
    rw [count_newHandlers hmem hnew]
    simp only [List.replicate_one, List.map_eq_flatMap]
  · refine (rewritten_afterAll events hsetup).file?_of_not fun hlogs => ?_
    rcases List.mem_append.1 hlogs with hlogs | hlogs
    · exact hno hlogs
    · obtain ⟨chosen, hsome⟩ := exists_of_file_mem_newHandlers hlogs
      cases hsome
      exact hj rfl

/-! ## Setting up the log with a file -/

theorem not_meetsNul (h : '\x00' ∉ path.toList) : ¬ MeetsNul m path := by
  have hnul : '\x00' ∉ (Path.ofString path).toString.toList := by
    rw [Path.mem_toString_iff (by decide) (by decide), Path.names_ofString]
    rintro ⟨n, hn, hc⟩
    obtain ⟨part, hpart, hname⟩ := List.mem_filterMap.1 hn
    unfold Name.ofString? at hname
    split at hname
    · cases hname
      exact h ((of_mem_textParts hpart).2 hc)
    · cases hname
  rintro (hparent | h)
  · exact hnul (Path.nul_mem_of_parent hparent)
  · exact hnul h.2

theorem run_configure_file (hm : m.log.setup = none) (hne : path ≠ "") (level : Level)
    (console : Bool) : (configure (some path) level console).run m =
      match (openLog path).run (m.setLevel level) with
      | .ok (i, chosen) m' =>
        .ok (some chosen) (m'.attach (newHandlers (some (i, chosen)) console) (some chosen))
      | .error e m' => .error e m' := by
  have hempty : path.isEmpty = false := by simpa using hne
  simp only [configure, EStateM.run_bind, EStateM.run_modify, EStateM.run_get]
  split
  · next chosen hchosen =>
    rw [hm] at hchosen
    cases hchosen
  · simp only [hempty, Bool.false_eq_true, ↓reduceIte, EStateM.run_bind, EStateM.run_map]
    cases hrun : (openLog path).run (m.setLevel level) with
    | ok opened m' =>
      rw [Machine.setLevel] at hrun
      rw [hrun]
      rfl
    | error e m' =>
      rw [Machine.setLevel] at hrun
      rw [hrun]
      rfl

theorem configure_file_cases (hwf : m.files.WellFormed) (hm : m.log.setup = none)
    (hhere : m.files.pathOf? m.cwd = some here)
    (htakes : m.files.Takes m.cwd (fallbackPath here).toString) (hne : path ≠ "") (level : Level)
    (console : Bool) :
    let run := (configure (some path) level console).run m
    OpensAsked m path ∧ (∃ i m', run = .ok (some (Path.ofString path).toString) m' ∧
      WritesTo m (Path.ofString path) level console i m') ∨
    (¬ OpensAsked m path ∧ ¬ MeetsNul m path ∧
        (withDirectories m path).hasDirectory m.cwd (fallbackPath here).toString = false) ∧
      (∃ i m', run = .ok (some (fallbackPath here).toString) m' ∧
        WritesTo m (fallbackPath here) level console i m') ∨
    (¬ OpensAsked m path ∧ (MeetsNul m path ∨
        (withDirectories m path).hasDirectory m.cwd (fallbackPath here).toString = true)) ∧
      ∃ e m', run = .error e m' := by
  -- The level is set first, and does not bear on the files.
  have hopen := run_openLog (m := m.setLevel level) hwf hhere htakes path
  rw [run_configure_file hm hne level console]
  obtain ⟨hasked, i, files, hopens, hrun⟩ | ⟨hno, i, files, hopens, hrun⟩ | ⟨hno, e, m', hrun⟩ :=
    hopen
  · rw [hrun]
    have hopens : OpensAt m path (Path.ofString path) i files := hopens
    exact .inl ⟨hasked, i, _, rfl, hopens.writesTo hwf level console⟩
  · rw [hrun]
    have hopens : OpensAt m path (fallbackPath here) i files := hopens
    exact .inr (.inl ⟨hno, i, _, rfl, hopens.writesTo hwf level console⟩)
  · rw [hrun]
    exact .inr (.inr ⟨hno, e, m', rfl⟩)

/-- A log that has not been set up is set up with a path as follows, if a file can be written in the
working directory under the name that is kept for it.

* If the directories above the path are there or can be made, and the file can be opened then, the
  log is written to it, and its path is given.
* Else the log is written to the file in the working directory, and the path of that one is given.
  But it fails if it comes to the system with NUL in the path, or if a directory was made at the place
  of the file in the working directory.
* What is written follows the old content of the file, and no other file changes.
* The path from the root stands for the path. Without `..` there is no difference, unless it is too
  long. -/
theorem configure_falls_back (hwf : m.files.WellFormed) (hm : m.log.setup = none)
    (hhere : m.files.pathOf? m.cwd = some here)
    (htakes : m.files.Takes m.cwd (fallbackPath here).toString) (hne : path ≠ "") (level : Level)
    (console : Bool) :
    let made := withDirectories m path
    let run := (configure (some path) level console).run m
    (OpensAsked m path → ∃ i m', run = .ok (some (Path.ofString path).toString) m' ∧
      WritesTo m (Path.ofString path) level console i m') ∧
    (¬ OpensAsked m path → ¬ MeetsNul m path →
      made.hasDirectory m.cwd (fallbackPath here).toString = false →
        ∃ i m', run = .ok (some (fallbackPath here).toString) m' ∧
          WritesTo m (fallbackPath here) level console i m') ∧
    ((∃ e m', run = .error e m') ↔ ¬ OpensAsked m path ∧
      (MeetsNul m path ∨ made.hasDirectory m.cwd (fallbackPath here).toString = true)) ∧
    ('\x00' ∉ path.toList → ¬ MeetsNul m path) ∧
    ∀ q, m.files.absolute m.cwd (Path.ofString path) = .ok q →
      Name.up ∉ (Path.ofString path).names → q.toString.utf8ByteSize < pathLimit →
        (OpensAsked m path ↔ made.hasDirectory m.cwd (Path.ofString path).parent.toString = true ∧
          made.Takes m.cwd (Path.ofString path).toString) := by
  intro made run
  have hmade : Made m.files m.cwd _ made := (makeAll_made hwf m.cwd (Path.ofString path).parent).1
  have hlast (q : Path) (hq : m.files.absolute m.cwd (Path.ofString path) = .ok q)
      (hup : Name.up ∉ (Path.ofString path).names) (hlength : q.toString.utf8ByteSize < pathLimit) :
      OpensAsked m path ↔ made.hasDirectory m.cwd (Path.ofString path).parent.toString = true ∧
        made.Takes m.cwd (Path.ofString path).toString := by
    rw [OpensAsked, canOpen_iff_takes hmade.wellFormed (absolute_of_grows hmade.frame.grows hq) hup
      hlength]
  obtain ⟨hasked, i, m', hrun, hwrites⟩ | ⟨⟨hasked, hnul, hno⟩, i, m', hrun, hwrites⟩ |
      ⟨⟨hasked, hfail⟩, e, m', hrun⟩ := configure_file_cases hwf hm hhere htakes hne level console
  · refine ⟨fun _ => ⟨i, m', hrun, hwrites⟩, fun hno => absurd hasked hno, ⟨?_, ?_⟩, not_meetsNul,
      hlast⟩
    · rintro ⟨e, m'', hrun'⟩
      cases hrun.symm.trans hrun'
    · exact fun h => absurd hasked h.1
  · refine ⟨fun h => absurd h hasked, fun _ _ _ => ⟨i, m', hrun, hwrites⟩, ⟨?_, ?_⟩, not_meetsNul,
      hlast⟩
    · rintro ⟨e, m'', hrun'⟩
      cases hrun.symm.trans hrun'
    · rintro ⟨-, h | h⟩
      · exact absurd h hnul
      · cases hno.symm.trans h
  · refine ⟨fun h => absurd h hasked, fun _ hnul hno => ?_, ⟨fun _ => ⟨hasked, hfail⟩,
      fun _ => ⟨e, m', hrun⟩⟩, not_meetsNul, hlast⟩
    rcases hfail with h | h
    · exact absurd h hnul
    · cases hno.symm.trans h

/-! ## Files in the root directory -/

theorem toString_fallbackPath_root : (fallbackPath "/").toString = "/ripple-launcher.log" := by
  decide

/-- A file can be written in the root directory under the name that is kept for the log. -/
theorem takes_fallbackPath_root {d : Directory} (hd : fs.directory? root = some d)
    (hremoved : d.removed = false) (hfree : d.entries.lookup fallbackName = none) :
    fs.Takes cwd (fallbackPath "/").toString := by
  have hnames : (Route.ofString (fallbackPath "/").toString).names = [fallbackName] := by decide
  have hlocate : fs.locate cwd (fallbackPath "/").toString .create =
      .ok (.free root fallbackName) := by
    refine locate_eq_ok_iff.2 ⟨⟨by decide, by decide, by decide⟩, ?_⟩
    rw [hnames]
    exact .free hd ⟨by decide, by decide, by decide, by decide⟩ hfree
  refine (takes_iff 0).2 ⟨_, _, (openForWriting_of_free hlocate).trans (if_neg ?_)⟩
  simp [hd, hremoved]

/-- The only file, `/f`. -/
def fileAlone : FileSystem := empty.add root "f" (.file ⟨ByteArray.empty, 0o644, 0⟩)

theorem wellFormed_fileAlone : fileAlone.WellFormed :=
  WellFormed.empty.add rfl ⟨by decide, by decide, by decide, by decide, by decide, by decide⟩ rfl
    (.file _)

/-- A path below a file cannot be opened, so the log is written in the working directory. -/
theorem configure_falls_back_below_file : let m := Machine.idle fileAlone .empty []
    m.files.WellFormed ∧ m.log.setup = none ∧ m.files.pathOf? m.cwd = some "/" ∧
      m.files.Takes m.cwd (fallbackPath "/").toString ∧ "/f/x" ≠ "" ∧
      ∃ i m', (configure (some "/f/x") 20 true).run m = .ok (some "/ripple-launcher.log") m' ∧
        WritesTo m (fallbackPath "/") 20 true i m' := by
  intro m
  have hhere : m.files.pathOf? m.cwd = some "/" := by cbv
  have htakes : m.files.Takes m.cwd (fallbackPath "/").toString :=
    takes_fallbackPath_root rfl rfl rfl
  -- No directory is made.
  have hmade : withDirectories m "/f/x" = m.files := by cbv
  have hparent : m.files.hasDirectory m.cwd (Path.ofString "/f/x").parent.toString = false := by cbv
  have hne : "/f/x" ≠ "" := by decide
  refine ⟨wellFormed_fileAlone, rfl, hhere, htakes, hne, ?_⟩
  obtain ⟨-, hfallback, -, hnul, -⟩ :=
    configure_falls_back wellFormed_fileAlone rfl hhere htakes hne 20 true
  have hrun := hfallback (fun h => by simp [OpensAsked, hmade, hparent] at h) (hnul (by decide))
    (by rw [hmade]; exact Bool.eq_false_iff.2 fun h => htakes (.inl h))
  rwa [toString_fallbackPath_root] at hrun

/-- A path with NUL in it is not given up for the file in the working directory. -/
theorem not_always_falls_back : ¬ ∀ (m : Machine) (path here : String) (level : Level)
    (console : Bool), m.files.WellFormed → m.log.setup = none →
      m.files.pathOf? m.cwd = some here → m.files.Takes m.cwd (fallbackPath here).toString →
        path ≠ "" → ∃ chosen m', (configure (some path) level console).run m = .ok chosen m' := by
  intro h
  let m := Machine.idle .empty .empty []
  obtain ⟨chosen, m', hrun⟩ := h m "\x00/x" "/" 10 false .empty rfl (by cbv)
    (takes_fallbackPath_root rfl rfl rfl) (by decide)
  obtain ⟨e, m'', hfail⟩ : ∃ e m', (configure (some "\x00/x") 10 false).run m = .error e m' :=
    ⟨.nul, _, by cbv⟩
  cases hrun.symm.trans hfail

end Log

end DeviceLauncher
