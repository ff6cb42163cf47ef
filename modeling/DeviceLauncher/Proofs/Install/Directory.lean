import DeviceLauncher.Install.Directory
import DeviceLauncher.Proofs.Action
import DeviceLauncher.Proofs.FileSystem.Above

/-!
# What making directories does

`makeAll` adds directories and nothing else, each of them where a part of the path leads; if it
comes to no failure then there is a directory at the path (`makeAll_made`), and if it fails there is
none (`makeAll_failed`). Where there is one already, nothing happens (`makeAll_of_directory`).
`ensureDirectory_spec` says the same of the action.
-/

namespace DeviceLauncher

open FileSystem

/-- Whether a path begins with another one. -/
def Path.Extends (p q : Path) : Prop := p.anchor = q.anchor ∧ q.names <+: p.names

theorem Path.Extends.refl (p : Path) : p.Extends p := ⟨rfl, List.prefix_rfl⟩

theorem Path.Extends.of_parent {p q : Path} (h : p.parent.Extends q) : p.Extends q :=
  ⟨h.1, h.2.trans (List.dropLast_prefix p.names)⟩

theorem FileSystem.freePlace_ok {fs : FileSystem} {cwd d : Inode} {path name : String}
    (h : fs.freePlace cwd path = .ok (d, name)) :
    fs.locate cwd path .findLink = .ok (.free d name) ∧
      (fs.directory? d).any Directory.removed = false := by
  unfold freePlace at h
  cases hl : fs.locate cwd path .findLink with
  | error r => simp [hl, bind, Except.bind] at h
  | ok place =>
    rw [hl] at h
    cases place with
    | node i => cases h
    | free i x =>
      simp only [bind, Except.bind] at h
      split at h
      · cases h
      · next hr =>
        cases h
        exact ⟨rfl, by simpa using hr⟩

namespace Install

variable {fs made : FileSystem} {cwd i : Inode} {p : Path}

/-- Whether a part of a path, from its beginning on, leads to an inode. -/
def OnTheWay (fs : FileSystem) (cwd : Inode) (p : Path) (i : Inode) : Prop :=
  ∃ q, p.Extends q ∧ fs.find cwd q.toString = .ok i

/-- How directories have been made on the way of a path. -/
structure Made (fs : FileSystem) (cwd : Inode) (p : Path) (made : FileSystem) : Prop where
  wellFormed : made.WellFormed
  frame : Frame (fun _ => False) (fun _ => False) (OnTheWay made cwd p) fs made

theorem Made.refl (hwf : fs.WellFormed) : Made fs cwd p fs := ⟨hwf, .refl fs⟩

theorem Made.trans {last : FileSystem} (h : Made fs cwd p made) (h' : Made made cwd p last) :
    Made fs cwd p last := by
  refine ⟨h'.wellFormed, .trans (h.frame.mono (fun _ h => h) (fun _ h => h) ?_) h'.frame⟩
  rintro i ⟨q, hq, hi⟩
  exact ⟨q, hq, find_of_grows h.wellFormed h'.frame.grows hi⟩

theorem Made.of_parent (h : Made fs cwd p.parent made) : Made fs cwd p made :=
  ⟨h.wellFormed, h.frame.mono (fun _ h => h) (fun _ h => h)
    fun _ ⟨q, hq, hi⟩ => ⟨q, hq.of_parent, hi⟩⟩

theorem makeDirectory_ok (hwf : fs.WellFormed) (h : fs.makeDirectory cwd p.toString = .ok made) :
    Made fs cwd p made ∧ made.hasDirectory cwd p.toString = true := by
  rw [makeDirectory, Path.withoutLastSlash_toString, putNew] at h
  cases hfree : fs.freePlace cwd p.toString with
  | error r => simp [hfree, bind, Except.bind] at h
  | ok place =>
    obtain ⟨i, name⟩ := place
    simp only [hfree, bind, Except.bind, pure, Except.pure, Except.ok.injEq] at h
    subst h
    obtain ⟨hl, hr⟩ := freePlace_ok hfree
    obtain ⟨d, hd, hrd, hnone, hname, hadd⟩ := of_locate_free hwf hl hr
    have hnode := node?_add_size name (.directory ⟨i, [], false⟩) hd
    have hfind : (fs.add i name (.directory ⟨i, [], false⟩)).find cwd p.toString =
        .ok fs.nodes.size := by
      obtain ⟨hp, hw⟩ := locate_eq_ok_iff.1 (hadd _ .directory)
      refine find_eq_ok_iff.2 (locate_eq_ok_iff.2 ⟨hp, hw.find_of_findLink ?_⟩)
      rw [link?, hnode]
    refine ⟨⟨hwf.add hd hname hnone .directory, .add hwf hd hrd .directory (.inr ⟨rfl, ?_⟩)⟩, ?_⟩
    · exact ⟨p, .refl p, hfind⟩
    · exact hasDirectory_eq_true_iff.2 ⟨_, hfind, by rw [directory?, hnode]; rfl⟩

/-- The refusal to make a directory comes to nothing only where there is one. -/
theorem hasDirectory_of_settle {r : Refusal} (h : settle fs cwd p r = none) :
    fs.hasDirectory cwd p.toString = true := by
  unfold settle at h
  split at h
  · cases h
  · split at h
    · cases h
    · next found hlook =>
      split at h
      · next hd =>
        cases found with
        | none => simp at hd
        | some i => exact hasDirectory_eq_true_iff.2 ⟨i, look_eq_some_iff.1 hlook, hd⟩
      · cases h

theorem makeOne_made (hwf : fs.WellFormed) (cwd : Inode) (p : Path) :
    Made fs cwd p (makeOne fs cwd p).1 ∧
      ((makeOne fs cwd p).2 = none → (makeOne fs cwd p).1.hasDirectory cwd p.toString = true) := by
  unfold makeOne
  split
  · next made h =>
    obtain ⟨hm, hd⟩ := makeDirectory_ok hwf h
    exact ⟨hm, fun _ => hd⟩
  · exact ⟨.refl hwf, fun h => by cases h⟩
  · exact ⟨.refl hwf, hasDirectory_of_settle⟩

/-- Directories are made on the way of the path, and where there is no failure there is one at the
path. -/
theorem makeAll_made (hwf : fs.WellFormed) (cwd : Inode) (p : Path) :
    Made fs cwd p (makeAll fs cwd p).1 ∧
      ((makeAll fs cwd p).2 = none → (makeAll fs cwd p).1.hasDirectory cwd p.toString = true) := by
  fun_induction makeAll fs cwd p with
  | case1 p made h =>
    obtain ⟨hm, hd⟩ := makeDirectory_ok hwf h
    exact ⟨hm, fun _ => hd⟩
  | case2 p h hnames => exact ⟨.refl hwf, fun h => by cases h⟩
  | case3 p h hnames fs₁ e hparent ih =>
    rw [hparent] at ih
    exact ⟨ih.1.of_parent, fun h => by cases h⟩
  | case4 p h hnames fs₁ hparent ih =>
    rw [hparent] at ih
    obtain ⟨hm, hd⟩ := makeOne_made ih.1.wellFormed cwd p
    exact ⟨ih.1.of_parent.trans hm, hd⟩
  | case5 p r h hr => exact ⟨.refl hwf, hasDirectory_of_settle⟩

/-- Where there is a directory, another one is refused. -/
theorem makeDirectory_of_directory (h : fs.hasDirectory cwd p.toString = true) :
    fs.makeDirectory cwd p.toString = .error (.errno .alreadyThere) := by
  obtain ⟨i, hi, -⟩ := hasDirectory_eq_true_iff.1 h
  obtain ⟨hp, hw⟩ := locate_eq_ok_iff.1 (find_eq_ok_iff.1 hi)
  obtain ⟨j, hj⟩ := hw.exists_findLink
  have hl : fs.locate cwd p.toString .findLink = .ok (.node j) := locate_eq_ok_iff.2 ⟨hp, hj⟩
  rw [makeDirectory, Path.withoutLastSlash_toString, putNew, freePlace, hl]
  rfl

theorem settle_of_directory (h : fs.hasDirectory cwd p.toString = true) :
    settle fs cwd p (.errno .alreadyThere) = none := by
  obtain ⟨i, hi, hd⟩ := hasDirectory_eq_true_iff.1 h
  simp [settle, look_eq_some_iff.2 hi, hd]

/-- Where there is a directory, none is made. -/
theorem makeAll_of_directory (h : fs.hasDirectory cwd p.toString = true) :
    makeAll fs cwd p = (fs, none) := by
  rw [makeAll, makeDirectory_of_directory h]
  simp [settle_of_directory h]

theorem makeOne_of_directory (h : fs.hasDirectory cwd p.toString = true) :
    makeOne fs cwd p = (fs, none) := by
  rw [makeOne, makeDirectory_of_directory h]
  simp [settle_of_directory h]

/-- After a failure to make one directory there is none at the path. -/
theorem makeOne_failed {e : Failure} (h : makeOne fs cwd p = (made, some e)) :
    made.hasDirectory cwd p.toString = false := by
  obtain rfl : fs = made := by
    unfold makeOne at h
    split at h <;> cases congrArg Prod.fst h
    · cases congrArg Prod.snd h
    · rfl
    · rfl
  refine Bool.eq_false_iff.2 fun hd => ?_
  rw [makeOne_of_directory hd] at h
  cases h

/-- The directory above a path that has names. -/
theorem hasDirectory_parent (hnames : p.names ≠ []) (h : fs.hasDirectory cwd p.toString = true) :
    fs.hasDirectory cwd p.parent.toString = true := by
  obtain ⟨i, hi, -⟩ := hasDirectory_eq_true_iff.1 h
  have hchild := child_of_getLast? (List.getLast?_eq_some_getLast hnames)
  rw [← hchild, find_eq_ok_iff] at hi
  exact hasDirectory_above hi

/-- After a failure there is no directory at the path. -/
theorem makeAll_failed {e : Failure} (h : makeAll fs cwd p = (made, some e)) :
    made.hasDirectory cwd p.toString = false := by
  fun_induction makeAll fs cwd p with
  | case1 => cases h
  | case2 p hmake =>
    cases h
    refine Bool.eq_false_iff.2 fun hd => ?_
    rw [makeDirectory_of_directory hd] at hmake
    cases hmake
  | case3 p _ hnames fs₁ e' hparent ih =>
    -- What was missing above is missing below.
    cases h
    have habove := ih hparent
    refine Bool.eq_false_iff.2 fun hd => ?_
    rw [hasDirectory_parent (by simpa using hnames) hd] at habove
    cases habove
  | case4 p => exact makeOne_failed h
  | case5 p r _ hmake =>
    obtain ⟨rfl, hsettle⟩ := Prod.mk.inj h
    refine Bool.eq_false_iff.2 fun hd => ?_
    rw [makeDirectory_of_directory hd] at hmake
    cases hmake
    rw [settle_of_directory hd] at hsettle
    cases hsettle

/-! ## The action -/

theorem run_makeDirectories (p : Path) (m : Machine) : (makeDirectories p).run m =
    match makeAll m.files m.cwd p with
    | (files, none) => .ok () { m with files }
    | (files, some e) => .error e { m with files } := by
  simp only [makeDirectories, EStateM.run_bind, EStateM.run_get]
  cases makeAll m.files m.cwd p with
  | mk files failure => cases failure <;> rfl

/-- Seeing to a directory makes it, after a report, or fails at once. -/
theorem run_ensureDirectory (p : Path) (m : Machine) :
    (∃ m₁, (m₁ = m ∨ m₁ = m.report (.directoryExists p.toString)) ∧
      (ensureDirectory p.toString false).run m = (makeDirectories p).run m₁) ∨
    ∃ e, (ensureDirectory p.toString false).run m = .error e m := by
  simp only [ensureDirectory, Path.ofString_toString, Bool.false_eq_true, if_false,
    EStateM.run_bind, Action.run_look, Action.run_ofExcept]
  cases m.files.look m.cwd p.toString with
  | error e => exact .inr ⟨_, rfl⟩
  | ok found =>
    cases found with
    | none => exact .inl ⟨m, .inl rfl, rfl⟩
    | some i =>
      simp only [Except.mapError, EStateM.run_bind, EStateM.run_get]
      split
      · exact .inl ⟨_, .inr rfl, rfl⟩
      · exact .inl ⟨m, .inl rfl, rfl⟩

/-- Seeing to a directory that is there only tells of it. -/
theorem ensureDirectory_of_directory {m : Machine}
    (h : m.files.hasDirectory m.cwd p.toString = true) :
    ∃ m', (ensureDirectory p.toString false).run m = .ok () m' ∧ m.Logged m' := by
  obtain ⟨i, hi, hd⟩ := hasDirectory_eq_true_iff.1 h
  have hlook : m.files.look m.cwd p.toString = .ok (some i) := look_eq_some_iff.2 hi
  have hlog := Machine.logged_report (.directoryExists p.toString) m
  have hstill : (m.report (.directoryExists p.toString)).files.hasDirectory
      (m.report (.directoryExists p.toString)).cwd p.toString = true := by
    rw [hlog.files.hasDirectory, hlog.scene.cwd]
    exact h
  have hmake := makeAll_of_directory hstill
  refine ⟨m.report (.directoryExists p.toString), ?_, hlog⟩
  simp only [ensureDirectory, Path.ofString_toString, Bool.false_eq_true, if_false,
    EStateM.run_bind, Action.run_look, Action.run_ofExcept, hlook, Except.mapError,
    EStateM.run_get, hd, if_true, Action.run_report, run_makeDirectories, hmake]

/-- What seeing to a directory has done, whether or not it has failed. -/
theorem ensureDirectory_after {p : Path} {m : Machine} (hwf : m.files.WellFormed) :
    ∃ m₁ m', m.Logged m₁ ∧ m₁.SameScene m' ∧ m'.children = m₁.children ∧
      Made m₁.files m₁.cwd p m'.files ∧
      ((∃ e, (ensureDirectory p.toString false).run m = .error e m') ∨
        (ensureDirectory p.toString false).run m = .ok () m' ∧
          m'.files.hasDirectory m'.cwd p.toString = true) := by
  rcases run_ensureDirectory p m with ⟨m₁, hm₁, hrun⟩ | ⟨e, hrun⟩
  · have hlog : m.Logged m₁ := by
      obtain rfl | rfl := hm₁
      · exact .refl _
      · exact Machine.logged_report _ m
    obtain ⟨hmade, hdirectory⟩ := makeAll_made (hwf.rewritten hlog.files) m₁.cwd p
    rw [hrun, run_makeDirectories]
    cases h : makeAll m₁.files m₁.cwd p with
    | mk files failure =>
      rw [h] at hmade hdirectory
      refine ⟨m₁, { m₁ with files }, hlog, ⟨rfl, rfl, rfl, rfl, rfl⟩, rfl, hmade, ?_⟩
      cases failure with
      | none => exact .inr ⟨rfl, hdirectory rfl⟩
      | some e => exact .inl ⟨e, rfl⟩
  · exact ⟨m, m, .refl m, .refl m, rfl, .refl hwf, .inl ⟨e, hrun⟩⟩

/-- A directory is seen to at what a text denotes, however that is written. -/
theorem ensureDirectory_toString (path : String) (dryRun : Bool) :
    ensureDirectory (Path.ofString path).toString dryRun = ensureDirectory path dryRun := by
  simp only [ensureDirectory, Path.ofString_toString]

/-- After a failure to see to a directory there is none. -/
theorem ensureDirectory_failed {m m' : Machine} {e : Failure}
    (h : (ensureDirectory p.toString false).run m = .error e m') :
    m'.files.hasDirectory m'.cwd p.toString = false := by
  rcases run_ensureDirectory p m with ⟨m₁, -, hrun⟩ | ⟨e', hrun⟩
  · rw [hrun, run_makeDirectories] at h
    cases hmake : makeAll m₁.files m₁.cwd p with
    | mk files failure =>
      rw [hmake] at h
      cases failure with
      | none => cases h
      | some e =>
        cases h
        exact makeAll_failed hmake
  · -- It was not even looked whether there is one.
    rw [hrun] at h
    cases h
    refine Bool.eq_false_iff.2 fun hd => ?_
    obtain ⟨m'', hok, -⟩ := ensureDirectory_of_directory hd
    rw [hrun] at hok
    cases hok

/-- Seeing to a directory either succeeds, and then there is one and seeing to it again only tells
of it, or fails, and then there is none. In both cases nothing is lost or written but the log, and
all that is new are directories on the way of the path. -/
theorem ensureDirectory_spec (path : String) (m : Machine) (hwf : m.files.WellFormed) :
    ∃ m', ((ensureDirectory path false).run m = .ok () m' ∧
        m'.files.hasDirectory m'.cwd (Path.ofString path).toString = true ∧
        (∃ m'', (ensureDirectory path false).run m' = .ok () m'' ∧ m'.Logged m'' ∧
          ((∀ i, ¬ m.LogsTo i) → m''.files = m'.files)) ∨
      (∃ e, (ensureDirectory path false).run m = .error e m') ∧
        m'.files.hasDirectory m'.cwd (Path.ofString path).toString = false) ∧
      Frame m.LogsTo (fun _ => False) (OnTheWay m'.files m'.cwd (Path.ofString path)) m.files
        m'.files ∧
      m'.files.WellFormed ∧ m.SameScene m' ∧ m'.children = m.children := by
  obtain ⟨m₁, m', hlog, hscene, hchildren, hmade, hend⟩ :=
    ensureDirectory_after (p := Path.ofString path) hwf
  rw [ensureDirectory_toString] at hend
  have hframe : Frame m.LogsTo (fun _ => False) (OnTheWay m'.files m'.cwd (Path.ofString path))
      m.files m'.files := by
    refine (Frame.of_rewritten hlog.files).trans ?_
    rw [hscene.cwd]
    exact hmade.frame.mono (fun _ => False.elim) (fun _ h => h) (fun _ h => h)
  have hsame : m.SameScene m' := hlog.scene.trans hscene
  refine ⟨m', ?_, hframe, hmade.wellFormed, hsame, hchildren.trans hlog.children⟩
  rcases hend with ⟨e, hrun⟩ | ⟨hrun, hd⟩
  · refine .inr ⟨⟨e, hrun⟩, ensureDirectory_failed (m := m) (e := e) ?_⟩
    rwa [ensureDirectory_toString]
  · obtain ⟨m'', hagain, hlog'⟩ := ensureDirectory_of_directory hd
    rw [ensureDirectory_toString] at hagain
    refine .inl ⟨hrun, hd, m'', hagain, hlog', fun hlogs => hlog'.files_eq fun i => ?_⟩
    rw [hsame.logsTo]
    exact hlogs i

/-- A machine with no files. -/
def bareMachine : Machine := .idle .empty .empty []

/-- With nothing there, `/a/b` takes two directories, and no more the second time. -/
theorem ensureDirectory_of_nothing : bareMachine.files.WellFormed ∧
    ∃ m' m'', (ensureDirectory "/a/b" false).run bareMachine = .ok () m' ∧
      (ensureDirectory "/a/b" false).run m' = .ok () m'' ∧ m''.files = m'.files ∧
      m'.files.nodes.size = 3 ∧ Grows bareMachine.files m'.files := by
  have hwf : bareMachine.files.WellFormed := .empty
  have hrun : (ensureDirectory "/a/b" false).run bareMachine =
      .ok () (.idle ((FileSystem.empty.add root "a" (.directory ⟨root, [], false⟩)).add 1 "b"
        (.directory ⟨1, [], false⟩)) .empty []) := by cbv
  have hlogs (i : Inode) : ¬ bareMachine.LogsTo i := by
    simp [Machine.LogsTo, bareMachine, Machine.idle, Log.State.initial]
  obtain ⟨m', hend, hframe, -⟩ := ensureDirectory_spec "/a/b" bareMachine hwf
  rcases hend with ⟨hok, -, m'', hagain, -, hsame⟩ | ⟨⟨e, herror⟩, -⟩
  · refine ⟨hwf, m', m'', hok, hagain, hsame hlogs, ?_, hframe.grows⟩
    rw [hrun] at hok
    cases hok
    rfl
  · rw [hrun] at herror
    cases herror

end Install

end DeviceLauncher
