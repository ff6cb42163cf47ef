import DeviceLauncher.Proofs.Install.Placed
import DeviceLauncher.Proofs.Launch.Again

/-!
# What `init` has put in place

A copy that `init` makes stays in place through the rest of the command, as long as the copies and the
log keep out of each other's way (`Apart`): no source is written, and no file is written by two copies.

* `placed_of_changes`: a copy in place, and other copies that are made since.
* `placed_of_copyAll`: the manifests, one after the other.
* `placed_of_initSteps`: the program and the manifests.

`install_replaces` puts this together with what a single copy does to what it finds at its target.
-/

namespace DeviceLauncher.Launch

open FileSystem Install

variable {context : Context} {m m₁ m' : Machine} {source target : Path}
  {copies others : Path → Path → Prop} {directories : Path → Prop} {logs : Inode → Prop}
  {fs : FileSystem} {cwd : Inode} {manifests : List Manifest}

/-- Whether some copies, and the files that the log writes, keep out of each other's way. -/
structure Apart (copies : Path → Path → Prop) (logs : Inode → Prop) (fs : FileSystem)
    (cwd : Inode) : Prop where
  /-- No copy writes the source of one. -/
  separate : Separate copies fs cwd
  /-- No two copies write the same file. -/
  distinct {source target source' target' : Path} {j : Inode} : copies source target →
    copies source' target' → IsTarget fs cwd source target j →
      IsTarget fs cwd source' target' j → source = source' ∧ target = target'
  /-- The log writes no source and no target. -/
  unlogged {i : Inode} : logs i → ¬ IsSourceOf copies fs cwd i ∧ ¬ IsTargetOf copies fs cwd i

theorem Apart.mono (h : Apart copies logs fs cwd)
    (hothers : ∀ source target, others source target → copies source target) :
    Apart others logs fs cwd where
  separate := h.separate.mono hothers
  distinct hc hc' := h.distinct (hothers _ _ hc) (hothers _ _ hc')
  unlogged {i} hi := by
    refine ⟨?_, fun ht => (h.unlogged hi).2 (ht.mono hothers)⟩
    rintro ⟨source, target, hc, hs⟩
    exact (h.unlogged hi).1 ⟨source, target, hothers _ _ hc, hs⟩

/-! ## Copies that stay in place -/

/-- A copy stays in place while others are made that keep out of its way. -/
theorem placed_of_changes (hwf : m.files.WellFormed)
    (hplaced : Placed m.files m.cwd source target) (hchanges : Changes others directories m m')
    (hapart : Apart copies m.LogsTo m'.files m'.cwd) (hc : copies source target)
    (hothers : ∀ source target, others source target → copies source target)
    (hnot : ¬ others source target) : Placed m'.files m'.cwd source target := by
  rw [← hchanges.scene.cwd] at hplaced
  refine hplaced.of_frame hwf hchanges.frame (fun i hi => ?_) (fun j hj => ?_)
  · rintro (hlog | htarget)
    · exact (hapart.unlogged hlog).1 ⟨source, target, hc, hi⟩
    · exact hapart.separate.not_isTargetOf hc hi (htarget.mono hothers)
  · rintro (hlog | ⟨source', target', hother, hj'⟩)
    · exact (hapart.unlogged hlog).2 ⟨source, target, hc, hj⟩
    · obtain ⟨rfl, rfl⟩ := hapart.distinct hc (hothers _ _ hother) hj hj'
      exact hnot hother

/-- Copies that are made one after the other are all in place at the end, also if nothing is done
since but that the log is written. -/
theorem placed_of_copyAll (hwf : m.files.WellFormed)
    (h : (copyAll false manifests).run m = .ok () m₁) (hlog : m₁.Logged m')
    (hapart : Apart (Among manifests) m.LogsTo m'.files m'.cwd) :
    ∀ source target, Among manifests source target → Placed m'.files m'.cwd source target := by
  induction manifests generalizing m with
  | nil => exact fun _ _ hc => nomatch hc
  | cons a rest ih =>
    obtain ⟨m₂, hcopied, hrest⟩ := copyAll_cons_ok h
    obtain ⟨hwf₂, -⟩ := hcopied.frame hwf
    have hothers : ∀ source target, Among rest source target → Among (a :: rest) source target :=
      fun _ _ => .cons a
    rw [← hcopied.scene.logsTo] at hapart
    have hlater := ih hwf₂ hrest (hapart.mono hothers)
    intro source target hc
    by_cases hmem : Among rest source target
    · exact hlater source target hmem
    · obtain heq | hmem' := List.mem_cons.1 hc
      · cases heq
        have hcopies : Changes (Among rest) (fun _ => False) m₂ m₁ :=
          Action.after_of_ok hrest ▸ copyAll_changes hwf₂ fun b hb => hb
        have hchanges := hcopies.trans (.of_logged hcopies.wellFormed hlog)
        exact placed_of_changes hwf₂ (hcopied.placed hwf) hchanges hapart hc hothers hmem
      · exact absurd hmem' hmem

/-! ## The steps -/

/-- A program that is not where it would be installed is copied there. -/
theorem Installs.exists_copied (h : Installs context m m')
    (hsource : context.config.executable m.environment m.argv = .ok source)
    (htarget : context.config.installedBinary m.environment = .ok target)
    (hinstalled : isInstalled m.files m.cwd source target = .ok false) :
    ∃ m₁, Copied source target m m₁ ∧ m₁.Logged m' := by
  cases h with
  | already hsource' htarget' _ hinstalled' _ =>
    cases hsource.symm.trans hsource'
    cases htarget.symm.trans htarget'
    cases hinstalled.symm.trans hinstalled'
  | @copy _ _ m₁ hsource' htarget' _ _ hcopied hm =>
    cases hsource.symm.trans hsource'
    cases htarget.symm.trans htarget'
    exact ⟨m₁, hcopied, hm ▸ Machine.logged_report _ m₁⟩

/-- What the steps of `init` have copied is in place at the end, also if nothing is done since but
that the log is written. -/
theorem placed_of_initSteps {r : Pipeline.Result} {last : Machine} (hdry : context.dryRun = false)
    (hwf : m.files.WellFormed) (h : (Pipeline.run context initSteps).run m = .ok r m')
    (hlast : m'.Logged last)
    (hapart : Apart (Copies context.config m) m.LogsTo last.files last.cwd) :
    ∀ source target, Copies context.config m source target →
      Placed last.files last.cwd source target := by
  obtain ⟨-, m₁, m₂, hbinary, hdirectory, hlist⟩ := (run_initSteps_eq_ok_iff hdry).1 h
  obtain ⟨manifests, m₃, p, hmanifests, hcopies, -, rfl⟩ := (copyManifests_eq_ok_iff hdry).1 hlist
  have hlog := Machine.logged_report (.runningStep installBinary.id) m
  have hlog₁ := Machine.logged_report (.runningStep configDirectory.id) m₁
  have hlog₂ := Machine.logged_report (.runningStep copyManifests.id) m₂
  have hlog₃ := (Machine.logged_report (.manifestsInstalled p.toString manifests.length) m₃).trans
    hlast
  have hwf₀ := hwf.rewritten hlog.files
  have hwf₁ := (hbinary.wellFormed hwf₀).rewritten hlog₁.files
  have hdirectories : Changes (Among manifests) (fun _ => True)
      (m₁.report (.runningStep configDirectory.id)) m₂ :=
    Action.after_of_ok hdirectory ▸ configDirectory_changes hdry hwf₁ fun _ _ => trivial
  have hwf₂ := hdirectories.wellFormed.rewritten hlog₂.files
  have hscene₁ := (hlog.scene.trans hbinary.scene).trans hlog₁.scene
  have hscene₂ := (hscene₁.trans hdirectories.scene).trans hlog₂.scene
  rw [hscene₂.environment] at hmanifests
  have hamong : ∀ source target, Among manifests source target →
      Copies context.config m source target := fun _ _ => .manifest hmanifests
  have hlater := placed_of_copyAll hwf₂ hcopies hlog₃ (hscene₂.logsTo ▸ hapart.mono hamong)
  rintro source target hc
  by_cases hmem : Among manifests source target
  · exact hlater source target hmem
  · cases hc with
    | manifest hmanifests' hmem' =>
      cases hmanifests.symm.trans hmanifests'
      exact absurd hmem' hmem
    | binary hsource htarget hinstalled =>
      -- The program is copied first, and the other two steps leave the copy alone.
      obtain ⟨mb, hcopied, hlogb⟩ := hbinary.exists_copied
        (by rwa [hlog.scene.environment, hlog.scene.argv]) (by rwa [hlog.scene.environment])
        (by rwa [isInstalled_of_logged hlog])
      obtain ⟨hwfb, -⟩ := hcopied.frame hwf₀
      have hrest : Changes (Among manifests) (fun _ => True)
          (m₂.report (.runningStep copyManifests.id)) m₃ :=
        Action.after_of_ok hcopies ▸ copyAll_changes hwf₂ fun b hb => hb
      have hchanges : Changes (Among manifests) (fun _ => True) mb last :=
        (((Changes.of_logged hwfb (hlogb.trans hlog₁)).trans hdirectories).trans
          (.of_logged hdirectories.wellFormed hlog₂)).trans
          (hrest.trans (.of_logged hrest.wellFormed hlog₃))
      have hapartb : Apart (Copies context.config m) mb.LogsTo last.files last.cwd := by
        rwa [(hlog.scene.trans hcopied.scene).logsTo]
      exact placed_of_changes hwfb (hcopied.placed hwf₀) hchanges hapartb
        (.binary hsource htarget hinstalled) hamong hmem

/-! ## What is replaced -/

/-- A copy that succeeds is in place at its target, and at the path given for it if there was nothing or
a regular file. What `init` has copied is in place when it has ended well, as long as its copies and the
log keep out of each other's way: at each path given for a copy there is a regular file like the source
then, unless there is a directory or the device that forgets everything. -/
theorem install_replaces (children : Child.Behaviour) (entry : Log.Entry) :
    (∀ (source target : String) (m m' : Machine), m.files.WellFormed →
      (installFile source target false).run m = .ok () m' →
        let s := Path.ofString source
        let t := Path.ofString target
        Placed m'.files m'.cwd s t ∧
          (IsReplaceable m.files m.cwd t → HasCopy m'.files m'.cwd s t)) ∧
    ∀ (config : Config) (host : Option String) (m m' : Machine) (r : Pipeline.Result),
      m.files.WellFormed →
      (runCommand children entry "init" config host false).run m = .ok r m' →
      Apart (Copies config m) m.LogsTo m'.files m'.cwd →
        ∀ source target, Copies config m source target →
          Placed m'.files m'.cwd source target ∧
          (HasCopy m'.files m'.cwd source target ∨
            m'.files.hasDirectory m'.cwd target.toString = true ∨
            HasNull m'.files m'.cwd target) := by
  refine ⟨fun source target m m' hwf h => ?_, fun config host m m' r hwf h hapart => ?_⟩
  · have hcopied := (installFile_ok_iff_copied source target).1 h
    exact ⟨hcopied.placed hwf, hcopied.hasCopy hwf⟩
  · intro source target hc
    have hinit : stepsOf? children "init" = some initSteps := rfl
    rw [run_runCommand hinit] at h
    cases hsteps : (Pipeline.run ⟨config, host.getD "", false⟩ initSteps).run m with
    | error e m₁ =>
      rw [hsteps] at h
      cases h
    | ok result m₁ =>
      rw [hsteps] at h
      cases h
      have hplaced := placed_of_initSteps rfl hwf hsteps (logged_finished entry "init" r m₁) hapart
        source target hc
      exact ⟨hplaced, hplaced.cases⟩

/-- The files that `init` leaves on the machine with `/t` alone, if it copies `/t` to `/m` too. -/
def copiedFiles : FileSystem :=
  (toolFiles.add root "c" (.file ⟨ByteArray.empty, 0o755, 0⟩)).add root "m"
    (.file ⟨ByteArray.empty, 0o755, 0⟩)

theorem copies_of_tool (h : Copies (toolConfig [("/t", "m")]) toolMachine source target) :
    source = Path.ofString "/t" ∧ (target = Path.ofString "/c" ∨ target = Path.ofString "/m") := by
  cases h with
  | binary hsource htarget _ =>
    have hsource' : (toolConfig [("/t", "m")]).executable toolMachine.environment toolMachine.argv =
        .ok (Path.ofString "/t") := by cbv
    have htarget' : (toolConfig [("/t", "m")]).installedBinary toolMachine.environment =
        .ok (Path.ofString "/c") := by cbv
    exact ⟨Except.ok.inj (hsource.symm.trans hsource'),
      .inl (Except.ok.inj (htarget.symm.trans htarget'))⟩
  | manifest hmanifests hmem =>
    have hmanifests' : (toolConfig [("/t", "m")]).manifests toolMachine.environment =
        .ok [⟨Path.ofString "/t", Path.ofString "/m"⟩] := by cbv
    cases hmanifests.symm.trans hmanifests'
    cases List.mem_singleton.1 hmem
    exact ⟨rfl, .inr rfl⟩

/-- The three files are different ones, and there is no log. -/
theorem apart_of_tool : Apart (Copies (toolConfig [("/t", "m")]) toolMachine) toolMachine.LogsTo
    copiedFiles root := by
  have hsource {i : Inode} (hi : copiedFiles.find root (Path.ofString "/t").toString = .ok i) :
      i = 1 := by
    have h : copiedFiles.find root (Path.ofString "/t").toString = .ok 1 := by cbv
    exact Except.ok.inj (hi.symm.trans h)
  have hprogram {i : Inode}
      (hi : IsTarget copiedFiles root (Path.ofString "/t") (Path.ofString "/c") i) : i = 2 := by
    have h : copiedFiles.find root
        (targetOf copiedFiles root (Path.ofString "/t") (Path.ofString "/c")).path = .ok 2 := by cbv
    exact Except.ok.inj (hi.symm.trans h)
  have hmanifest {i : Inode}
      (hi : IsTarget copiedFiles root (Path.ofString "/t") (Path.ofString "/m") i) : i = 3 := by
    have h : copiedFiles.find root
        (targetOf copiedFiles root (Path.ofString "/t") (Path.ofString "/m")).path = .ok 3 := by cbv
    exact Except.ok.inj (hi.symm.trans h)
  refine ⟨?_, fun hc hc' ht ht' => ?_, fun {i} hi => absurd hi (toolMachine_logsTo i)⟩
  · rintro i ⟨_, _, hc, ht⟩ ⟨_, _, hc', hs⟩
    obtain ⟨rfl, rfl | rfl⟩ := copies_of_tool hc <;> obtain ⟨rfl, -⟩ := copies_of_tool hc'
    · exact absurd ((hsource hs).symm.trans (hprogram ht)) (by decide)
    · exact absurd ((hsource hs).symm.trans (hmanifest ht)) (by decide)
  · obtain ⟨rfl, rfl | rfl⟩ := copies_of_tool hc <;> obtain ⟨rfl, rfl | rfl⟩ := copies_of_tool hc'
    · exact ⟨rfl, rfl⟩
    · exact absurd ((hprogram ht).symm.trans (hmanifest ht')) (by decide)
    · exact absurd ((hmanifest ht).symm.trans (hprogram ht')) (by decide)
    · exact ⟨rfl, rfl⟩

/-- A program and a manifest are copied to new files. -/
theorem install_replaces_of_tool : toolFiles.WellFormed ∧
    (∃ m', (installFile "/t" "/c" false).run toolMachine = .ok () m' ∧
      HasCopy m'.files m'.cwd (Path.ofString "/t") (Path.ofString "/c")) ∧
    ∃ r m', (runCommand noChildren .command "init" (toolConfig [("/t", "m")]) none false).run
        toolMachine = .ok r m' ∧
      Placed m'.files m'.cwd (Path.ofString "/t") (Path.ofString "/m") := by
  obtain ⟨hinstall, hinit⟩ := install_replaces noChildren .command
  have hinstalled : (installFile "/t" "/c" false).run toolMachine = .ok ()
      { toolMachine with
        files := toolFiles.add root "c" (.file ⟨ByteArray.empty, 0o755, 0⟩) } := by cbv
  have hrun : (runCommand noChildren .command "init" (toolConfig [("/t", "m")]) none false).run
      toolMachine = .ok ⟨.code 0, ["10_install_binary", "20_config_dir", "30_copy_manifests"], none⟩
        { toolMachine with files := copiedFiles } := by cbv
  have hfree : toolFiles.find root (Path.ofString "/c").toString = .error (.errno .notFound) := by
    cbv
  have hreplaceable : IsReplaceable toolMachine.files toolMachine.cwd (Path.ofString "/c") := by
    intro j hj
    cases hfree.symm.trans hj
  have hmanifests : (toolConfig [("/t", "m")]).manifests toolMachine.environment =
      .ok [⟨Path.ofString "/t", Path.ofString "/m"⟩] := by cbv
  exact ⟨toolFiles_wellFormed,
    ⟨_, hinstalled, (hinstall _ _ _ _ toolFiles_wellFormed hinstalled).2 hreplaceable⟩, _, _, hrun,
    (hinit _ _ _ _ _ toolFiles_wellFormed hrun apart_of_tool _ _
      (.manifest hmanifests List.mem_cons_self)).1⟩

/-- Files with `/t` among them, and a directory `/d`. -/
def boxFiles : FileSystem := toolFiles.add root "d" (.directory ⟨root, [], false⟩)

/-- A directory is not replaced: the copy goes into it. -/
theorem directory_not_replaced : ¬ ∀ (source target : String) (m m' : Machine),
    m.files.WellFormed → (installFile source target false).run m = .ok () m' →
      HasCopy m'.files m'.cwd (Path.ofString source) (Path.ofString target) := by
  intro h
  have hroot : toolFiles.directory? root = some ⟨root, [("t", 1)], false⟩ := rfl
  have hwf : boxFiles.WellFormed := .add toolFiles_wellFormed hroot
    ⟨by decide, by decide, by decide, by decide, by decide, by decide⟩ rfl .directory
  let files : FileSystem := boxFiles.add 2 "t" (.file ⟨ByteArray.empty, 0o755, 0⟩)
  have hrun : (installFile "/t" "/d" false).run (.idle boxFiles .empty []) =
      .ok () (.idle files .empty []) := by cbv
  obtain ⟨i, f, j, -, -, hj, hf⟩ := h "/t" "/d" _ _ hwf hrun
  have hfound : files.find root (Path.ofString "/d").toString = .ok 2 := by cbv
  cases hfound.symm.trans hj
  cases hf

end DeviceLauncher.Launch
