import DeviceLauncher.Proofs.Launch.DryRun

/-!
# What a dry run foretells

A dry run tells what it would do, and that is what the same command does in earnest
(`runCommand_foretold`), although only the latter finds what its own steps have changed.

* `Deed`: what a command does to the world, and what its notices say of that (`Notice.done?`,
  `Notice.planned?`).
* `Action.Foretold R p x y m n`: what `x` comes to from the machine `m`, if it has the property `p`,
  the action `y` comes to from `n`, and the machines left are in the relation `R`.
* `Beside start m n`: from `start` a command has come to `m`, and its dry run to `n`, with the same
  deeds so far.

Each step is foretold by itself, in a machine beside its own. What a step checks is there already
before the command (the sources of the manifests), is made by the step itself, or, with the first
step, has not been changed yet.
-/

namespace DeviceLauncher

/-! ## Two actions side by side -/

namespace Action

variable {α β : Type} {x y : Action α} {f g : α → Action β} {R S : Machine → Machine → Prop}
  {p : α → Prop} {q : β → Prop} {m n : Machine}

/-- Whether what one action comes to from a machine `m`, if it has a property, is what another one
comes to from `n`, and the machines they leave are in a relation. -/
def Foretold (R : Machine → Machine → Prop) (p : α → Prop) (x y : Action α) (m n : Machine) :
    Prop :=
  ∀ a m', x.run m = .ok a m' → p a → ∃ n', y.run n = .ok a n' ∧ R m' n'

namespace Foretold

theorem pure (a : α) (h : R m n) : Foretold R p (Pure.pure a) (Pure.pure a) m n := by
  intro b m' hrun _
  cases hrun
  exact ⟨n, rfl, h⟩

/-- What only one of the two does, before the rest. -/
theorem left {y : Action β} (h : ∀ a m', x.run m = .ok a m' → Foretold R q (f a) y m' n) :
    Foretold R q (x >>= f) y m n := by
  intro b m' hrun
  rw [EStateM.run_bind] at hrun
  cases hfirst : x.run m with
  | error e m₁ =>
    rw [hfirst] at hrun
    cases hrun
  | ok a m₁ =>
    rw [hfirst] at hrun
    exact h a m₁ hfirst b m' hrun

/-- The first action may come to a value without the property if the second cannot make up for
it. -/
theorem bind (hx : Foretold S p x y m n)
    (hf : ∀ a m' n', p a → S m' n' → Foretold R q (f a) (g a) m' n')
    (hnot : ∀ a, ¬ p a → Returns (¬ q ·) (f a)) : Foretold R q (x >>= f) (y >>= g) m n := by
  refine left fun a m₁ hfirst b m' hrun hb => ?_
  by_cases ha : p a
  · obtain ⟨n₁, hdry, hbeside⟩ := hx a m₁ hfirst ha
    rw [EStateM.run_bind, hdry]
    exact hf a m₁ n₁ ha hbeside b m' hrun hb
  · exact absurd hb (hnot a ha m₁ b m' hrun)

theorem andThen (hx : Foretold S (fun _ => True) x y m n)
    (hf : ∀ a m' n', S m' n' → Foretold R q (f a) (g a) m' n') :
    Foretold R q (x >>= f) (y >>= g) m n :=
  bind hx (fun a m' n' _ => hf a m' n') fun _ hno => absurd trivial hno

theorem get {f g : Machine → Action β} (h : Foretold R q (f m) (g n) m n) :
    Foretold R q (MonadState.get >>= f) (MonadState.get >>= g) m n := h

theorem report {f g : Unit → Action β} {a b : Log.Notice}
    (h : Foretold R q (f ()) (g ()) (m.report a) (n.report b)) :
    Foretold R q (Action.report a >>= f) (Action.report b >>= g) m n := h

theorem ofExcept {r : Except Failure α} (h : ∀ a, r = .ok a → Foretold R q (f a) (g a) m n) :
    Foretold R q (Action.ofExcept r >>= f) (Action.ofExcept r >>= g) m n := by
  cases r with
  | error e => exact nofun
  | ok a => exact h a rfl

theorem setting {context context' : Launch.Context} {F : Config → Environment → Except Failure α}
    (hconfig : context'.config = context.config) (henvironment : n.environment = m.environment)
    (h : ∀ a, F context.config m.environment = .ok a → Foretold R q (f a) (g a) m n) :
    Foretold R q (Launch.setting context F >>= f) (Launch.setting context' F >>= g) m n := by
  have hfirst := ofExcept h
  rw [← hconfig, ← henvironment] at hfirst
  intro b m' hrun hb
  exact hfirst b m' (by rwa [hconfig, henvironment]) hb

theorem ite {c : Prop} [Decidable c] {x' y' : Action α} (h : Foretold R p x y m n)
    (h' : Foretold R p x' y' m n) :
    Foretold R p (if c then x else x') (if c then y else y') m n := by
  split
  · exact h
  · exact h'

/-- A check that may fail, before both actions. -/
theorem check {c : Prop} [Decidable c] (e : Failure) (h : Foretold R p x y m n) :
    Foretold R p (if c then (do MonadExcept.throw e; x) else x)
      (if c then (do MonadExcept.throw e; y) else y) m n :=
  ite nofun h

end Foretold

end Action

/-! ## Deeds -/

/-- What a command does, as far as a dry run tells of it. -/
inductive Deed where
  | copy (source target : String)
  | command (argv : List String)
  /-- The program is left as it is installed. -/
  | keep (path : String)
  deriving DecidableEq

namespace Log.Notice

/-- What a notice says is being done. -/
def done? : Notice → Option Deed
  | copy source target => some (.copy source target)
  | command argv => some (.command argv)
  | alreadyInstalled path => some (.keep path)
  | _ => none

/-- What a notice of a dry run says would be done. -/
def planned? : Notice → Option Deed
  | wouldCopy source target => some (.copy source target)
  | command argv => some (.command argv)
  | alreadyInstalled path => some (.keep path)
  | _ => none

theorem level_of_done? {a : Notice} (h : a.done? ≠ none) : a.level = .info := by
  cases a <;> first | rfl | exact absurd rfl h

theorem level_of_planned? {a : Notice} (h : a.planned? ≠ none) : a.level = .info := by
  cases a <;> first | rfl | exact absurd rfl h

end Log.Notice

theorem Log.State.passes_of_info {s : Log.State} {l : Log.Level} (hs : s.level ≤ Log.Level.info)
    (hl : Log.Level.info ≤ l) : s.passes l = true := by
  have hpositive : 0 < l := lt_of_lt_of_le (by decide) hl
  simp [passes, hpositive, hs.trans hl]

namespace Machine

/-- Whether a machine has come from another one with some notices kept in the log. -/
structure Kept (start m : Machine) (notices : List Log.Notice) : Prop where
  level : m.log.level = start.log.level
  notices : m.log.notices = start.log.notices ++ notices

variable {start m n : Machine} {notices rest : List Log.Notice}

theorem Kept.refl (m : Machine) : m.Kept m [] := ⟨rfl, (List.append_nil _).symm⟩

theorem Kept.trans (h : start.Kept m notices) (h' : m.Kept n rest) : start.Kept n (notices ++ rest) :=
  ⟨h'.level.trans h.level, by rw [h'.notices, h.notices, List.append_assoc]⟩

theorem Kept.report (h : start.Kept m notices) (a : Log.Notice) :
    start.Kept (m.report a) (notices ++ if start.log.passes a.level then [a] else []) := by
  have hpasses : m.log.passes a.level = start.log.passes a.level := by
    rw [Log.State.passes, Log.State.passes, h.level]
  refine ⟨(m.log_report a).1.trans h.level, ?_⟩
  rw [notices_report, hpasses, h.notices]
  split
  · rw [List.append_assoc]
  · rw [List.append_nil]

/-- Deeds are always kept, by a log that keeps what is of level `INFO`. -/
theorem filterMap_kept {deed? : Log.Notice → Option Deed}
    (hdeed : ∀ {a}, deed? a ≠ none → a.level = .info)
    (hlevel : start.log.level ≤ Log.Level.info) (a : Log.Notice) :
    (if start.log.passes a.level then [a] else []).filterMap deed? = (deed? a).toList := by
  cases ha : deed? a with
  | none => split <;> simp [ha]
  | some d =>
    have hinfo : a.level = .info := hdeed (by rw [ha]; exact nofun)
    have hpass : start.log.passes a.level = true := by
      rw [hinfo]
      exact Log.State.passes_of_info hlevel (le_refl Log.Level.info)
    simp [hpass, ha]

/-- From a start, a command has come to `m`, and its dry run to `n`, with the same deeds so far. -/
structure Beside (start m n : Machine) : Prop where
  info : start.log.level ≤ Log.Level.info
  scene : m.SameScene n
  logged : start.Logged n
  deeds : ∃ done planned, start.Kept m done ∧ start.Kept n planned ∧
    planned.filterMap Log.Notice.planned? = done.filterMap Log.Notice.done?

namespace Beside

theorem refl (h : m.log.level ≤ Log.Level.info) : Beside m m m :=
  ⟨h, .refl m, .refl m, [], [], .refl m, .refl m, rfl⟩

/-- Both tell of the same deed. -/
theorem report (h : Beside start m n) {a b : Log.Notice} (hab : b.planned? = a.done?) :
    Beside start (m.report a) (n.report b) := by
  obtain ⟨done, planned, hdone, hplanned, hsame⟩ := h.deeds
  refine ⟨h.info, ((logged_report a m).scene.symm.trans h.scene).trans (logged_report b n).scene,
    h.logged.trans (logged_report b n), _, _, hdone.report a, hplanned.report b, ?_⟩
  rw [List.filterMap_append, List.filterMap_append, hsame,
    filterMap_kept Log.Notice.level_of_done? h.info,
    filterMap_kept Log.Notice.level_of_planned? h.info, hab]

/-- What is done in earnest leaves the log as it is. -/
theorem act (h : Beside start m n) {m' : Machine} (hscene : m.SameScene m')
    (hlog : m'.log = m.log) : Beside start m' n := by
  obtain ⟨done, planned, hdone, hplanned, hsame⟩ := h.deeds
  exact ⟨h.info, hscene.symm.trans h.scene, h.logged, done, planned,
    ⟨hlog ▸ hdone.level, hlog ▸ hdone.notices⟩, hplanned, hsame⟩

/-- What only one of them tells is no deed. -/
theorem report_left (h : Beside start m n) {a : Log.Notice} (ha : a.done? = none) :
    Beside start (m.report a) n := by
  obtain ⟨done, planned, hdone, hplanned, hsame⟩ := h.deeds
  refine ⟨h.info, (logged_report a m).scene.symm.trans h.scene, h.logged, _, planned,
    hdone.report a, hplanned, ?_⟩
  rw [List.filterMap_append, filterMap_kept Log.Notice.level_of_done? h.info, ha, hsame]
  exact (List.append_nil _).symm

theorem report_right (h : Beside start m n) {b : Log.Notice} (hb : b.planned? = none) :
    Beside start m (n.report b) := by
  obtain ⟨done, planned, hdone, hplanned, hsame⟩ := h.deeds
  refine ⟨h.info, h.scene.trans (logged_report b n).scene, h.logged.trans (logged_report b n), done,
    _, hdone, hplanned.report b, ?_⟩
  rw [List.filterMap_append, filterMap_kept Log.Notice.level_of_planned? h.info, hb, hsame]
  exact List.append_nil _

end Beside

end Machine

open DeviceLauncher.Machine (Beside)
open DeviceLauncher.Action (Foretold)

variable {start m n : Machine}

/-! ## What the steps are made of -/

namespace Install

/-- A copy is foretold if its source is there for the dry run too. -/
theorem installFile_foretold (h : Beside start m n) {source : Path}
    (hs : m.HasFile source → n.HasFile source) (target : Path) :
    Foretold (Beside start) (fun _ => True) (installFile source.toString target.toString false)
      (installFile source.toString target.toString true) m n := by
  intro a m' hrun _
  obtain ⟨rfl, hi, hf, -, rfl⟩ := installFile_ok_iff.1 hrun
  have hfile : m.HasFile source := by
    have hlog := Machine.logged_report (.copy source.toString target.toString) m
    rw [← Machine.hasFile_of_logged hlog]
    exact ⟨_, _, by rw [hlog.files.find, hlog.scene.cwd, hi], hf⟩
  refine ⟨_, run_installFile_dry (hs hfile), ?_⟩
  exact (h.report rfl).act ⟨rfl, rfl, rfl, rfl, rfl⟩ rfl

theorem ensureDirectory_foretold (h : Beside start m n) (p : Path) :
    Foretold (Beside start) (fun _ => True) (ensureDirectory p.toString false)
      (ensureDirectory p.toString true) m n := by
  intro a m' hrun _
  refine ⟨n.report (.wouldMakeDirectory p.toString), ?_, ?_⟩
  · simp only [ensureDirectory, Path.ofString_toString, if_true, Action.run_report]
  · rcases run_ensureDirectory p m with ⟨m₁, hm₁, hmake⟩ | ⟨e, hfail⟩
    · have hbeside : Beside start m₁ n := by
        obtain rfl | rfl := hm₁
        · exact h
        · exact h.report_left rfl
      rw [hmake, run_makeDirectories] at hrun
      split at hrun
      · cases hrun
        refine Beside.report_right ?_ rfl
        exact hbeside.act ⟨rfl, rfl, rfl, rfl, rfl⟩ rfl
      · cases hrun
    · rw [hfail] at hrun
      cases hrun

end Install

theorem Child.await_ok {children : Behaviour} {child : Start} {code : Int} {m' : Machine}
    (h : (await children child).run m = .ok code m') : m.SameScene m' ∧ m'.log = m.log := by
  simp only [await, EStateM.run_bind, EStateM.run_get, EStateM.run_set] at h
  split at h
  · cases h
  · cases h
    exact ⟨⟨rfl, rfl, rfl, rfl, rfl⟩, rfl⟩

/-- A command is foretold, as far as it ends with status zero. -/
theorem Child.run_foretold (h : Beside start m n) (children : Behaviour) (argv : List String)
    (extra : List (String × String)) (directory : Option String) :
    Foretold (Beside start) (fun outcome => outcome.status = 0)
      (run children argv extra directory false) (run children argv extra directory true) m n := by
  have started {m n : Machine} (h : Beside start m n) :
      Foretold (Beside start) (fun outcome => outcome.status = 0)
        (do let environment := (← get).environment.overlay extra
            let code ← await children ⟨argv, environment, directory⟩
            if code != 0 then Action.report (.commandFailed code argv)
            return ⟨argv, exitStatus code⟩ : Action Outcome) (pure ⟨argv, 0⟩) m n := by
    refine .left fun _ _ hget => ?_
    cases hget
    refine .left fun code m₁ hawait => ?_
    obtain ⟨hscene, hlog⟩ := await_ok hawait
    intro outcome m' hrun hzero
    by_cases hcode : code = 0
    · subst hcode
      cases hrun
      exact ⟨n, rfl, h.act hscene hlog⟩
    · rw [if_pos (by simpa using hcode)] at hrun
      cases hrun
      exact absurd (exitStatus_eq_zero_iff.1 hzero) hcode
  unfold run
  refine .report ?_
  simp only [Bool.false_eq_true, if_false, if_true]
  exact .ite (.report (started (h.report rfl |>.report rfl))) (started (h.report rfl))

namespace Launch

/-! ## The steps -/

section

variable {config : Config} {host : String}

/-- The first step finds what was there at the start. -/
theorem installBinary_foretold (h : Beside start m n) (hstart : start.Logged m) :
    Foretold (Beside start) (·.isZero) (installBinary.run ⟨config, host, false⟩)
      (installBinary.run ⟨config, host, true⟩) m n := by
  refine .get ?_
  rw [h.scene.argv]
  refine .setting rfl h.scene.environment fun source _ =>
    .setting rfl h.scene.environment fun target _ => .check _ <| .get ?_
  have hinstalled : isInstalled n.files n.cwd source target =
      isInstalled m.files m.cwd source target :=
    (isInstalled_of_logged h.logged source target).trans
      (isInstalled_of_logged hstart source target).symm
  rw [hinstalled]
  refine .ofExcept fun installed _ => .ite ?_ ?_
  · exact .report (.pure _ (h.report rfl))
  · have hsource : m.HasFile source → n.HasFile source := fun hm =>
      (Machine.hasFile_of_logged h.logged source).2
        ((Machine.hasFile_of_logged hstart source).1 hm)
    exact .andThen (Install.installFile_foretold h hsource target) fun _ _ _ h =>
      .report (.pure _ (h.report rfl))

theorem configDirectory_foretold (h : Beside start m n) :
    Foretold (Beside start) (·.isZero) (configDirectory.run ⟨config, host, false⟩)
      (configDirectory.run ⟨config, host, true⟩) m n :=
  .setting rfl h.scene.environment fun directory _ =>
    .andThen (Install.ensureDirectory_foretold h directory) fun _ _ _ h => .pure _ h

theorem copyAll_foretold {manifests : List Manifest} (h : Beside start m n)
    (hs : ∀ a ∈ manifests, start.HasFile a.source) :
    Foretold (Beside start) (fun _ => True) (copyAll false manifests) (copyAll true manifests)
      m n := by
  induction manifests generalizing m n with
  | nil => exact .pure _ h
  | cons a rest ih =>
    rw [List.forall_mem_cons] at hs
    have hsource : n.HasFile a.source := (Machine.hasFile_of_logged h.logged a.source).2 hs.1
    exact .andThen (Install.installFile_foretold h (fun _ => hsource) _) fun _ _ _ h => ih h hs.2

theorem copyManifests_foretold (h : Beside start m n)
    (hs : ∀ manifests, config.manifests start.environment = .ok manifests →
      ∀ a ∈ manifests, start.HasFile a.source) :
    Foretold (Beside start) (·.isZero) (copyManifests.run ⟨config, host, false⟩)
      (copyManifests.run ⟨config, host, true⟩) m n := by
  refine .setting rfl h.scene.environment fun manifests hmanifests => ?_
  have hsame : m.environment = start.environment :=
    h.scene.environment.symm.trans h.logged.scene.environment
  rw [hsame] at hmanifests
  exact .andThen (copyAll_foretold h (hs manifests hmanifests)) fun _ m' n' h =>
    .setting rfl h.scene.environment fun directory _ => .report (.pure _ (h.report rfl))

theorem runChild_foretold (h : Beside start m n) (children : Child.Behaviour)
    (command : Config → Except Failure (List String)) :
    Foretold (Beside start) (·.isZero) (runChild children ⟨config, host, false⟩ command)
      (runChild children ⟨config, host, true⟩ command) m n :=
  .ofExcept fun argv _ => .ofExcept fun extra _ =>
    .setting rfl h.scene.environment fun directory _ =>
      .bind (Child.run_foretold h children argv extra _) (fun _ _ _ _ h => .pure _ h)
        fun outcome hcode => .pure (by simpa [Status.isZero] using hcode)

theorem runTarget_foretold (h : Beside start m n) (children : Child.Behaviour) :
    Foretold (Beside start) (·.isZero) ((runTarget children).run ⟨config, host, false⟩)
      ((runTarget children).run ⟨config, host, true⟩) m n :=
  .ofExcept fun _ _ => .report (runChild_foretold (h.report rfl) children _)

end

/-! ## The commands -/

/-- A step and those after it, if each of the two is foretold. -/
theorem runFrom_cons_foretold {context context' : Context} {step : Step} {rest : List Step}
    {ran : List String} {status : Status}
    (hstep : Foretold (Beside start) (·.isZero) (step.run context) (step.run context')
      (m.report (.runningStep step.id)) (n.report (.runningStep step.id)))
    (hrest : ∀ m n ran status, Beside start m n → Foretold (Beside start) (·.ok)
      (Pipeline.runFrom context ran status rest) (Pipeline.runFrom context' ran status rest) m n) :
    Foretold (Beside start) (·.ok) (Pipeline.runFrom context ran status (step :: rest))
      (Pipeline.runFrom context' ran status (step :: rest)) m n := by
  refine .report (.bind hstep (fun s m' n' hs h => ?_) fun s hs => ?_)
  · rw [if_pos hs, if_pos hs]
    exact hrest _ _ _ _ h
  · rw [if_neg hs]
    exact .after fun _ => .pure hs

/-- A pipeline is foretold if each of its steps is. -/
theorem runFrom_foretold {context context' : Context} {steps : List Step}
    (hsteps : ∀ step ∈ steps, ∀ {m n}, Beside start m n →
      Foretold (Beside start) (·.isZero) (step.run context) (step.run context') m n)
    {m n : Machine} (ran : List String) (status : Status) (h : Beside start m n) :
    Foretold (Beside start) (·.ok) (Pipeline.runFrom context ran status steps)
      (Pipeline.runFrom context' ran status steps) m n := by
  induction steps generalizing m n ran status with
  | nil => exact .pure _ h
  | cons step rest ih =>
    rw [List.forall_mem_cons] at hsteps
    exact runFrom_cons_foretold (hsteps.1 (h.report rfl)) fun _ _ ran status =>
      ih hsteps.2 ran status

/-- A command's pipeline is foretold. -/
theorem run_foretold {children : Child.Behaviour} {command : String} {steps : List Step}
    (hcommand : stepsOf? children command = some steps) {config : Config}
    (hinfo : m.log.level ≤ Log.Level.info)
    (hsources : command = "init" → ∀ manifests, config.manifests m.environment = .ok manifests →
      ∀ a ∈ manifests, m.HasFile a.source) (host : String) :
    Foretold (Beside m) (·.ok) (Pipeline.run ⟨config, host, false⟩ steps)
      (Pipeline.run ⟨config, host, true⟩ steps) m m := by
  have hstart := Beside.refl hinfo
  obtain ⟨hinit, rfl⟩ | ⟨-, rfl⟩ := stepsOf?_cases hcommand
  · refine runFrom_cons_foretold (installBinary_foretold (hstart.report rfl)
      (Machine.logged_report _ m)) fun _ _ ran status => runFrom_foretold ?_ ran status
    simp only [List.forall_mem_cons]
    exact ⟨configDirectory_foretold, fun h => copyManifests_foretold h (hsources hinit), nofun⟩
  · refine runFrom_foretold ?_ [] (.code 0) hstart
    simp only [runSteps, List.forall_mem_cons]
    exact ⟨fun h => runChild_foretold h children _, fun h => runTarget_foretold h children, nofun⟩

/-- What a command does that ends well is what its dry run tells of at the start, in the same order,
and the results are the same. -/
theorem runCommand_foretold {children : Child.Behaviour} {command : String} {steps : List Step}
    (hcommand : stepsOf? children command = some steps) (entry : Log.Entry) {config : Config}
    (host : Option String) (hinfo : m.log.level ≤ Log.Level.info)
    (hsources : command = "init" → ∀ manifests, config.manifests m.environment = .ok manifests →
      ∀ a ∈ manifests, m.HasFile a.source) {r : Pipeline.Result} {m' : Machine}
    (hrun : (runCommand children entry command config host false).run m = .ok r m')
    (hok : r.ok = true) :
    ∃ n' done planned, (runCommand children entry command config host true).run m = .ok r n' ∧
      m'.log.notices = m.log.notices ++ done ∧ n'.log.notices = m.log.notices ++ planned ∧
      planned.filterMap Log.Notice.planned? = done.filterMap Log.Notice.done? := by
  rw [run_runCommand hcommand] at hrun
  cases hsteps : (Pipeline.run ⟨config, host.getD "", false⟩ steps).run m with
  | error e m₁ =>
    rw [hsteps] at hrun
    cases hrun
  | ok r₁ m₁ =>
    rw [hsteps] at hrun
    cases hrun
    obtain ⟨n₁, hdry, hbeside⟩ := run_foretold hcommand hinfo hsources _ r m₁ hsteps hok
    rw [if_pos hok, run_runCommand hcommand, hdry]
    simp only [if_pos hok]
    have hlast : Beside m (m₁.report (.finished entry command r.ranSteps))
        (n₁.report (.finished entry command r.ranSteps)) := hbeside.report rfl
    obtain ⟨done, planned, hdone, hplanned, hsame⟩ := hlast.deeds
    exact ⟨_, done, planned, rfl, hdone.notices, hplanned.notices, hsame⟩

/-- The machine with the tool, and a log that keeps what is of level `INFO`. -/
def talkingMachine : Machine := { toolMachine with log := { Log.State.initial with level := .info } }

/-- The copies of the program and of a manifest, where nothing is in their way. -/
theorem runCommand_foretold_of_tool : stepsOf? noChildren "init" = some initSteps ∧
    talkingMachine.log.level ≤ Log.Level.info ∧ ∃ n',
      (runCommand noChildren .command "init" (toolConfig [("/t", "/a")]) none true).run
        talkingMachine = .ok ⟨.code 0, initSteps.map Pipeline.Step.id, none⟩ n' ∧
      n'.log.notices.filterMap Log.Notice.planned? = [.copy "/t" "/c", .copy "/t" "/a"] := by
  have hcommand : stepsOf? noChildren "init" = some initSteps := rfl
  have hinfo : talkingMachine.log.level ≤ Log.Level.info := by decide
  let f : File := ⟨ByteArray.empty, 0o755, 0⟩
  let notices : List Log.Notice := [.runningStep "10_install_binary", .copy "/t" "/c",
    .installed "/c", .runningStep "20_config_dir", .runningStep "30_copy_manifests",
    .copy "/t" "/a", .manifestsInstalled "/" 1, .finished .command "init"
      ["10_install_binary", "20_config_dir", "30_copy_manifests"]]
  have hrun : (runCommand noChildren .command "init" (toolConfig [("/t", "/a")]) none false).run
      talkingMachine = .ok ⟨.code 0, initSteps.map Pipeline.Step.id, none⟩
        { talkingMachine with
          files := (toolFiles.add FileSystem.root "c" (.file f)).add FileSystem.root "a" (.file f)
          log := { talkingMachine.log with notices } } := by cbv
  have hsource : talkingMachine.HasFile (Path.ofString "/t") := ⟨1, f, by cbv, by cbv⟩
  have hsources : ∀ manifests, (toolConfig [("/t", "/a")]).manifests talkingMachine.environment =
      .ok manifests → ∀ a ∈ manifests, talkingMachine.HasFile a.source := by
    intro manifests hmanifests
    have hlist : (toolConfig [("/t", "/a")]).manifests talkingMachine.environment =
        .ok [⟨Path.ofString "/t", Path.ofString "/a"⟩] := by cbv
    rw [hlist] at hmanifests
    cases hmanifests
    exact List.forall_mem_singleton.2 hsource
  obtain ⟨n', done, planned, hdry, hdone, hplanned, hsame⟩ :=
    runCommand_foretold hcommand .command none hinfo (fun _ => hsources) hrun rfl
  have hdone : notices = done := hdone
  have hplanned : n'.log.notices = planned := hplanned
  refine ⟨hcommand, hinfo, n', hdry, ?_⟩
  rw [hplanned, hsame, ← hdone]
  rfl

end Launch

end DeviceLauncher
