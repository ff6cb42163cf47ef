import DeviceLauncher.Proofs.Launch.Forecast
import DeviceLauncher.Proofs.Launch.Run

/-!
# What the steps of a command tell the log

* `Log.Notice.IsProgress`: notices of what is under way. They cannot be taken for the last word on a
  command (`Log.Notice.IsProgress.no_verdict`).
* `Machine.Progressed m m' last`: from `m` to `m'` the log was told of progress, and then of `last`.
* `Action.Progresses`: an action that tells the log of nothing but progress, from a given machine.
* `StepEnd`: how a step ends. One that ends badly has run a child, and the last that it tells is how the
  child ended.

What is told does not depend on what the files are like, so that these statements need no hypothesis on
them. `Action.Progresses` is about one machine since an action may put back a machine that it has read,
with other files. That keeps the log only if nothing was reported in between.
-/

namespace DeviceLauncher

/-! ## Progress -/

theorem head?_toList_append {s : String} {c : Char} (h : s.toList.head? = some c) (t : String) :
    (s ++ t).toList.head? = some c := by
  rw [String.toList_append, List.head?_append, h, Option.some_or]

namespace Log

/-- Whether a notice is about something that is under way. -/
def Notice.IsProgress : Notice → Prop
  | .finished _ _ _ | .failed _ _ | .stepFailed _ _ | .commandFailed _ _ | .said _ _ _ => False
  | _ => True

/-- Neither by its level nor by its text can progress be taken for the last word on a command. -/
theorem Notice.IsProgress.no_verdict {n : Notice} (h : n.IsProgress) :
    n.level < Level.error ∧ ¬ "ripple ".toList <+: n.message.toList := by
  have hlevel : n.level = Level.debug ∨ n.level = Level.info := by
    cases n <;> first
      | exact h.elim
      | exact .inl rfl
      | exact .inr rfl
  -- The texts of progress all begin with a capital letter.
  have hhead : ∃ c ≠ 'r', n.message.toList.head? = some c := by
    cases n <;> first
      | exact h.elim
      | refine ⟨_, ?_, by repeat' first | exact rfl | apply head?_toList_append⟩; decide
  constructor
  · rcases hlevel with h | h <;> rw [h] <;> decide
  · rintro ⟨rest, hrest⟩
    obtain ⟨c, hc, hhead⟩ := hhead
    rw [← hrest] at hhead
    exact hc (Option.some.inj hhead).symm

theorem Level.info_le_error : info ≤ error := by decide

end Log

namespace Machine

variable {m m' m'' : Machine} {n : Log.Notice} {last : List Log.Notice}

/-- Whether the log has been told of progress, and then of some notices. -/
def Progressed (m m' : Machine) (last : List Log.Notice) : Prop :=
  ∃ progress, m.Kept m' (progress ++ last) ∧ ∀ n ∈ progress, n.IsProgress

namespace Progressed

theorem of_log (h : m'.log = m.log) : m.Progressed m' [] :=
  ⟨[], ⟨by rw [h], by rw [h, List.append_nil, List.append_nil]⟩, nofun⟩

theorem refl (m : Machine) : m.Progressed m [] := of_log rfl

theorem trans (h : m.Progressed m' []) (h' : m'.Progressed m'' last) : m.Progressed m'' last := by
  obtain ⟨progress, hkept, hprogress⟩ := h
  obtain ⟨progress', hkept', hprogress'⟩ := h'
  rw [List.append_nil] at hkept
  refine ⟨progress ++ progress', ?_, fun n hn => ?_⟩
  · rw [List.append_assoc]
    exact hkept.trans hkept'
  · rcases List.mem_append.1 hn with hn | hn
    · exact hprogress n hn
    · exact hprogress' n hn

theorem report (m : Machine) (hn : n.IsProgress) : m.Progressed (m.report n) [] := by
  refine ⟨if m.log.passes n.level then [n] else [], ?_, fun a ha => ?_⟩
  · rw [List.append_nil]
    exact (Kept.refl m).report n
  · split at ha
    · obtain rfl := List.mem_singleton.1 ha
      exact hn
    · cases ha

theorem level (h : m.Progressed m' last) : m'.log.level = m.log.level := by
  obtain ⟨progress, hkept, -⟩ := h
  exact hkept.level

/-- A notice that passes is the last one. -/
theorem conclude (h : m.Progressed m' last) (hlevel : m.log.level ≤ Log.Level.info)
    (hn : Log.Level.info ≤ n.level) : m.Progressed (m'.report n) (last ++ [n]) := by
  obtain ⟨progress, hkept, hprogress⟩ := h
  refine ⟨progress, ?_, hprogress⟩
  have hlast := hkept.report n
  rwa [if_pos (Log.State.passes_of_info hlevel hn), List.append_assoc] at hlast

/-- What the log holds of progress, and what it holds after that. -/
theorem exists_notices (h : m.Progressed m' last) : ∃ progress : List Log.Notice,
    (∀ n ∈ progress, n.level < Log.Level.error ∧ ¬ "ripple ".toList <+: n.message.toList) ∧
      m'.log.notices = m.log.notices ++ progress ++ last := by
  obtain ⟨progress, hkept, hprogress⟩ := h
  refine ⟨progress, fun n hn => (hprogress n hn).no_verdict, ?_⟩
  rw [hkept.notices, List.append_assoc]

end Progressed

end Machine

namespace Action

variable {α β : Type} {x y : Action α} {f : α → Action β} {m : Machine}

/-- Whether an action, from a machine on, tells the log of nothing but progress. -/
def Progresses (x : Action α) (m : Machine) : Prop := m.Progressed (x.after m) []

namespace Progresses

theorem pure (a : α) : Progresses (Pure.pure a) m := .refl m

theorem throw (e : Failure) : Progresses (MonadExcept.throw e : Action α) m := .refl m

theorem lastReport {n : Log.Notice} (hn : n.IsProgress) : Progresses (Action.report n) m :=
  Machine.Progressed.report m hn

theorem set {m' : Machine} (h : m'.log = m.log) :
    Progresses (MonadStateOf.set m' : Action PUnit) m := .of_log h

theorem bind (hx : Progresses x m) (hf : ∀ a m', Progresses (f a) m') :
    Progresses (x >>= f) m :=
  rel_after_bind (R := fun m m' => m.Progressed m' []) (fun _ _ _ => .trans) hx hf

theorem report {n : Log.Notice} {f : Unit → Action β} (hn : n.IsProgress)
    (h : ∀ m', Progresses (f ()) m') : Progresses (Action.report n >>= f) m :=
  (lastReport hn).bind fun _ => h

theorem get {f : Machine → Action β} (h : Progresses (f m) m) :
    Progresses (MonadState.get >>= f) m := h

theorem ofExcept {r : Except Failure α} (h : ∀ a, Progresses (f a) m) :
    Progresses (Action.ofExcept r >>= f) m := by
  cases r with
  | error e => exact throw e
  | ok a => exact h a

theorem look {p : Path} {f : Option Inode → Action β} (h : ∀ a, Progresses (f a) m) :
    Progresses (Action.look p >>= f) m := ofExcept h

theorem setting {context : Launch.Context} {F : Config → Environment → Except Failure α}
    (h : ∀ a, Progresses (f a) m) : Progresses (Launch.setting context F >>= f) m := ofExcept h

theorem ite {c : Prop} [Decidable c] (hx : Progresses x m) (hy : Progresses y m) :
    Progresses (if c then x else y) m := by
  split
  · exact hx
  · exact hy

/-- A check that may fail, before an action. -/
theorem check {c : Prop} [Decidable c] (e : Failure) (hx : Progresses x m) :
    Progresses (if c then (do MonadExcept.throw e; x) else x) m :=
  ite (throw e) hx

end Progresses

end Action

open DeviceLauncher.Action (Progresses)

variable {m m' : Machine}

/-! ## What the steps are made of -/

namespace Install

theorem installFile_progresses (source target : String) (dryRun : Bool) (m : Machine) :
    Progresses (installFile source target dryRun) m := by
  refine .look fun found => .get ?_
  split
  · exact .throw _
  · refine .ite (.lastReport trivial) (.report trivial fun m' => .get ?_)
    split
    · exact .throw _
    · exact .ofExcept fun files => .set rfl

theorem makeDirectories_progresses (p : Path) (m : Machine) :
    Progresses (makeDirectories p) m := by
  have hrun := run_makeDirectories p m
  unfold Progresses
  split at hrun
  · rw [Action.after_of_ok hrun]
    exact .of_log rfl
  · rw [Action.after_of_error hrun]
    exact .of_log rfl

theorem ensureDirectory_progresses (path : String) (dryRun : Bool) (m : Machine) :
    Progresses (ensureDirectory path dryRun) m := by
  have hmake := makeDirectories_progresses (.ofString path)
  refine .ite (.lastReport trivial) (.look fun found => ?_)
  split
  · exact .get (.ite (.report trivial hmake) (hmake m))
  · exact hmake m

end Install

namespace Launch

/-! ## The steps of `init` -/

variable (context : Context) (m : Machine)

theorem installBinary_progresses : Progresses (installBinary.run context) m :=
  .get <| .setting fun _ => .setting fun _ => .check _ <| .get <|
    .ofExcept fun _ => .ite (.report trivial fun _ => .pure _)
      ((Install.installFile_progresses _ _ _ m).bind fun _ _ => .report trivial fun _ => .pure _)

theorem configDirectory_progresses : Progresses (configDirectory.run context) m :=
  .setting fun _ => (Install.ensureDirectory_progresses _ _ m).bind fun _ _ => .pure _

theorem copyAll_progresses (dryRun : Bool) (manifests : List Manifest) (m : Machine) :
    Progresses (copyAll dryRun manifests) m := by
  induction manifests generalizing m with
  | nil => exact .pure ()
  | cons a rest ih =>
    exact (Install.installFile_progresses _ _ dryRun m).bind fun _ m' => ih m'

theorem copyManifests_progresses : Progresses (copyManifests.run context) m :=
  .setting fun manifests => (copyAll_progresses _ manifests m).bind fun _ _ =>
    .setting fun _ => .report trivial fun _ => .pure _

/-! ## The steps of `run` -/

/-- How a step ends, and what it tells of that. If it does not end well then a child has not. -/
inductive StepEnd (children : Child.Behaviour) (m : Machine) :
    EStateM.Result Failure Machine Status → Prop where
  | well {m' : Machine} : m.Progressed m' [] → StepEnd children m (.ok (.code 0) m')
  | badly {before m' : Machine} {start : Child.Start} {code : Int} : code ≠ 0 →
      Ran children start before (.ok code) m' →
        m.Progressed m' [.commandFailed code start.argv] →
          StepEnd children m (.ok (.code (exitStatus code)) m')
  | failed {e : Failure} {m' : Machine} : m.Progressed m' [] → StepEnd children m (.error e m')

namespace StepEnd

variable {children : Child.Behaviour} {m m' : Machine} {x : Action Status}

theorem of_progresses (h : Progresses x m) (hzero : Action.Returns (· = .code 0) x) :
    StepEnd children m (x.run m) := by
  unfold Progresses at h
  cases hrun : x.run m with
  | error e m' =>
    rw [Action.after_of_error hrun] at h
    exact .failed h
  | ok status m' =>
    rw [Action.after_of_ok hrun] at h
    obtain rfl := hzero m status m' hrun
    exact .well h

theorem after_progress {result : EStateM.Result Failure Machine Status}
    (h : m.Progressed m' []) (hend : StepEnd children m' result) : StepEnd children m result := by
  cases hend with
  | well h' => exact .well (h.trans h')
  | badly hcode hran h' => exact .badly hcode hran (h.trans h')
  | failed h' => exact .failed (h.trans h')

theorem ofExcept {α : Type} {r : Except Failure α} {f : α → Action Status}
    (h : ∀ a, StepEnd children m ((f a).run m)) :
    StepEnd children m ((Action.ofExcept r >>= f).run m) := by
  cases r with
  | error e => exact .failed (.refl m)
  | ok a => exact h a

end StepEnd

variable (children : Child.Behaviour)

theorem log_after_await (start : Child.Start) (m : Machine) :
    ((Child.await children start).after m).log = m.log := by
  simp only [Action.after, Child.await, EStateM.run_bind, EStateM.run_get, EStateM.run_set]
  cases (children start ⟨m.files, m.cwd, m.now⟩).1 <;> rfl

/-- A command that is run in earnest is announced, and then it is a child. -/
theorem run_announced (argv : List String) (extra : List (String × String))
    (directory : Option String) (m : Machine) :
    ∃ m₁, m.Progressed m₁ [] ∧ (Child.run children argv extra directory false).run m = (do
      let code ← Child.await children ⟨argv, m₁.environment.overlay extra, directory⟩
      if code != 0 then Action.report (.commandFailed code argv)
      return ⟨argv, exitStatus code⟩ : Action Child.Outcome).run m₁ := by
  have hcommand : m.Progressed (m.report (.command argv)) [] := .report m trivial
  by_cases hextra : extra.isEmpty
  · refine ⟨_, hcommand, ?_⟩
    simp only [Child.run, EStateM.run_bind, Action.run_report, hextra]
    rfl
  · refine ⟨_, hcommand.trans (.report (n := .environment extra) _ trivial), ?_⟩
    simp only [Child.run, EStateM.run_bind, Action.run_report, hextra]
    rfl

/-- Of a child that does not end well it is told, at last, how it ended. -/
theorem run_ends (hlevel : m.log.level ≤ Log.Level.info) (argv : List String)
    (extra : List (String × String)) (directory : Option String) (dryRun : Bool) :
    StepEnd children m ((do
      let outcome ← Child.run children argv extra directory dryRun
      return .code outcome.status : Action Status).run m) := by
  cases dryRun with
  | true =>
    refine .of_progresses (.bind ?_ fun _ _ => .pure _) ?_
    · exact .report trivial fun _ => .ite (.report trivial fun _ => .pure _) (.pure _)
    · exact (Child.returns_run children _ _ _).bind fun outcome hzero => .pure (by rw [hzero])
  | false =>
    obtain ⟨m₁, h, hrun⟩ := run_announced children argv extra directory m
    let start : Child.Start := ⟨argv, m₁.environment.overlay extra, directory⟩
    obtain ⟨outcome, m₂, hran, hawait⟩ := await_ran children start m₁
    have hlog := log_after_await children start m₁
    rw [EStateM.run_bind, hrun, EStateM.run_bind, hawait]
    cases outcome with
    | error e =>
      rw [Action.after_of_error hawait] at hlog
      exact .failed (h.trans (.of_log hlog))
    | ok code =>
      rw [Action.after_of_ok hawait] at hlog
      replace h := h.trans (.of_log hlog)
      by_cases hcode : code = 0
      · subst hcode
        exact .well h
      · simp only
        rw [if_pos (by simpa using hcode)]
        exact .badly hcode (hran.logged (Machine.logged_report _ m₂))
          (h.conclude hlevel Log.Level.info_le_error)

theorem runChild_ends (hlevel : m.log.level ≤ Log.Level.info)
    (command : Config → Except Failure (List String)) :
    StepEnd children m ((runChild children context command).run m) :=
  .ofExcept fun argv => .ofExcept fun extra => .ofExcept fun _ =>
    run_ends m children hlevel argv extra _ context.dryRun

theorem runTarget_ends (hlevel : m.log.level ≤ Log.Level.info) :
    StepEnd children m (((runTarget children).run context).run m) := by
  refine .ofExcept fun name => ?_
  have hstarting : m.Progressed (m.report (.starting name context.host)) [] := .report m trivial
  refine .after_progress hstarting (runChild_ends context _ children ?_ Config.runCommand)
  rwa [(m.log_report _).1]

end Launch

end DeviceLauncher
