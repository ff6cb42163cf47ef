import DeviceLauncher.Proofs.FileSystem.Walk
import DeviceLauncher.Launch.Context

/-!
# Runs of actions

* `Machine.Told m m'`: from `m` to `m'` nothing happened but that notices were reported.
* `Machine.Logged m m'`: only the log differs, and what it is written to. Reporting does no more
  (`Machine.Told.logged`).
* `Action.after`: the machine that an action leaves, whether it returns or fails. What is changed
  before a failure stays changed when the failure is caught (`Action.run_tryCatch`).
* `Action.Leaves R`: an action after which every machine is in the relation `R` to what is left of
  it. If `R` is transitive then two such actions in a row are one again (`Action.Leaves.bind`).
* `Action.OnlyLogs`: an action that does nothing but write to the log.
* `Action.Returns p`: an action that comes to a value with the property `p`, unless it fails.
-/

namespace DeviceLauncher

/-! ## What the log writes -/

/-- Whether a handler of the log writes to an inode. -/
def Machine.LogsTo (m : Machine) (i : Inode) : Prop := .file i ∈ m.log.handlers

/-- What no step of a command changes is the same. -/
structure Machine.SameScene (m m' : Machine) : Prop where
  cwd : m'.cwd = m.cwd
  environment : m'.environment = m.environment
  argv : m'.argv = m.argv
  handlers : m'.log.handlers = m.log.handlers
  now : m'.now = m.now

/-- Only the log differs, and the files and streams that it is written to. -/
structure Machine.Logged (m m' : Machine) : Prop where
  scene : m.SameScene m'
  children : m'.children = m.children
  files : FileSystem.Rewritten m.LogsTo m.files m'.files

namespace Machine

/-- A machine on which nothing has run yet, with the root as its working directory. -/
def idle (files : FileSystem) (environment : Environment) (argv : List String) : Machine where
  files
  cwd := FileSystem.root
  environment
  argv
  log := .initial
  children := []
  stdout := ByteArray.empty
  stderr := ByteArray.empty
  now := 0
  marks := ⟨"", ""⟩

variable {m m' m'' : Machine}

theorem SameScene.refl (m : Machine) : m.SameScene m := ⟨rfl, rfl, rfl, rfl, rfl⟩

theorem SameScene.symm (h : m.SameScene m') : m'.SameScene m :=
  ⟨h.cwd.symm, h.environment.symm, h.argv.symm, h.handlers.symm, h.now.symm⟩

theorem SameScene.trans (h : m.SameScene m') (h' : m'.SameScene m'') : m.SameScene m'' :=
  ⟨h'.cwd.trans h.cwd, h'.environment.trans h.environment, h'.argv.trans h.argv,
    h'.handlers.trans h.handlers, h'.now.trans h.now⟩

theorem SameScene.logsTo (h : m.SameScene m') : m'.LogsTo = m.LogsTo := by
  funext i
  rw [LogsTo, LogsTo, h.handlers]

theorem Logged.refl (m : Machine) : m.Logged m := ⟨.refl m, rfl, .refl _ _⟩

theorem Logged.trans (h : m.Logged m') (h' : m'.Logged m'') : m.Logged m'' :=
  ⟨h.scene.trans h'.scene, h'.children.trans h.children,
    h.files.trans (h.scene.logsTo ▸ h'.files)⟩

/-- With no file among the handlers, the log leaves all files alone. -/
theorem Logged.files_eq (h : m.Logged m') (hm : ∀ i, ¬ m.LogsTo i) : m'.files = m.files :=
  h.files.eq_of_forall_not hm

theorem logged_deliver (text : String) (m : Machine) {h : Log.Handler}
    (hh : h ∈ m.log.handlers) : m.Logged (m.deliver text h) := by
  cases h with
  | console => exact ⟨⟨rfl, rfl, rfl, rfl, rfl⟩, rfl, .refl _ _⟩
  | file i =>
    refine ⟨⟨rfl, rfl, rfl, rfl, rfl⟩, rfl, ?_⟩
    refine (FileSystem.Rewritten.modifyFile m.files i _).mono fun j hj => ?_
    subst hj
    exact hh

/-- Reporting does nothing but write to the log. -/
theorem logged_report (n : Log.Notice) (m : Machine) : m.Logged (m.report n) := by
  have delivered (text : String) (hs : List Log.Handler) (m : Machine)
      (h : ∀ x ∈ hs, x ∈ m.log.handlers) : m.Logged (hs.foldl (deliver text) m) := by
    induction hs generalizing m with
    | nil => exact .refl m
    | cons x hs ih =>
      refine (logged_deliver text m (h x List.mem_cons_self)).trans (ih _ fun y hy => ?_)
      rw [log_deliver]
      exact h y (List.mem_cons_of_mem _ hy)
  unfold report
  split
  · have kept : m.Logged { m with log := { m.log with notices := m.log.notices ++ [n] } } :=
      ⟨⟨rfl, rfl, rfl, rfl, rfl⟩, rfl, .refl _ _⟩
    simp only
    split
    · split
      · exact ⟨⟨rfl, rfl, rfl, rfl, rfl⟩, rfl, .refl _ _⟩
      · exact kept
    · exact kept.trans (delivered _ _ _ fun _ hx => hx)
  · exact .refl m

theorem files_report (n : Log.Notice) (hm : ∀ i, ¬ m.LogsTo i) : (m.report n).files = m.files :=
  (logged_report n m).files_eq hm

theorem marks_foldl_deliver (text : String) (hs : List Log.Handler) (m : Machine) :
    (hs.foldl (deliver text) m).marks = m.marks := by
  induction hs generalizing m with
  | nil => rfl
  | cons h hs ih =>
    rw [List.foldl_cons, ih]
    cases h <;> rfl

/-- A notice leaves all of the log as it is but its notices. -/
theorem log_report (m : Machine) (n : Log.Notice) :
    (m.report n).log.level = m.log.level ∧ (m.report n).log.setup = m.log.setup ∧
      (m.report n).log.handlers = m.log.handlers ∧ (m.report n).marks = m.marks := by
  unfold report
  split
  · simp only
    split
    · split <;> exact ⟨rfl, rfl, rfl, rfl⟩
    · rw [log_foldl_deliver, marks_foldl_deliver]
      exact ⟨rfl, rfl, rfl, rfl⟩
  · exact ⟨rfl, rfl, rfl, rfl⟩

/-- The machine after notices that are reported one after the other. -/
def tell (notices : List Log.Notice) (m : Machine) : Machine :=
  notices.foldl (fun m n => m.report n) m

/-- Nothing happens but that notices are reported. -/
def Told (m m' : Machine) : Prop := ∃ notices, m' = m.tell notices

theorem Told.refl (m : Machine) : m.Told m := ⟨[], rfl⟩

theorem Told.report (n : Log.Notice) (m : Machine) : m.Told (m.report n) := ⟨[n], rfl⟩

theorem Told.trans (h : m.Told m') (h' : m'.Told m'') : m.Told m'' := by
  obtain ⟨first, rfl⟩ := h
  obtain ⟨rest, rfl⟩ := h'
  exact ⟨first ++ rest, by rw [tell, tell, tell, List.foldl_append]⟩

theorem Told.logged (h : m.Told m') : m.Logged m' := by
  obtain ⟨notices, rfl⟩ := h
  induction notices generalizing m with
  | nil => exact .refl m
  | cons n notices ih => exact (logged_report n m).trans ih

theorem Told.setup (h : m.Told m') : m'.log.setup = m.log.setup := by
  obtain ⟨notices, rfl⟩ := h
  induction notices generalizing m with
  | nil => rfl
  | cons n notices ih => exact ih.trans (m.log_report n).2.1

end Machine

namespace Action

variable {α β : Type} {x : Action α} {f : α → Action β} {m m' m'' : Machine} {a : α} {b : β}
  {e : Failure}

/-- The machine that an action leaves, whether it returns or fails. -/
def after (x : Action α) (m : Machine) : Machine :=
  match x.run m with
  | .ok _ m' | .error _ m' => m'

theorem after_of_ok (h : x.run m = .ok a m') : x.after m = m' := by rw [after, h]

theorem after_of_error (h : x.run m = .error e m') : x.after m = m' := by rw [after, h]

theorem after_bind_of_ok (h : x.run m = .ok a m') : (x >>= f).after m = (f a).after m' := by
  rw [after, after, EStateM.run_bind, h]

theorem after_bind_of_error (h : x.run m = .error e m') : (x >>= f).after m = m' := by
  rw [after, EStateM.run_bind, h]

/-! ## Failures that are caught -/

/-- What is changed before a failure stays changed when the failure is caught. -/
theorem run_tryCatch (x : Action α) (handle : Failure → Action α) (m : Machine) :
    (tryCatch x handle).run m = match x.run m with
      | .ok a m' => .ok a m'
      | .error e m' => (handle e).run m' := by
  simp only [tryCatch, tryCatchThe, MonadExceptOf.tryCatch, EStateM.tryCatch, EStateM.run]
  cases x m <;> rfl

/-! ## Single actions -/

@[simp]
theorem run_report (n : Log.Notice) (m : Machine) :
    (report n : Action Unit).run m = .ok () (m.report n) := rfl

@[simp]
theorem run_ofExcept (r : Except Failure α) (m : Machine) :
    (ofExcept r).run m = match r with
      | .ok a => .ok a m
      | .error e => .error e m := by
  cases r <;> rfl

theorem run_look (p : Path) (m : Machine) :
    (look p).run m = (ofExcept ((m.files.look m.cwd p.toString).mapError fun e =>
      .os e (.path p.toString))).run m := rfl

theorem run_setting (context : Launch.Context) (f : Config → Environment → Except Failure α)
    (m : Machine) : (Launch.setting context f).run m =
      (ofExcept (f context.config m.environment)).run m := rfl

/-! ## What an action leaves on every machine -/

/-- Whether an action leaves, be it that it returns or that it fails, a machine that is in a relation
to the one before. -/
def Leaves (R : Machine → Machine → Prop) (x : Action α) : Prop := ∀ m, R m (x.after m)

/-- What two actions in a row leave is in a relation to the machine before if what each of them leaves
is. -/
theorem rel_after_bind {R : Machine → Machine → Prop}
    (htrans : ∀ ⦃m m' m''⦄, R m m' → R m' m'' → R m m'') (hx : R m (x.after m))
    (hf : ∀ a m', R m' ((f a).after m')) : R m ((x >>= f).after m) := by
  cases hrun : x.run m with
  | error e m' =>
    rw [after_of_error hrun] at hx
    rwa [after_bind_of_error hrun]
  | ok a m' =>
    rw [after_of_ok hrun] at hx
    rw [after_bind_of_ok hrun]
    exact htrans hx (hf a m')

theorem Leaves.bind {R : Machine → Machine → Prop}
    (htrans : ∀ ⦃m m' m''⦄, R m m' → R m' m'' → R m m'') (hx : Leaves R x)
    (hf : ∀ a, Leaves R (f a)) : Leaves R (x >>= f) :=
  fun m => rel_after_bind htrans (hx m) hf

/-- Whether an action does nothing but write to the log. -/
abbrev OnlyLogs (x : Action α) : Prop := Leaves Machine.Told x

namespace OnlyLogs

theorem pure (a : α) : OnlyLogs (Pure.pure a : Action α) := fun m => .refl m

theorem throw (e : Failure) : OnlyLogs (MonadExcept.throw e : Action α) := fun m => .refl m

theorem get : OnlyLogs (MonadState.get : Action Machine) := fun m => .refl m

theorem report (n : Log.Notice) : OnlyLogs (Action.report n) := fun m => .report n m

theorem ofExcept (r : Except Failure α) : OnlyLogs (Action.ofExcept r) := by
  intro m
  cases r <;> exact .refl m

theorem bind (hx : OnlyLogs x) (hf : ∀ a, OnlyLogs (f a)) : OnlyLogs (x >>= f) :=
  Leaves.bind (fun _ _ _ => Machine.Told.trans) hx hf

theorem tryCatch {handle : Failure → Action α} (hx : OnlyLogs x)
    (hhandle : ∀ e, OnlyLogs (handle e)) : OnlyLogs (MonadExcept.tryCatch x handle) := by
  intro m
  have hfirst := hx m
  rw [after, run_tryCatch]
  rw [after] at hfirst
  cases hrun : x.run m with
  | ok a m' => rwa [hrun] at hfirst
  | error e m' =>
    rw [hrun] at hfirst
    exact hfirst.trans (hhandle e m')

theorem ite {c : Prop} [Decidable c] {y : Action α} (hx : OnlyLogs x) (hy : OnlyLogs y) :
    OnlyLogs (if c then x else y) := by
  split
  · exact hx
  · exact hy

/-- A check that may fail, before an action. -/
theorem check {c : Prop} [Decidable c] (e : Failure) (hx : OnlyLogs x) :
    OnlyLogs (if c then (do MonadExcept.throw e; x) else x) :=
  ite ((throw e).bind fun (_ : PUnit) => hx) hx

theorem look (p : Path) : OnlyLogs (Action.look p) := get.bind fun _ => ofExcept _

theorem setting (context : Launch.Context) (f : Config → Environment → Except Failure α) :
    OnlyLogs (Launch.setting context f) := get.bind fun _ => ofExcept _

end OnlyLogs

/-! ## What an action comes to -/

/-- Whether an action comes to nothing but values with a property, unless it fails. -/
def Returns (p : α → Prop) (x : Action α) : Prop := ∀ m a m', x.run m = .ok a m' → p a

namespace Returns

variable {p : α → Prop} {q : β → Prop}

theorem pure (ha : p a) : Returns p (Pure.pure a : Action α) := by
  intro m b m' h
  cases h
  exact ha

theorem bind (hx : Returns p x) (hf : ∀ a, p a → Returns q (f a)) : Returns q (x >>= f) := by
  intro m b m' h
  rw [EStateM.run_bind] at h
  cases hrun : x.run m with
  | error e m₁ =>
    rw [hrun] at h
    cases h
  | ok a m₁ =>
    rw [hrun] at h
    exact hf a (hx m a m₁ hrun) m₁ b m' h

/-- What the first of two actions comes to may be left open. -/
theorem after (hf : ∀ a, Returns q (f a)) : Returns q (x >>= f) :=
  bind (fun _ _ _ _ => trivial) fun a (_ : True) => hf a

theorem ite {c : Prop} [Decidable c] {y : Action α} (hx : Returns p x) (hy : Returns p y) :
    Returns p (if c then x else y) := by
  split
  · exact hx
  · exact hy

/-- A check that may fail, before an action. -/
theorem check {c : Prop} [Decidable c] (e : Failure) (hx : Returns p x) :
    Returns p (if c then (do MonadExcept.throw e; x) else x) :=
  ite (after fun (_ : PUnit) => hx) hx

end Returns

end Action

end DeviceLauncher
