import DeviceLauncher.Launch.Dispatch
import DeviceLauncher.Proofs.Action
import DeviceLauncher.Proofs.Pipeline

/-!
# How a command runs its steps

`Pipeline.run_runFrom_cons` is one round of a pipeline, and `run_runCommand` what a command adds to
the pipeline of its steps: one last word in the log. A failure is handed on as it is.
-/

namespace DeviceLauncher

namespace Pipeline

variable {κ : Type} (context : κ) (ran : List String) (status : Status) (m : Machine)

theorem run_runFrom_nil : (runFrom context ran status ([] : List (Step κ Failure Machine))).run m =
    .ok ⟨status, ran, none⟩ m := rfl

theorem run_runFrom_cons (step : Step κ Failure Machine) (rest : List (Step κ Failure Machine)) :
    (runFrom context ran status (step :: rest)).run m =
      match (step.run context).run (m.report (.runningStep step.id)) with
      | .error e m' => .error e m'
      | .ok s m' =>
        if s.isZero then (runFrom context (ran ++ [step.id]) s rest).run m'
        else .ok ⟨s, ran ++ [step.id], some step.id⟩ (m'.report (.stepFailed step.id s)) := by
  have hreport (n : Log.Notice) (m : Machine) : Reports.report n m = m.report n := rfl
  rw [run_runFrom_step, hreport]
  cases (step.run context).run (m.report (.runningStep step.id)) <;> rfl

/-- A pipeline sees its context through its steps only. -/
theorem runFrom_congr {context' : κ} {steps : List (Step κ Failure Machine)}
    (h : ∀ step ∈ steps, step.run context = step.run context') :
    runFrom context ran status steps = runFrom context' ran status steps := by
  induction steps generalizing ran status with
  | nil => rfl
  | cons step rest ih =>
    have hrest (ran : List String) (status : Status) :=
      ih ran status fun other ho => h other (List.mem_cons_of_mem step ho)
    simp only [runFrom, h step List.mem_cons_self, hrest]

/-- Whether a step comes to no status but zero, unless it fails. -/
def EndsWithZero (step : Step κ Failure Machine) : Prop :=
  ∀ m s m', (step.run context).run m = .ok s m' → s = .code 0

/-- Steps after others run when those have ended well. -/
theorem run_runFrom_append {first : List (Step κ Failure Machine)}
    (h : ∀ step ∈ first, EndsWithZero context step) (rest : List (Step κ Failure Machine)) :
    (runFrom context ran (.code 0) (first ++ rest)).run m =
      match (runFrom context ran (.code 0) first).run m with
      | .error e m' => .error e m'
      | .ok r m' => (runFrom context r.ranSteps (.code 0) rest).run m' := by
  induction first generalizing ran m with
  | nil => rfl
  | cons step first ih =>
    rw [List.cons_append, run_runFrom_cons, run_runFrom_cons]
    cases hrun : (step.run context).run (m.report (.runningStep step.id)) with
    | error e m' => rfl
    | ok s m' =>
      obtain rfl := h step List.mem_cons_self _ s m' hrun
      exact ih (ran ++ [step.id]) m' fun other ho => h other (List.mem_cons_of_mem step ho)

theorem run_runFrom_singleton {step : Step κ Failure Machine} (h : EndsWithZero context step) :
    (runFrom context ran status [step]).run m =
      match (step.run context).run (m.report (.runningStep step.id)) with
      | .error e m' => .error e m'
      | .ok _ m' => .ok ⟨.code 0, ran ++ [step.id], none⟩ m' := by
  rw [run_runFrom_cons]
  cases hrun : (step.run context).run (m.report (.runningStep step.id)) with
  | error e m' => rfl
  | ok s m' =>
    obtain rfl := h _ s m' hrun
    rfl

/-- A pipeline whose first step ends well goes on with the others. -/
theorem run_runFrom_cons_eq_ok_iff {step : Step κ Failure Machine}
    (h : EndsWithZero context step) (rest : List (Step κ Failure Machine)) {r : Result}
    {m' : Machine} :
    (runFrom context ran status (step :: rest)).run m = .ok r m' ↔
      ∃ m₁, (step.run context).run (m.report (.runningStep step.id)) = .ok (.code 0) m₁ ∧
        (runFrom context (ran ++ [step.id]) (.code 0) rest).run m₁ = .ok r m' := by
  rw [run_runFrom_cons]
  cases hrun : (step.run context).run (m.report (.runningStep step.id)) with
  | error e m₁ => simp
  | ok s m₁ =>
    obtain rfl := h _ s m₁ hrun
    constructor
    · exact fun hrest => ⟨m₁, rfl, hrest⟩
    · rintro ⟨m₂, hm, hrest⟩
      cases hm
      exact hrest

/-- If no step comes to a status but zero then none is left out, unless one fails. -/
theorem returns_runFrom {steps : List (Step κ Failure Machine)}
    (h : ∀ step ∈ steps, EndsWithZero context step) :
    Action.Returns (· = ⟨.code 0, ran ++ steps.map Step.id, none⟩)
      (runFrom context ran (.code 0) steps) := by
  induction steps generalizing ran with
  | nil => exact .pure (by rw [List.map_nil, List.append_nil])
  | cons step rest ih =>
    intro m r m' hrun
    rw [run_runFrom_cons_eq_ok_iff _ _ _ _ (h step List.mem_cons_self)] at hrun
    obtain ⟨m₁, -, hrest⟩ := hrun
    have hothers : ∀ other ∈ rest, EndsWithZero context other := fun other ho =>
      h other (List.mem_cons_of_mem step ho)
    have hr := ih (ran ++ [step.id]) hothers _ _ _ hrest
    rw [hr, List.map_cons, List.append_assoc, List.singleton_append]

end Pipeline

namespace Launch

/-! ## Statuses of the steps -/

section

open DeviceLauncher.Action (Returns)

variable (context : Context)

theorem installBinary_endsWithZero : Pipeline.EndsWithZero context installBinary :=
  Returns.after fun _ => .after fun _ => .after fun _ => .check _ <| .after fun _ =>
    .after fun _ => .ite (.after fun _ => .pure rfl) (.after fun _ => .after fun _ => .pure rfl)

theorem configDirectory_endsWithZero : Pipeline.EndsWithZero context configDirectory :=
  Returns.after fun _ => .after fun _ => .pure rfl

theorem copyManifests_endsWithZero : Pipeline.EndsWithZero context copyManifests :=
  Returns.after fun _ => .after fun _ => .after fun _ => .after fun _ => .pure rfl

end

/-! ## The command -/

variable {children : Child.Behaviour} {command : String} {steps : List Step}

theorem stepsOf?_cases (h : stepsOf? children command = some steps) :
    command = "init" ∧ steps = initSteps ∨ command = "run" ∧ steps = runSteps children := by
  unfold stepsOf? at h
  split at h
  · next hinit => exact .inl ⟨hinit, (Option.some.inj h).symm⟩
  · split at h
    · next hrun => exact .inr ⟨hrun, (Option.some.inj h).symm⟩
    · cases h

theorem run_runCommand (h : stepsOf? children command = some steps) (entry : Log.Entry)
    (config : Config) (host : Option String) (dryRun : Bool) (m : Machine) :
    (runCommand children entry command config host dryRun).run m =
      match (Pipeline.run ⟨config, host.getD "", dryRun⟩ steps).run m with
      | .error e m' => .error e (m'.report (.failed entry command))
      | .ok result m' =>
        .ok result
          (if result.ok then m'.report (.finished entry command result.ranSteps) else m') := by
  simp only [runCommand, h, EStateM.run_bind, Action.run_tryCatch]
  cases (Pipeline.run ⟨config, host.getD "", dryRun⟩ steps).run m with
  | error e m' => rfl
  | ok result m' =>
    simp only
    split <;> rfl

theorem logged_finished (entry : Log.Entry) (command : String) (result : Pipeline.Result)
    (m : Machine) : m.Logged
      (if result.ok then m.report (.finished entry command result.ranSteps) else m) := by
  split
  · exact Machine.logged_report _ m
  · exact .refl m

end Launch

end DeviceLauncher
