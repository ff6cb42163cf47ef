import DeviceLauncher.Proofs.Launch.Progress
import DeviceLauncher.Proofs.Launch.Request

/-!
# The last word on a command

A command leaves one verdict in the log, as its last word (`runCommand_verdict`): that it has finished,
with all its steps; how a child has ended and which step was stopped by that; or that it has failed. What
it has told before that is progress.

`Ending` says how the steps of a command may end, with what is told of that by the steps and by the
pipeline. The command itself adds one word at most.
-/

namespace DeviceLauncher.Launch

variable {children : Child.Behaviour} {context : Context} {m m' : Machine} {steps : List Step}
  {ran : List String}

/-! ## The pipeline -/

/-- How some steps may end, after others whose names are given. -/
inductive Ending (children : Child.Behaviour) (context : Context) (m : Machine)
    (steps : List Step) (ran : List String) :
    EStateM.Result Failure Machine Pipeline.Result → Prop where
  | finished {m' : Machine} : m.Progressed m' [] →
      Ending children context m steps ran
        (.ok ⟨.code 0, ran ++ steps.map Pipeline.Step.id, none⟩ m')
  | stopped {step : Step} {before m' : Machine} {start : Child.Start} {code : Int}
      {entered : List String} : step ∈ steps → code ≠ 0 →
        Ran children start before (.ok code) m' →
        m.Progressed m'
          [.commandFailed code start.argv, .stepFailed step.id (.code (exitStatus code))] →
        Ending children context m steps ran
          (.ok ⟨.code (exitStatus code), entered, some step.id⟩ m')
  | failed {step : Step} {before m' : Machine} {e : Failure} : step ∈ steps →
      (step.run context).run before = .error e m' → m.Progressed m' [] →
        Ending children context m steps ran (.error e m')

/-- A step that has ended well, before others. -/
theorem Ending.cons {step : Step} {result : EStateM.Result Failure Machine Pipeline.Result}
    (h : m.Progressed m' []) (hend : Ending children context m' steps (ran ++ [step.id]) result) :
    Ending children context m (step :: steps) ran result := by
  cases hend with
  | finished h' =>
    rw [List.append_assoc, List.singleton_append]
    exact .finished (h.trans h')
  | stopped hstep hcode hran h' =>
    exact .stopped (List.mem_cons_of_mem step hstep) hcode hran (h.trans h')
  | failed hstep hrun h' => exact .failed (List.mem_cons_of_mem step hstep) hrun (h.trans h')

/-- A pipeline ends as its last step does, and tells of a step that does not end well. -/
theorem runFrom_ending (hsteps : ∀ step ∈ steps, ∀ m : Machine, m.log.level ≤ Log.Level.info →
    StepEnd children m ((step.run context).run m)) (hlevel : m.log.level ≤ Log.Level.info) :
    Ending children context m steps ran
      ((Pipeline.runFrom context ran (.code 0) steps).run m) := by
  induction steps generalizing m ran with
  | nil =>
    have hend : Ending children context m [] ran (.ok ⟨.code 0, ran ++ [], none⟩ m) :=
      .finished (.refl m)
    rwa [List.append_nil] at hend
  | cons step rest ih =>
    rw [List.forall_mem_cons] at hsteps
    have hreport : m.Progressed (m.report (.runningStep step.id)) [] := .report m trivial
    have hend := StepEnd.after_progress hreport
      (hsteps.1 (m.report (.runningStep step.id)) ((m.log_report _).1 ▸ hlevel))
    rw [Pipeline.run_runFrom_cons]
    generalize hrun : (step.run context).run (m.report (.runningStep step.id)) = result at hend
    -- Only a step that ends well is followed by others, and it has told of progress alone.
    cases hend with
    | well h => exact .cons h (ih hsteps.2 (h.level ▸ hlevel))
    | failed h => exact .failed List.mem_cons_self hrun h
    | @badly before m' start code hcode hran h =>
      have hnonzero : ¬ (Status.code (exitStatus code)).isZero = true := fun hzero =>
        hcode (exitStatus_eq_zero_iff.1 (beq_iff_eq.1 hzero))
      simp only [if_neg hnonzero]
      exact .stopped List.mem_cons_self hcode (hran.logged (Machine.logged_report _ _))
        (h.conclude hlevel Log.Level.info_le_error)

/-! ## The command -/

theorem stepEnd_of_stepsOf? {command : String} (h : stepsOf? children command = some steps) :
    ∀ step ∈ steps, ∀ m : Machine, m.log.level ≤ Log.Level.info →
      StepEnd children m ((step.run context).run m) := by
  obtain ⟨-, rfl⟩ | ⟨-, rfl⟩ := stepsOf?_cases h
  · simp only [initSteps, List.forall_mem_cons]
    exact ⟨fun m _ => .of_progresses (installBinary_progresses context m)
        (installBinary_endsWithZero context),
      fun m _ => .of_progresses (configDirectory_progresses context m)
        (configDirectory_endsWithZero context),
      fun m _ => .of_progresses (copyManifests_progresses context m)
        (copyManifests_endsWithZero context), List.forall_mem_nil _⟩
  · simp only [runSteps, List.forall_mem_cons]
    exact ⟨fun m hlevel => runChild_ends context m children hlevel Config.buildCommand,
      fun m hlevel => runTarget_ends context m children hlevel, List.forall_mem_nil _⟩

/-- What is no command fails at once, and the log is not told of it. -/
theorem run_runCommand_of_unknown {command : String} (h : ¬ IsCommand command) (entry : Log.Entry)
    (config : Config) (host : Option String) (dryRun : Bool) :
    (runCommand children entry command config host dryRun).run m =
      .error (.unknownCommand command) m := by
  have hsteps : stepsOf? children command = none := by
    rwa [← Option.not_isSome_iff_eq_none, isSome_stepsOf?]
  simp only [runCommand, hsteps]
  rfl

/-- A command leaves one verdict in the log, and that is its last word. If all steps have ended well
then it is that the command has finished, with the names of the steps. If a step has not then it is how
the child of that step has ended, and what the step came to by that. If a step has failed altogether then
it is that the command has failed, and the failure is that of the step. Before the verdict there is
neither an error nor a text that begins as the word of a command does. -/
theorem runCommand_verdict (children : Child.Behaviour) (entry : Log.Entry) (command : String)
    (config : Config) (host : Option String) (dryRun : Bool) (m : Machine)
    (hlevel : m.log.level ≤ Log.Level.info) :
    let context : Context := ⟨config, host.getD "", dryRun⟩
    let result := (runCommand children entry command config host dryRun).run m
    (¬ IsCommand command → result = .error (.unknownCommand command) m) ∧
    (IsCommand command → ∃ steps progress,
      stepsOf? children command = some steps ∧
      (∀ n ∈ progress, n.level < Log.Level.error ∧ ¬ "ripple ".toList <+: n.message.toList) ∧
      match result with
      | .ok r m' =>
        (r = ⟨.code 0, steps.map Pipeline.Step.id, none⟩ ∧
          m'.log.notices = m.log.notices ++ progress ++
            [.finished entry command (steps.map Pipeline.Step.id)]) ∨
        (r.ok = false ∧ ∃ step ∈ steps, ∃ before start code,
          Ran children start before (.ok code) m' ∧
          r.returncode = .code (exitStatus code) ∧ r.failedStep = some step.id ∧
          m'.log.notices = m.log.notices ++ progress ++
            [.commandFailed code start.argv, .stepFailed step.id (.code (exitStatus code))])
      | .error e m' =>
        (∃ step ∈ steps, ∃ before after, (step.run context).run before = .error e after ∧
          m' = after.report (.failed entry command)) ∧
        m'.log.notices = m.log.notices ++ progress ++ [.failed entry command]) := by
  intro context result
  refine ⟨fun h => run_runCommand_of_unknown h entry config host dryRun, fun h => ?_⟩
  obtain ⟨steps, hsteps⟩ := Option.isSome_iff_exists.1 ((isSome_stepsOf? children command).2 h)
  have hend : Ending children context m steps [] ((Pipeline.run context steps).run m) :=
    runFrom_ending (stepEnd_of_stepsOf? hsteps) hlevel
  have hresult : result = _ := run_runCommand hsteps entry config host dryRun m
  rw [hresult]
  generalize (Pipeline.run context steps).run m = ending at hend
  cases hend with
  | finished h =>
    have hlast := h.conclude (n := .finished entry command (steps.map Pipeline.Step.id)) hlevel
      (le_refl Log.Level.info)
    obtain ⟨progress, hprogress, hnotices⟩ := hlast.exists_notices
    exact ⟨steps, progress, hsteps, hprogress, .inl ⟨rfl, hnotices⟩⟩
  | @stopped step before m' start code entered hstep hcode hran h =>
    have hbad : Pipeline.Result.ok ⟨.code (exitStatus code), entered, some step.id⟩ = false :=
      beq_eq_false_iff_ne.2 fun hzero => hcode (exitStatus_eq_zero_iff.1 hzero)
    obtain ⟨progress, hprogress, hnotices⟩ := h.exists_notices
    refine ⟨steps, progress, hsteps, hprogress,
      .inr ⟨hbad, step, hstep, before, start, code, ?_, rfl, rfl, ?_⟩⟩
    · rwa [if_neg (Bool.eq_false_iff.1 hbad)]
    · rwa [if_neg (Bool.eq_false_iff.1 hbad)]
  | failed hstep hrun h =>
    have hlast := h.conclude (n := .failed entry command) hlevel Log.Level.info_le_error
    obtain ⟨progress, hprogress, hnotices⟩ := hlast.exists_notices
    exact ⟨steps, progress, hsteps, hprogress, ⟨_, hstep, _, _, hrun, rfl⟩, hnotices⟩

/-- Of a build that a signal ends, the log has the signal, and then what a shell reports. -/
theorem runCommand_verdict_of_killed_build :
    let killed : Child.Behaviour := fun _ site =>
      (.ok ⟨-9, ByteArray.empty, ByteArray.empty⟩, site.files)
    talkingMachine.log.level ≤ Log.Level.info ∧ ∃ m' progress,
      (runCommand killed .command "run" .default (some "10.0.0.1") false).run talkingMachine =
        .ok ⟨.code 137, ["50_build"], some "50_build"⟩ m' ∧
      (∀ n ∈ progress, n.level < Log.Level.error) ∧
      m'.log.notices = progress ++
        [.commandFailed (-9) Config.defaultBuild, .stepFailed "50_build" (.code 137)] := by
  intro killed
  have hinfo : talkingMachine.log.level ≤ Log.Level.info := by decide
  obtain ⟨m', hrun, hnotices⟩ : ∃ m',
      (runCommand killed .command "run" .default (some "10.0.0.1") false).run talkingMachine =
        .ok ⟨.code 137, ["50_build"], some "50_build"⟩ m' ∧
      m'.log.notices = [.runningStep "50_build", .command Config.defaultBuild] ++
        [.commandFailed (-9) Config.defaultBuild, .stepFailed "50_build" (.code 137)] :=
    ⟨_, rfl, rfl⟩
  obtain ⟨-, hcommand⟩ := runCommand_verdict killed .command "run" .default (some "10.0.0.1") false
    talkingMachine hinfo
  obtain ⟨steps, progress, -, hprogress, hverdict⟩ := hcommand (.inr rfl)
  rw [hrun] at hverdict
  rcases hverdict with ⟨h, -⟩ | ⟨-, step, -, before, start, code, -, -, -, htold⟩
  · cases h
  · obtain ⟨hsame, -⟩ := List.append_inj' (hnotices.symm.trans htold) rfl
    exact ⟨hinfo, m', _, hrun, hsame ▸ fun n hn => (hprogress n hn).1, hnotices⟩

end DeviceLauncher.Launch
