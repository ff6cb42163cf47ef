import DeviceLauncher.Proofs.CommandLine.Options
import DeviceLauncher.Proofs.Launch.Init
import DeviceLauncher.Proofs.Yaml.Reader

/-!
# What a command line asks for

`Request.ofWords` reads off the words alone whether they are misused, ask for help, or name a command,
and with which options and host. `Request.perform` carries that out, and the two in a row are the
program (`program_eq_perform`). So it depends on the words what kind of outcome there is, and on
nothing else.

* `program_of_no_command`: without a command there is the banner, or a usage error.
* `program_request`: the three kinds of outcome, and which of the words matter.
-/

namespace DeviceLauncher.Launch

open CommandLine

/-- What is asked for. -/
inductive Request where
  | misuse (e : UsageError)
  | help
  | command (name : String) (config : Option String) (dryRun : Bool) (host : Option String)
  deriving DecidableEq

/-- Whether there is a command of some name. -/
def IsCommand (name : String) : Prop := name = "init" ∨ name = "run"

instance (name : String) : Decidable (IsCommand name) := inferInstanceAs (Decidable (_ ∨ _))

theorem isSome_stepsOf? (children : Child.Behaviour) (name : String) :
    (stepsOf? children name).isSome ↔ IsCommand name := by
  unfold stepsOf? IsCommand
  by_cases hinit : name = "init"
  · simp [hinit]
  · by_cases hrun : name = "run" <;> simp [hinit, hrun]

namespace Request

/-- What some options ask for that stand before other words. -/
def ofOptions (o : Options) : List String → Request
  | [] => help
  | name :: arguments =>
    if o.showHelp ∨ ¬ IsCommand name then help
    else command name o.config.join o.dryRun (if name = "run" then arguments.head? else none)

/-- What the words of a command line ask for. -/
def ofWords (words : List String) : Request :=
  match Options.ofWords (split words).1 with
  | .error e => misuse e
  | .ok o => ofOptions o (split words).2

/-- Runs a command, with the configuration at a path or the usual one. -/
def runCommandWith (reader : Yaml.Reader) (children : Child.Behaviour) (entry : Log.Entry)
    (name : String) (config : Option String) (dryRun : Bool) (host : Option String) :
    Action Status := do
  let config ← Config.load reader config
  let environment := (← get).environment
  let path ← Action.ofExcept (config.logPath environment)
  let level ← Action.ofExcept (config.logLevel environment)
  let _ ← Log.configure path level true
  if let some source := config.source then Action.report (.usingConfig entry source)
  let result ← runCommand children entry name config host dryRun
  return result.returncode

/-- Carries out what is asked for. -/
def perform (reader : Yaml.Reader) (children : Child.Behaviour) (entry : Log.Entry) :
    Request → Action Status
  | misuse e => do
    modify (·.printError e.usage)
    throw (.exit 2)
  | help => do
    modify (·.print banner)
    return .code 0
  | command name config dryRun host =>
    runCommandWith reader children entry name config dryRun host

end Request

/-- The program reads its words, and carries out what they ask for. -/
theorem program_eq_perform (reader : Yaml.Reader) (children : Child.Behaviour) (entry : Log.Entry)
    (words : List String) : program reader children entry words =
      (Request.ofWords words).perform reader children entry := by
  unfold program Request.ofWords
  simp only
  cases Options.ofWords (split words).1 with
  | error e => rfl
  | ok o =>
    cases (split words).2 with
    | nil => rfl
    | cons name arguments =>
      have hsteps := isSome_stepsOf? children name
      simp only [List.head?_cons, Option.filter_some, Request.ofOptions]
      by_cases hname : IsCommand name
      · simp only [hsteps.2 hname, ↓reduceIte]
        cases o.showHelp with
        | true => simp [Request.perform]
        | false =>
          simp only [Bool.false_eq_true, ↓reduceIte, hname, not_true_eq_false, or_self,
            Request.perform, Request.runCommandWith, List.head?_eq_getElem?]
          rfl
      · simp [mt hsteps.1 hname, hname, Request.perform]

/-! ## What the words decide -/

/-- With no command among the words, options that are misused are a usage error, and all else shows
the banner. Nothing but one of the two is printed. -/
theorem program_of_no_command (reader : Yaml.Reader) (children : Child.Behaviour)
    (entry : Log.Entry) {words : List String}
    (h : ∀ name ∈ (split words).2.head?, ¬ IsCommand name) (m : Machine) :
    (¬ Misused (split words).1 →
      (program reader children entry words).run m = .ok (.code 0) (m.print banner)) ∧
    (Misused (split words).1 → ∃ e : UsageError,
      (program reader children entry words).run m = .error (.exit 2) (m.printError e.usage)) := by
  rw [program_eq_perform, Request.ofWords, ← Options.ofWords_eq_error_iff]
  cases Options.ofWords (split words).1 with
  | error e => exact ⟨fun hno => absurd ⟨e, rfl⟩ hno, fun _ => ⟨e, rfl⟩⟩
  | ok o =>
    have hhelp : Request.ofOptions o (split words).2 = .help := by
      cases hrest : (split words).2 with
      | nil => rfl
      | cons name arguments =>
        exact if_pos (.inr (h name (by rw [hrest]; rfl)))
    refine ⟨fun _ => ?_, fun ⟨e, he⟩ => nomatch he⟩
    simp only [hhelp]
    rfl

/-- A word that cannot be told from several options is refused before the banner is thought of. -/
theorem program_of_no_command_ambiguous :
    (∀ name ∈ (split ["--=x"]).2.head?, ¬ IsCommand name) ∧ Misused (split ["--=x"]).1 ∧
      ∃ e : UsageError,
        (program Yaml.sampleReader noChildren .command ["--=x"]).run (.idle .empty .empty []) =
          .error (.exit 2) ((Machine.idle .empty .empty []).printError e.usage) := by
  have hno : ∀ name ∈ (split ["--=x"]).2.head?, ¬ IsCommand name := by decide
  have hmisused : Misused (split ["--=x"]).1 := Options.ofWords_eq_error_iff.1 ⟨_, rfl⟩
  exact ⟨hno, hmisused,
    (program_of_no_command Yaml.sampleReader noChildren .command hno _).2 hmisused⟩

theorem not_always_banner :
    ¬ ∀ (words : List String) (m : Machine), (∀ name ∈ (split words).2.head?, ¬ IsCommand name) →
      (program Yaml.sampleReader noChildren .command words).run m =
        .ok (.code 0) (m.print banner) := by
  intro h
  have hrun := h ["--=x"] (.idle .empty .empty []) (by decide)
  rw [program_eq_perform] at hrun
  have hrequest : Request.ofWords ["--=x"] = .misuse (.ambiguous "--=x") := by decide
  rw [hrequest] at hrun
  cases hrun

/-- Options that are complete are read by themselves, whatever command follows. -/
theorem Request.ofWords_append {options : List String} (h : split options = (options, []))
    (ho : ¬ EndsOpen options) {name : String} (hname : looksOptional name = false)
    (arguments : List String) :
    ofWords (options ++ name :: arguments) = match Options.ofWords options with
      | .error e => .misuse e
      | .ok o => ofOptions o (name :: arguments) := by
  rw [ofWords, split_append h ho, split_of_command arguments hname, List.append_nil]

/-- What a program does depends on its words as follows.

* They decide, whatever the machine is, whether there is a usage error, the banner, or a command,
  and then with which options and host. The first two print a text and do nothing else.
* After options that are complete, only the first argument of `run` matters, which is the host as it
  stands there, and no argument of `init` does. -/
theorem program_request (reader : Yaml.Reader) (children : Child.Behaviour) (entry : Log.Entry) :
    (∀ words m, (program reader children entry words).run m =
      match Request.ofWords words with
      | .misuse e => .error (.exit 2) (m.printError e.usage)
      | .help => .ok (.code 0) (m.print banner)
      | .command name config dryRun host =>
        (Request.runCommandWith reader children entry name config dryRun host).run m) ∧
    ∀ options, split options = (options, []) → ¬ EndsOpen options →
      (∀ host tail tail', program reader children entry (options ++ "run" :: host :: tail) =
        program reader children entry (options ++ "run" :: host :: tail')) ∧
      (∀ host tail o, Options.ofWords options = .ok o → o.showHelp = false →
        Request.ofWords (options ++ "run" :: host :: tail) =
          .command "run" o.config.join o.dryRun (some host)) ∧
      ∀ tail tail', program reader children entry (options ++ "init" :: tail) =
        program reader children entry (options ++ "init" :: tail') := by
  refine ⟨fun words m => ?_, fun options h ho => ⟨fun host tail tail' => ?_, ?_, fun tail tail' => ?_⟩⟩
  · rw [program_eq_perform]
    cases Request.ofWords words <;> rfl
  · rw [program_eq_perform, program_eq_perform, Request.ofWords_append h ho (by decide),
      Request.ofWords_append h ho (by decide)]
    rfl
  · intro host tail o hoptions hhelp
    rw [Request.ofWords_append h ho (by decide), hoptions]
    simp [Request.ofOptions, hhelp, IsCommand]
  · rw [program_eq_perform, program_eq_perform, Request.ofWords_append h ho (by decide),
      Request.ofWords_append h ho (by decide)]
    rfl

/-- A configuration may be called as a command is, and a host as an option. -/
theorem program_request_of_option_host : let options := ["--config", "run"]
    split options = (options, []) ∧ ¬ EndsOpen options ∧
      Request.ofWords (options ++ "run" :: "-h" :: []) =
        .command "run" (some "run") false (some "-h") ∧
      program Yaml.sampleReader noChildren .command (options ++ "run" :: "-h" :: ["--dry-run"]) =
        program Yaml.sampleReader noChildren .command (options ++ "run" :: "-h" :: []) := by
  intro options
  have hsplit : split options = (options, []) := by decide
  have hclosed : ¬ EndsOpen options := by decide
  obtain ⟨hhost, hrequest, -⟩ :=
    (program_request Yaml.sampleReader noChildren .command).2 options hsplit hclosed
  exact ⟨hsplit, hclosed, hrequest "-h" [] _ rfl rfl, hhost "-h" _ _⟩

end DeviceLauncher.Launch
