import DeviceLauncher.Proofs.Launch.DryProgram

/-!
# Options before the command are heeded

An option that stands before the command, and before a word `--`, counts (`leading_options`). In
particular a dry run is one: it changes no files but those of the log, and starts no children
(`logChanged_program_of_dryRun`).

Behind `--` this fails. `split` goes on to the command there, and what it steps over on the way is no
option any more (`leading_options_dropped`).
-/

namespace DeviceLauncher

open CommandLine

namespace Launch

variable (reader : Yaml.Reader) (children : Child.Behaviour) (entry : Log.Entry)

/-- Every option before the command that `split` steps over before it comes to a word `--` counts, if
the words are no misuse: the flags are set, and the last `--config` names the configuration unless
there are other spellings of it. A dry run changes no files but those of the log, and starts no
children. -/
theorem leading_options {words : List String} {o : Options}
    (h : Options.ofWords (split words).1 = .ok o) :
    (.option "--dry-run" ∈ recognized words → o.dryRun = true ∧ ∀ m : Machine,
      let m' := (program reader children entry words).after m
      m'.children = m.children ∧ (m.files.WellFormed →
        FileSystem.Frame m'.LogsTo m'.LogsTo (fun _ => True) m.files m'.files)) ∧
    (.option "-h" ∈ recognized words ∨ .option "--help" ∈ recognized words → o.showHelp = true) ∧
    ((∀ w, .option w ∈ recognized words → ¬ Flag.config.SpelledBy w) →
      o.config = ((recognized words).filterMap Leading.value?).getLast?.map some) := by
  have hused : ¬ Misused (split words).1 := Options.not_misused_of_ofWords h
  refine ⟨fun hmem => ?_, fun hmem => ?_, fun hplain => ?_⟩
  · have hdry : o.dryRun = true := (Options.dryRun_ofWords h).2
      ⟨_, mem_beforeMarker_of_recognized hused hmem, by decide⟩
    refine ⟨hdry, fun m => ?_⟩
    have hlog := logChanged_program_of_dryRun reader children entry h hdry m
    exact ⟨hlog.children, hlog.frame⟩
  · rw [Options.showHelp_ofWords h]
    rcases hmem with hmem | hmem
    · exact ⟨_, mem_beforeMarker_of_recognized hused hmem, by decide⟩
    · exact ⟨_, mem_beforeMarker_of_recognized hused hmem, by decide⟩
  · rw [Options.config_read_split hplain (Options.read_of_ofWords h)]
    exact Option.or_none

/-- Options in front of each command are heeded, and another option is passed over. -/
theorem leading_options_of_dry_run :
    let words := ["--verbose", "--dry-run", "--config", "c", "run", "-h"]
    ∃ o, Options.ofWords (split words).1 = .ok o ∧ o.dryRun = true ∧ o.config = some (some "c") ∧
      ((program Yaml.sampleReader noChildren .command words).after
        (.idle .empty .empty [])).children = [] := by
  intro words
  obtain ⟨o, ho⟩ : ∃ o, Options.ofWords (split words).1 = .ok o := ⟨_, rfl⟩
  have hrecognized : recognized words =
      [.option "--verbose", .option "--dry-run", .config "c"] := by decide
  obtain ⟨hdry, -, hconfig⟩ := leading_options Yaml.sampleReader noChildren .command ho
  rw [hrecognized] at hdry hconfig
  obtain ⟨hdry, hrun⟩ := hdry (by decide)
  refine ⟨o, ho, hdry, hconfig fun w hw hspelled => ?_, (hrun _).1⟩
  have hletter := hspelled.getElem?_two
  simp only [List.mem_cons, Leading.option.injEq, reduceCtorEq, List.not_mem_nil, or_false] at hw
  obtain rfl | rfl := hw <;> exact absurd hletter (by decide)

/-- Behind a word `--` an option is stepped over, and does not count. -/
theorem leading_options_dropped :
    ¬ ∀ (words : List String) (o : Options), Options.ofWords (split words).1 = .ok o →
      .option "--dry-run" ∈ leading words → o.dryRun = true := by
  intro h
  have hdry := h ["--", "--dry-run", "init"] _ rfl (by decide)
  exact absurd hdry (by decide)

end Launch

end DeviceLauncher
