import DeviceLauncher.CommandLine.Options
import DeviceLauncher.Proofs.CommandLine.Split

/-!
# What the options of a command line come to

`Options.ofWords` reads words as options, up to a word `--` (`beforeMarker`).

* `Misused words`: one of the words cannot stand where it stands. These are the words that
  `Options.ofWords` refuses (`ofWords_eq_error_iff`).
* `dryRun_ofWords`, `showHelp_ofWords`: a flag is set by the words that are read as it, wherever
  they stand.

`split` has looked at the same words before, and takes `--` for one option among others. As long as
no `--` has passed, what it steps over is read as what it was taken for: `recognized words` lists
these steps, and `beforeMarker_split` says that they are the words looked at here.
-/

namespace DeviceLauncher.CommandLine

/-! ## Spellings -/

/-- Whether a word writes the long name of an option or a beginning of it, perhaps with a `=` and a
value. -/
def Flag.SpelledBy (f : Flag) (w : String) : Prop :=
  ∃ name rest, w.toList = '-' :: '-' :: (name ++ rest) ∧ name ≠ [] ∧
    name <+: f.longName.toList ∧ ∀ c ∈ rest.head?, c = '='

/-- A spelling has the first letter of the name behind its hyphens. -/
theorem Flag.SpelledBy.getElem?_two {f : Flag} {w : String} (h : f.SpelledBy w) :
    w.toList[2]? = f.longName.toList[0]? := by
  obtain ⟨name, rest, hw, hne, hprefix, -⟩ := h
  cases name with
  | nil => exact absurd rfl hne
  | cons c name =>
    obtain ⟨more, hmore⟩ := hprefix
    rw [hw, ← hmore]
    rfl

theorem Flag.mem_startingWith_iff {f : Flag} {name : List Char} :
    f ∈ startingWith name ↔ name <+: f.longName.toList := by
  simp only [startingWith, List.mem_filter, List.isPrefixOf_iff_prefix, and_iff_right_iff_imp]
  intro _
  cases f <;> decide

namespace Reading

variable {value : Option String}

theorem ofOther_ne_config (text : List Char) : ofOther text ≠ config value := by
  unfold ofOther
  split <;> simp

theorem ofLetters_ne_config (letters : List Char) : ofLetters letters ≠ config value := by
  intro h
  unfold ofLetters at h
  split at h
  · cases h
  · cases h
  · generalize List.dropWhile _ _ = others at h
    cases ho : others.isEmpty <;> simp [ho] at h

theorem eq_config_of_ofFlag {flag : Flag} {given : Option String}
    (h : ofFlag flag given = config value) : flag = .config := by
  cases flag with
  | config => rfl
  | help | dryRun => cases given <;> cases h

/-- What is read as `--config` is a spelling of it. -/
theorem spelledBy_of_config {w : String} (h : ofWord w = config value) :
    Flag.config.SpelledBy w := by
  unfold ofWord at h
  split at h
  · next text hw =>
    simp only at h
    split at h
    · exact absurd h (ofOther_ne_config _)
    · next flag hflag =>
      obtain rfl := eq_config_of_ofFlag h
      refine ⟨text.takeWhile (· != '='), text.dropWhile (· != '='), ?_, ?_, ?_, ?_⟩
      · rw [List.takeWhile_append_dropWhile, hw]
      · -- With no letter at all it would be the beginning of every option.
        intro hnil
        rw [hnil] at hflag
        exact absurd hflag (by decide)
      · rw [← Flag.mem_startingWith_iff, hflag]
        exact List.mem_singleton_self _
      · intro c hc
        have hnot := List.head?_dropWhile_not (· != '=') text
        rw [Option.mem_def.1 hc] at hnot
        simpa using hnot
    · cases h
  · exact absurd h (ofLetters_ne_config _)
  · cases h
  · exact absurd h (ofOther_ne_config _)
  · cases h

end Reading

/-! ## Words that are looked at -/

/-- The words that are looked at as options. -/
def beforeMarker (words : List String) : List String := words.takeWhile (· != "--")

@[simp]
theorem beforeMarker_nil : beforeMarker [] = [] := rfl

@[simp]
theorem beforeMarker_marker (rest : List String) : beforeMarker ("--" :: rest) = [] := rfl

theorem beforeMarker_cons {w : String} (h : w ≠ "--") (rest : List String) :
    beforeMarker (w :: rest) = w :: beforeMarker rest := by
  simp [beforeMarker, h]

/-- Whether a word cannot stand in front of some others: it could be several options, gives a value
to an option that takes none, or is `--config` and no word to be its value follows. -/
def Reading.IsWrong (r : Reading) (after : List String) : Prop :=
  match r with
  | .ambiguous | .refused _ _ => True
  | .config none => ∀ v ∈ after.head?, Reading.ofWord v ≠ .word
  | _ => False

/-- Whether some words cannot be read as options. -/
def Misused (words : List String) : Prop :=
  ∃ before w after, beforeMarker words = before ++ w :: after ∧ (Reading.ofWord w).IsWrong after

theorem not_misused_nil : ¬ Misused [] := by
  rintro ⟨before, w, after, he, -⟩
  simp at he

theorem not_misused_marker (rest : List String) : ¬ Misused ("--" :: rest) := by
  rintro ⟨before, w, after, he, -⟩
  simp at he

theorem misused_cons_iff {w : String} (h : w ≠ "--") (rest : List String) :
    Misused (w :: rest) ↔ (Reading.ofWord w).IsWrong (beforeMarker rest) ∨ Misused rest := by
  rw [Misused, beforeMarker_cons h]
  constructor
  · rintro ⟨before, v, after, he, hv⟩
    cases before with
    | nil =>
      cases he
      exact .inl hv
    | cons b before => exact .inr ⟨before, v, after, (List.cons.inj he).2, hv⟩
  · rintro (hw | ⟨before, v, after, he, hv⟩)
    · exact ⟨[], w, _, rfl, hw⟩
    · exact ⟨w :: before, v, after, by rw [he]; rfl, hv⟩

/-- The value of a `--config` is no marker, and a word. -/
theorem of_not_misused_config {w value : String} {rest : List String} (hw : w ≠ "--")
    (hr : Reading.ofWord w = .config none) (h : ¬ Misused (w :: value :: rest)) :
    value ≠ "--" ∧ Reading.ofWord value = .word := by
  rw [misused_cons_iff hw, hr, not_or] at h
  by_cases hv : value = "--"
  · subst hv
    exact absurd (by simp [Reading.IsWrong]) h.1
  · refine ⟨hv, ?_⟩
    simpa [Reading.IsWrong, beforeMarker_cons hv] using h.1

/-! ## Readings of whole lists -/

namespace Options

variable {o o' : Options} {words : List String}

theorem dryRun_read (h : o.read words = .ok o') :
    o'.dryRun = true ↔
      o.dryRun = true ∨ ∃ w ∈ beforeMarker words, Reading.ofWord w = .dryRun := by
  fun_induction read o words with
  | case2 o rest =>
    cases h
    simp [keep]
  | _ => simp_all [beforeMarker_cons, keep]

theorem showHelp_read (h : o.read words = .ok o') :
    o'.showHelp = true ↔
      o.showHelp = true ∨ ∃ w ∈ beforeMarker words, Reading.ofWord w = .help := by
  fun_induction read o words with
  | case2 o rest =>
    cases h
    simp [keep]
  | _ => simp_all [beforeMarker_cons, keep]

theorem read_eq_error_iff : (∃ e, o.read words = .error e) ↔ Misused words := by
  fun_induction read o words with
  | case9 o w hw hr value rest hv =>
    refine iff_of_true ⟨_, rfl⟩ (Classical.byContradiction fun h => ?_)
    exact hv (of_not_misused_config hw hr h)
  | _ =>
    simp_all [misused_cons_iff, not_misused_nil, not_misused_marker, Reading.IsWrong,
      beforeMarker_cons]

/-- Words are refused where they are misused, and nowhere else. -/
theorem ofWords_eq_error_iff : (∃ e, ofWords words = .error e) ↔ Misused words := by
  unfold ofWords
  split
  · next w hw =>
    refine iff_of_true ⟨_, rfl⟩ ?_
    have hmem : w ∈ beforeMarker words := List.mem_of_find?_eq_some hw
    have hr : Reading.ofWord w = .ambiguous := by simpa using List.find?_some hw
    obtain ⟨before, after, he⟩ := List.append_of_mem hmem
    exact ⟨before, w, after, he, by rw [hr]; trivial⟩
  · exact read_eq_error_iff

theorem read_of_ofWords (h : ofWords words = .ok o) : initial.read words = .ok o := by
  unfold ofWords at h
  split at h
  · cases h
  · exact h

theorem not_misused_of_ofWords (h : ofWords words = .ok o) : ¬ Misused words := by
  rw [← ofWords_eq_error_iff, h]
  exact nofun

/-- The words are a dry run where one of them is read as such. -/
theorem dryRun_ofWords (h : ofWords words = .ok o) :
    o.dryRun = true ↔ ∃ w ∈ beforeMarker words, Reading.ofWord w = .dryRun := by
  simpa [initial] using dryRun_read (read_of_ofWords h)

theorem showHelp_ofWords (h : ofWords words = .ok o) :
    o.showHelp = true ↔ ∃ w ∈ beforeMarker words, Reading.ofWord w = .help := by
  simpa [initial] using showHelp_read (read_of_ofWords h)

end Options

/-! ## The same words as `split` sees them -/

/-- What `split` steps over before it comes to a word `--`. -/
def recognized (words : List String) : List Leading :=
  (leading words).takeWhile (· != .option "--")

/-- The value of `--config` that a step gives. -/
def Leading.value? : Leading → Option String
  | option _ => none
  | config value => some value

theorem recognized_config (value : String) (rest : List String) :
    recognized ("--config" :: value :: rest) = .config value :: recognized rest := by
  rw [recognized, leading_config]
  rfl

theorem recognized_option {w : String} (h : looksOptional w = true) (hc : w ≠ "--config")
    (hm : w ≠ "--") (rest : List String) :
    recognized (w :: rest) = .option w :: recognized rest := by
  simp [recognized, leading_option rest h hc, hm]

theorem recognized_marker (rest : List String) : recognized ("--" :: rest) = [] := by
  rw [recognized, leading_option rest (by decide) (by decide)]
  rfl

theorem recognized_of_command {w : String} (h : looksOptional w = false) (rest : List String) :
    recognized (w :: rest) = [] := by
  rw [recognized, leading_of_command rest h]
  rfl

/-- Where options are used rightly, both readers stop at the same `--`. -/
theorem beforeMarker_split {words : List String} (h : ¬ Misused (split words).1) :
    beforeMarker (split words).1 = (recognized words).flatMap Leading.words := by
  fun_induction leading words with
  | case1 => rfl
  | case2 word rest hlook =>
    have hcommand : looksOptional word = false := by simpa using hlook
    rw [split_of_command rest hcommand, recognized_of_command hcommand]
    rfl
  | case3 => decide
  | case4 value rest hlook ih =>
    rw [split_config] at h ⊢
    have hvalue := (of_not_misused_config (by decide) (by decide) h).1
    rw [misused_cons_iff (by decide), misused_cons_iff hvalue, not_or, not_or] at h
    rw [beforeMarker_cons (by decide), beforeMarker_cons hvalue, ih h.2.2, recognized_config]
    rfl
  | case5 word rest hlook hc ih =>
    have hoption : looksOptional word = true := by simpa using hlook
    rw [split_option rest hoption hc] at h ⊢
    by_cases hm : word = "--"
    · subst hm
      rw [recognized_marker]
      rfl
    · rw [misused_cons_iff hm, not_or] at h
      rw [beforeMarker_cons hm, ih h.2, recognized_option hoption hc hm]
      rfl

theorem mem_beforeMarker_of_recognized {words : List String} (h : ¬ Misused (split words).1)
    {w : String} (hw : .option w ∈ recognized words) : w ∈ beforeMarker (split words).1 := by
  rw [beforeMarker_split h]
  exact List.mem_flatMap.2 ⟨_, hw, List.mem_singleton_self w⟩

/-- A word that is no spelling of `--config` does not change what this option says. -/
theorem Options.exists_read_of_ne_config {o o' : Options} {w : String} {rest : List String}
    (hm : w ≠ "--") (hr : ∀ value, Reading.ofWord w ≠ .config value)
    (h : o.read (w :: rest) = .ok o') :
    ∃ o₁ : Options, o₁.read rest = .ok o' ∧ o₁.config = o.config := by
  rw [read.eq_def] at h
  simp only [if_neg hm] at h
  split at h
  · exact ⟨_, h, rfl⟩
  · exact ⟨_, h, rfl⟩
  · exact ⟨_, h, rfl⟩
  · exact ⟨_, h, rfl⟩
  · next hw => exact absurd hw (hr _)
  · next hw => exact absurd hw (hr _)
  · cases h
  · cases h

theorem Options.read_config (o : Options) (value : String) (rest : List String) :
    o.read ("--config" :: value :: rest) =
      if value ≠ "--" ∧ Reading.ofWord value = .word then
        { o with config := some (some value) }.read rest
      else .error (.valueExpected .config) := rfl

/-- If `--config` is always written out, with its value in the next word, then the last of these
values counts. -/
theorem Options.config_read_split {o o' : Options} {words : List String}
    (hplain : ∀ w, .option w ∈ recognized words → ¬ Flag.config.SpelledBy w)
    (h : o.read (split words).1 = .ok o') :
    o'.config = (((recognized words).filterMap Leading.value?).getLast?.map some).or o.config := by
  fun_induction leading words generalizing o with
  | case1 =>
    cases h
    rfl
  | case2 word rest hlook =>
    have hcommand : looksOptional word = false := by simpa using hlook
    rw [split_of_command rest hcommand] at h
    cases h
    rw [recognized_of_command hcommand]
    rfl
  | case3 => cases h
  | case4 value rest hlook ih =>
    rw [split_config, read_config] at h
    rw [recognized_config] at hplain ⊢
    split at h
    · rw [ih (fun w hw => hplain w (List.mem_cons_of_mem _ hw)) h]
      cases hlast : ((recognized rest).filterMap Leading.value?).getLast? <;>
        simp [Leading.value?, List.getLast?_cons, hlast]
    · cases h
  | case5 word rest hlook hc ih =>
    have hoption : looksOptional word = true := by simpa using hlook
    rw [split_option rest hoption hc] at h
    by_cases hm : word = "--"
    · subst hm
      cases h
      rw [recognized_marker]
      rfl
    · rw [recognized_option hoption hc hm] at hplain ⊢
      have hr (value : Option String) : Reading.ofWord word ≠ .config value := fun hr =>
        hplain word List.mem_cons_self (Reading.spelledBy_of_config hr)
      obtain ⟨o₁, hread, hconfig⟩ := exists_read_of_ne_config hm hr h
      rw [ih (fun w hw => hplain w (List.mem_cons_of_mem _ hw)) hread, hconfig]
      rfl

end DeviceLauncher.CommandLine
