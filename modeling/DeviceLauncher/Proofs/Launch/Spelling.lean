import DeviceLauncher.Proofs.CommandLine.Word
import DeviceLauncher.Proofs.Launch.Request

/-!
# Spellings of `--config`

Options can be shortened, and a value can stand behind a `=` or in the next word. For `--config` the
first three of these forms ask for the same, and the last one is a usage error:

* `--config v`, `--config=v` and `--c=v`: `split` steps over the option and its value.
* `--c v`: `split` knows `--config` by its full name only. It takes `v` for the command, and nothing
  is left to be the value.

`Options.ofWords_append` is what makes this a matter of the option alone: words that are read without
an error are read the same in front of others, and leave to them the options that they have set.
`request_of_spelling` is the result on whole command lines.
-/

namespace DeviceLauncher

namespace CommandLine

/-! ## Options in front of options -/

theorem beforeMarker_eq_self {words : List String} (hm : "--" ∉ words) :
    beforeMarker words = words :=
  List.takeWhile_eq_self_iff.2 fun w hw => by simpa using ne_of_mem_of_not_mem hw hm

/-- Options that are read whole do not end with a `--config` that lacks its value. -/
theorem not_endsOpen_of_ofWords {options : List String} {o : Options}
    (hsplit : split options = (options, [])) (hm : "--" ∉ options)
    (h : Options.ofWords options = .ok o) : ¬ EndsOpen options := by
  intro hopen
  obtain ⟨steps, hsteps⟩ := List.getLast?_eq_some_iff.1 hopen
  have hwords := words_leading options
  rw [hsteps, List.flatMap_append, hsplit] at hwords
  refine Options.not_misused_of_ofWords h ⟨steps.flatMap Leading.words, "--config", [], ?_, ?_⟩
  · rw [beforeMarker_eq_self hm]
    exact hwords.symm
  · exact nofun

namespace Options

variable {o o' : Options} {words : List String}

theorem read_append (hm : "--" ∉ words) (h : o.read words = .ok o') (rest : List String) :
    o.read (words ++ rest) = o'.read rest := by
  fun_induction read o words with
  | case1 =>
    cases h
    rfl
  | case2 => exact absurd List.mem_cons_self hm
  | case8 o w hw hr value more hv ih =>
    rw [List.cons_append, List.cons_append, read.eq_def]
    simp only [if_neg hw, hr, if_pos hv]
    exact ih (fun hmem => hm (by simp [hmem])) h
  | case9 | case10 | case11 | case12 => cases h
  | _ =>
    rename_i ih
    rw [List.cons_append, read.eq_def]
    simp only [*]
    exact ih (fun hmem => hm (List.mem_cons_of_mem _ hmem)) h

/-- What words say as options behind others that have set some. -/
def ofWordsFrom (o : Options) (words : List String) : Except UsageError Options :=
  match (beforeMarker words).find? (Reading.ofWord · = .ambiguous) with
  | some w => .error (.ambiguous w)
  | none => o.read words

theorem ofWordsFrom_eq_ok_iff : o.ofWordsFrom words = .ok o' ↔
    (∀ w ∈ beforeMarker words, Reading.ofWord w ≠ .ambiguous) ∧ o.read words = .ok o' := by
  unfold ofWordsFrom
  split
  · next w hw =>
    refine iff_of_false nofun fun h => h.1 w (List.mem_of_find?_eq_some hw) ?_
    simpa using List.find?_some hw
  · next hnone => simpa using fun _ => hnone

/-- What words set, others behind them start from. -/
theorem ofWordsFrom_append (hm : "--" ∉ words) (h : o.ofWordsFrom words = .ok o')
    (rest : List String) : o.ofWordsFrom (words ++ rest) = o'.ofWordsFrom rest := by
  obtain ⟨hambiguous, hread⟩ := ofWordsFrom_eq_ok_iff.1 h
  rw [beforeMarker_eq_self hm] at hambiguous
  have hbefore : beforeMarker (words ++ rest) = words ++ beforeMarker rest :=
    List.takeWhile_append_of_pos fun w hw => by simpa using ne_of_mem_of_not_mem hw hm
  have hfind : words.find? (Reading.ofWord · = .ambiguous) = none := by simpa using hambiguous
  rw [ofWordsFrom, hbefore, List.find?_append, hfind, Option.none_or, read_append hm hread]
  rfl

theorem ofWords_append (hm : "--" ∉ words) (h : ofWords words = .ok o) (rest : List String) :
    ofWords (words ++ rest) = o.ofWordsFrom rest :=
  ofWordsFrom_append hm h rest

end Options

/-! ## A value for `--config` -/

section

variable {w value : String}

theorem Flag.IsSpelling.assigns {f : Flag} (h : f.IsSpelling w) (value : String) :
    f.Assigns (w ++ "=" ++ value) value := by
  obtain ⟨name, hw, hne, hprefix⟩ := h
  exact ⟨name, by simp [hw], hne, hprefix⟩

theorem looksOptional_of_hyphens {text : List Char} (hw : w.toList = '-' :: '-' :: text) :
    looksOptional w = true := by
  have hne : w ≠ "-" := by
    rintro rfl
    cases hw
  simp [looksOptional, hw, hne]

/-- The word `--` is read as no option. -/
theorem ne_marker_of_config {value : Option String} (h : Reading.ofWord w = .config value) :
    w ≠ "--" := by
  rintro rfl
  cases h

theorem ne_marker_of_head? (h : value.toList.head? ≠ some '-') : value ≠ "--" := by
  rintro rfl
  exact h rfl

/-- A word that is no option can be a value. -/
theorem Options.ofWordsFrom_spelled (o : Options) (hw : Flag.config.IsSpelling w)
    (hvalue : value.toList.head? ≠ some '-') :
    o.ofWordsFrom [w, value] = .ok { o with config := some (some value) } := by
  have hr : Reading.ofWord w = .config none := Reading.ofWord_of_isSpelling hw
  have hword : Reading.ofWord value = .word := Reading.ofWord_of_plain hvalue
  rw [ofWordsFrom_eq_ok_iff, read.eq_def]
  simp [beforeMarker_cons, ne_marker_of_config hr, hr, ne_marker_of_head? hvalue, hword, read]

theorem Options.ofWordsFrom_assigned (o : Options) (hw : Flag.config.Assigns w value)
    (hvalue : value ≠ "--") :
    o.ofWordsFrom [w] = .ok { o with config := some (some value) } := by
  have hr : Reading.ofWord w = .config (some value) := Reading.ofWord_of_assigns hw
  rw [ofWordsFrom_eq_ok_iff, read.eq_def]
  simp [beforeMarker_cons, ne_marker_of_config hr, hr, hvalue, read]

theorem Options.ofWordsFrom_open (o : Options) (hw : Flag.config.IsSpelling w) :
    o.ofWordsFrom [w] = .error (.valueExpected .config) := by
  have hr : Reading.ofWord w = .config none := Reading.ofWord_of_isSpelling hw
  rw [ofWordsFrom, read.eq_def]
  simp [beforeMarker_cons, ne_marker_of_config hr, hr]

/-- Whether some words name the configuration, and nothing else: `split` steps over them, and they are
read as that. -/
structure Names (words : List String) (value : String) : Prop where
  split (rest : List String) :
    split (words ++ rest) = (words ++ (split rest).1, (split rest).2)
  no_marker : "--" ∉ words
  read (o : Options) : o.ofWordsFrom words = .ok { o with config := some (some value) }

/-- With a `=` all spellings of the option will do. -/
theorem names_of_assigned (hw : Flag.config.IsSpelling w)
    (hvalue : value.toList.head? ≠ some '-') : Names [w ++ "=" ++ value] value := by
  have hassigns := hw.assigns value
  have hr := Reading.ofWord_of_assigns hassigns
  have hname : w ++ "=" ++ value ≠ "--config" := fun he => by
    rw [he] at hr
    cases hr
  have hlook : looksOptional (w ++ "=" ++ value) = true := by
    obtain ⟨_, hchars, -⟩ := hassigns
    exact looksOptional_of_hyphens hchars
  exact ⟨fun rest => split_option rest hlook hname,
    fun hm => ne_marker_of_config hr (List.mem_singleton.1 hm).symm,
    fun o => o.ofWordsFrom_assigned hassigns (ne_marker_of_head? hvalue)⟩

theorem names_of_written_out (hvalue : value.toList.head? ≠ some '-') :
    Names ["--config", value] value := by
  have hfull : Flag.config.IsSpelling "--config" :=
    ⟨Flag.config.longName.toList, by decide, by decide, List.prefix_rfl⟩
  have hm : "--" ∉ ["--config", value] := by
    simpa using (ne_marker_of_head? hvalue).symm
  exact ⟨split_config value, hm, fun o => o.ofWordsFrom_spelled hfull hvalue⟩

end

end CommandLine

namespace Launch

open CommandLine

/-! ## Command lines -/

section

variable {options first first' : List String} {o : Options} {p value : String}
  (hsplit : split options = (options, [])) (hm : "--" ∉ options)
  (h : Options.ofWords options = .ok o)
include hsplit hm h

/-- It makes no difference by which words a configuration is named. -/
theorem request_of_names (hfirst : Names first value) (hfirst' : Names first' value)
    (tail : List String) : Request.ofWords (options ++ (first ++ tail)) =
      Request.ofWords (options ++ (first' ++ tail)) := by
  have hopen := not_endsOpen_of_ofWords hsplit hm h
  rw [Request.ofWords, split_append hsplit hopen, hfirst.split, Options.ofWords_append hm h,
    Options.ofWordsFrom_append hfirst.no_marker (hfirst.read o), Request.ofWords,
    split_append hsplit hopen, hfirst'.split, Options.ofWords_append hm h,
    Options.ofWordsFrom_append hfirst'.no_marker (hfirst'.read o)]

/-- With a shorter spelling, a value in the next word is taken for the command. -/
theorem request_of_short_spelling (hp : Flag.config.IsSpelling p) (hne : p ≠ "--config")
    (hvalue : value.toList.head? ≠ some '-') (tail : List String) :
    Request.ofWords (options ++ p :: value :: tail) = .misuse (.valueExpected .config) := by
  have hlook : looksOptional p = true := by
    obtain ⟨_, hw, -⟩ := hp
    exact looksOptional_of_hyphens hw
  have hcommand : looksOptional value = false := by simp [looksOptional, hvalue]
  rw [Request.ofWords, split_append hsplit (not_endsOpen_of_ofWords hsplit hm h),
    split_option _ hlook hne, split_of_command tail hcommand, Options.ofWords_append hm h,
    o.ofWordsFrom_open hp]

/-- Behind complete options, and in front of whatever follows, a configuration that does not start
with a hyphen can be named by each spelling of `--config` with a `=`, and by the full name with the
next word: both ask for the same, and are the same program. With the next word behind a shorter
spelling there is a usage error, as if there was no value. -/
theorem request_of_spelling (hp : Flag.config.IsSpelling p) (hvalue : value.toList.head? ≠ some '-')
    (tail : List String) :
    (Request.ofWords (options ++ (p ++ "=" ++ value) :: tail) =
        Request.ofWords (options ++ "--config" :: value :: tail) ∧
      ∀ reader children entry, program reader children entry (options ++ (p ++ "=" ++ value) :: tail) =
        program reader children entry (options ++ "--config" :: value :: tail)) ∧
    (p ≠ "--config" →
      Request.ofWords (options ++ p :: value :: tail) = .misuse (.valueExpected .config) ∧
      ∀ reader children entry m,
        (program reader children entry (options ++ p :: value :: tail)).run m =
        .error (.exit 2) (m.printError (UsageError.valueExpected .config).usage)) := by
  have hsame := request_of_names hsplit hm h (names_of_assigned hp hvalue)
    (names_of_written_out hvalue) tail
  have hshort (hne : p ≠ "--config") := request_of_short_spelling hsplit hm h hp hne hvalue tail
  refine ⟨⟨hsame, fun reader children entry => ?_⟩,
    fun hne => ⟨hshort hne, fun reader children entry m => ?_⟩⟩
  · rw [program_eq_perform, program_eq_perform]
    exact congrArg (Request.perform reader children entry) hsame
  · rw [program_eq_perform, hshort hne]
    rfl

end

/-- An option in front of a shortened one, and a command behind it. -/
theorem request_of_spelling_behind_dry_run : let options := ["--dry-run"]
    Request.ofWords (options ++ ("--c" ++ "=" ++ "x") :: ["init"]) =
        .command "init" (some "x") true none ∧
      Request.ofWords (options ++ "--c" :: "x" :: ["init"]) = .misuse (.valueExpected .config) := by
  intro options
  have hsplit : split options = (options, []) := by decide
  have hm : "--" ∉ options := by decide
  have hoptions : Options.ofWords options = .ok ⟨false, none, true, []⟩ := by decide
  have hp : Flag.config.IsSpelling "--c" := ⟨['c'], by decide, by decide, by decide⟩
  have hvalue : "x".toList.head? ≠ some '-' := by decide
  obtain ⟨⟨hsame, -⟩, hshort⟩ := request_of_spelling hsplit hm hoptions hp hvalue ["init"]
  exact ⟨hsame.trans (by decide), (hshort (by decide)).1⟩

/-- A short name and its value are not always the same in one word as in two. -/
theorem not_spelling_interchangeable : ¬ ∀ (options : List String) (o : Options) (p value : String)
    (tail : List String), split options = (options, []) → "--" ∉ options →
      Options.ofWords options = .ok o → Flag.config.IsSpelling p →
      value.toList.head? ≠ some '-' →
      Request.ofWords (options ++ p :: value :: tail) =
        Request.ofWords (options ++ (p ++ "=" ++ value) :: tail) := by
  intro h
  have hp : Flag.config.IsSpelling "--c" := ⟨['c'], by decide, by decide, by decide⟩
  have hsame := h [] .initial "--c" "x" ["init"] rfl List.not_mem_nil rfl hp (by decide)
  exact absurd hsame (by decide)

end Launch

end DeviceLauncher
