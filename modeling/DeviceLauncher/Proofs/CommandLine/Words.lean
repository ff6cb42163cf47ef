import DeviceLauncher.Proofs.CommandLine.Word

/-!
# What the words in front of a command come to

With the classes of words, `Options.ofWords` can be told without reading the words one after the
other:

* `IsRefused words`: a word is bad, or `--config` lacks its value. These are the words that are
  misused (`Options.isRefused_iff`).
* `Says words o`: what each option comes to, by the words that set it wherever they stand.

`Options.ofWords_split` puts the two together, for the words that `split` finds in front of a
command.
-/

namespace DeviceLauncher.CommandLine

theorem marker_notMem_beforeMarker (words : List String) : "--" ∉ beforeMarker words := fun h => by
  simpa using List.mem_takeWhile_imp h

theorem ne_marker_of_mem {w : String} {words : List String} (h : w ∈ beforeMarker words) :
    w ≠ "--" :=
  ne_of_mem_of_not_mem h (marker_notMem_beforeMarker words)

/-- Whether some words in front of a word `--` are refused: one of them is bad, or a spelling of
`--config` has no word behind it. -/
def IsRefused (words : List String) : Prop :=
  (∃ w ∈ words, IsBad w) ∨ ∃ before w after, words = before ++ w :: after ∧
    Flag.config.IsSpelling w ∧ ∀ v ∈ after.head?, ¬ IsWord v

/-- Whether options say what some words in front of a word `--` do. -/
structure Says (words : List String) (o : Options) : Prop where
  showHelp : o.showHelp = true ↔ ∃ w ∈ words, AsksForHelp w
  dryRun : o.dryRun = true ↔ ∃ w ∈ words, Flag.dryRun.IsSpelling w
  unset : (∀ w ∈ words, ¬ Flag.config.SpelledBy w) → o.config = none
  /-- The last word about `--config` counts. -/
  spelled {before after : List String} {w value : String} :
    words = before ++ w :: value :: after → Flag.config.IsSpelling w →
      (∀ v ∈ after, ¬ Flag.config.SpelledBy v) → o.config = some (some value)
  assigned {before after : List String} {w value : String} :
    words = before ++ w :: after → Flag.config.Assigns w value →
      (∀ v ∈ after, ¬ Flag.config.SpelledBy v) →
        o.config = some (if value = "--" then none else some value)

/-- What a reading makes of `--config`, if it is about it. -/
def Reading.setting (after : List String) : Reading → Option (Option String)
  | config none => after.head?.map some
  | config (some value) => some (if value = "--" then none else some value)
  | _ => none

/-- What the last word about `--config` makes of it. -/
def lastSetting : List String → Option (Option String)
  | [] => none
  | w :: after => (lastSetting after).or ((Reading.ofWord w).setting after)

theorem lastSetting_append {before after : List String} {w : String} {value : Option String}
    (hw : (Reading.ofWord w).setting after = some value) (hafter : lastSetting after = none) :
    lastSetting (before ++ w :: after) = some value := by
  induction before with
  | nil => rw [List.nil_append, lastSetting, hafter, hw, Option.none_or]
  | cons b before ih => rw [List.cons_append, lastSetting, ih, Option.some_or]

theorem lastSetting_eq_none {words : List String} (h : ∀ w ∈ words, ¬ Flag.config.SpelledBy w) :
    lastSetting words = none := by
  induction words with
  | nil => rfl
  | cons w words ih =>
    rw [List.forall_mem_cons] at h
    rw [lastSetting, ih h.2, Option.none_or]
    cases hr : Reading.ofWord w with
    | config value => exact absurd (Reading.spelledBy_of_config hr) h.1
    | _ => rfl

namespace Options

variable {o o' : Options} {words : List String}

theorem config_read (h : o.read words = .ok o') :
    o'.config = (lastSetting (beforeMarker words)).or o.config := by
  fun_induction read o words with
  | case1 o | case2 o rest =>
    cases h
    rfl
  | _ => simp_all [beforeMarker_cons, lastSetting, Reading.setting, keep]

theorem isRefused_iff : IsRefused (beforeMarker words) ↔ Misused words := by
  have hiff {before after : List String} {w : String}
      (he : beforeMarker words = before ++ w :: after) :
      (Reading.ofWord w).IsWrong after ↔
        IsBad w ∨ Flag.config.IsSpelling w ∧ ∀ v ∈ after.head?, ¬ IsWord v := by
    have hm := marker_notMem_beforeMarker words
    rw [he] at hm
    simp only [List.mem_append, List.mem_cons, not_or] at hm
    exact Reading.isWrong_ofWord_iff (Ne.symm hm.2.1) hm.2.2
  constructor
  · rintro (⟨w, hw, hbad⟩ | ⟨before, w, after, he, hw⟩)
    · obtain ⟨before, after, he⟩ := List.append_of_mem hw
      exact ⟨before, w, after, he, (hiff he).2 (.inl hbad)⟩
    · exact ⟨before, w, after, he, (hiff he).2 (.inr hw)⟩
  · rintro ⟨before, w, after, he, hw⟩
    obtain hbad | hw := (hiff he).1 hw
    · exact .inl ⟨w, by simp [he], hbad⟩
    · exact .inr ⟨before, w, after, he, hw⟩

theorem says_of_ofWords (h : ofWords words = .ok o) : Says (beforeMarker words) o := by
  have hconfig : o.config = lastSetting (beforeMarker words) := by
    rw [config_read (read_of_ofWords h)]
    exact Option.or_none
  constructor
  case showHelp =>
    rw [showHelp_ofWords h]
    exact exists_congr fun w => and_congr_right fun hw =>
      Reading.ofWord_eq_help_iff (ne_marker_of_mem hw)
  case dryRun =>
    rw [dryRun_ofWords h]
    exact exists_congr fun w => and_congr_right fun hw =>
      Reading.ofWord_eq_dryRun_iff (ne_marker_of_mem hw)
  case unset =>
    exact fun hnone => by rw [hconfig, lastSetting_eq_none hnone]
  case spelled =>
    intro before after w value he hw hlast
    have hr := Reading.ofWord_of_isSpelling hw
    have hvalue : Reading.ofWord value = .word := Classical.byContradiction fun hne =>
      not_misused_of_ofWords h ⟨before, w, value :: after, he, by
        rw [hr]
        simpa [Reading.IsWrong, Reading.ofFlag] using hne⟩
    have hafter : lastSetting (value :: after) = none := by
      rw [lastSetting, hvalue, lastSetting_eq_none hlast]
      rfl
    rw [hconfig, he]
    exact lastSetting_append (by rw [hr]; rfl) hafter
  case assigned =>
    intro before after w value he hw hlast
    rw [hconfig, he]
    exact lastSetting_append (by rw [Reading.ofWord_of_assigns hw]; rfl) (lastSetting_eq_none hlast)

/-- What options come to can be told from the classes of their words, for all command lines. -/
theorem ofWords_split (words : List String) : match ofWords (split words).1 with
    | .error _ => IsRefused (beforeMarker (split words).1)
    | .ok o => ¬ IsRefused (beforeMarker (split words).1) ∧
        Says (beforeMarker (split words).1) o := by
  split
  · next e he => exact isRefused_iff.2 (ofWords_eq_error_iff.1 ⟨e, he⟩)
  · next o ho => exact ⟨mt isRefused_iff.1 (not_misused_of_ofWords ho), says_of_ofWords ho⟩

/-- A value may have a space inside, and options are repeated or shortened. -/
theorem ofWords_split_of_spaced_value :
    Says ["--config", "a b", "-hh", "--d"] ⟨true, some (some "a b"), true, []⟩ :=
  (ofWords_split ["--config", "a b", "-hh", "--d", "init"]).2

/-- What goes on behind `-h` with another letter can still ask for help. -/
theorem not_refused_of_help_sign : ¬ ∀ words : List String,
    (∃ w ∈ beforeMarker (split words).1, ['-', 'h'] <+: w.toList ∧ ∃ c ∈ w.toList.drop 2, c ≠ 'h') →
      ∃ e, ofWords (split words).1 = .error e := by
  intro h
  obtain ⟨e, he⟩ := h ["-h=h"] ⟨"-h=h", by decide, by decide, '=', by decide, by decide⟩
  cases he

end Options

end DeviceLauncher.CommandLine
