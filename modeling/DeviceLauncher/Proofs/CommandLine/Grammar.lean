import DeviceLauncher.Proofs.CommandLine.Split

/-!
# The grammar of what stands before the command

Before the command stand options, each of them complete (`AreComplete`): a word that begins with a
hyphen, or `--config` with any word for its value. A `--config` at the very end may lack its value
(`LackValue`), and then no word is left for a command.

* `Parses words options rest`: the words are some options and a rest with which the command begins.
* `split_greedy`: `split` gives the only options and rest of this kind. It reads the options again as it
  has read them, and more words at the end change nothing but the rest, unless a `--config` waits for one.
-/

namespace DeviceLauncher.CommandLine

/-- Options one after the other, each of them complete. -/
inductive AreComplete : List String → Prop where
  | nil : AreComplete []
  | option {word : String} {options : List String} : word.toList.head? = some '-' → word ≠ "-" →
      word ≠ "--config" → AreComplete options → AreComplete (word :: options)
  | config (value : String) {options : List String} : AreComplete options →
      AreComplete ("--config" :: value :: options)

/-- Whether words are complete options and then a `--config` without a value. -/
def LackValue (words : List String) : Prop :=
  ∃ options, AreComplete options ∧ words = options ++ ["--config"]

/-- Whether a word is no option, so that the command begins with it. -/
def BeginsCommand (word : String) : Prop :=
  word = "-" ∨ word = "" ∨ word.toList.head? ≠ some '-'

/-- Whether words are some options and then a rest with which the command begins. -/
structure Parses (words options rest : List String) : Prop where
  whole : options ++ rest = words
  options : AreComplete options ∨ LackValue options ∧ rest = []
  rest : ∀ word ∈ rest.head?, BeginsCommand word

variable {word : String} {words options rest : List String}

/-! ## Single words -/

theorem looksOptional_iff :
    looksOptional word = true ↔ word.toList.head? = some '-' ∧ word ≠ "-" := by
  simp [looksOptional]

theorem looksOptional_eq_false_iff : looksOptional word = false ↔ BeginsCommand word := by
  rw [← Bool.not_eq_true, looksOptional_iff, BeginsCommand]
  constructor
  · intro h
    by_cases hhead : word.toList.head? = some '-'
    · exact .inl (Decidable.byContradiction fun hne => h ⟨hhead, hne⟩)
    · exact .inr (.inr hhead)
  · rintro (rfl | rfl | hhead) ⟨hhead', hne⟩
    · exact hne rfl
    · cases hhead'
    · exact hhead hhead'

/-- Nothing is taken off words with which the command begins. -/
theorem split_of_beginsCommand (h : ∀ word ∈ rest.head?, BeginsCommand word) :
    split rest = ([], rest) := by
  cases rest with
  | nil => rfl
  | cons word rest => exact split_of_command rest (looksOptional_eq_false_iff.2 (h word rfl))

/-! ## Options -/

/-- Complete options are taken off, whatever follows them. -/
theorem AreComplete.split_append (h : AreComplete options) (rest : List String) :
    split (options ++ rest) = (options ++ (split rest).1, (split rest).2) := by
  induction h with
  | nil => rfl
  | option hhead hhyphen hconfig _ ih =>
    have hlook := looksOptional_iff.2 ⟨hhead, hhyphen⟩
    rw [List.cons_append, split_option _ hlook hconfig, ih]
    rfl
  | config value _ ih =>
    rw [List.cons_append, List.cons_append, split_config, ih]
    rfl

theorem LackValue.split_eq (h : LackValue options) : split options = (options, []) := by
  obtain ⟨front, hfront, rfl⟩ := h
  rw [hfront.split_append]
  rfl

/-- The grammar leaves no choice. -/
theorem Parses.split_eq (h : Parses words options rest) : split words = (options, rest) := by
  obtain ⟨rfl, hoptions, hrest⟩ := h
  rcases hoptions with hoptions | ⟨hoptions, rfl⟩
  · rw [hoptions.split_append, split_of_beginsCommand hrest, List.append_nil]
  · rw [List.append_nil]
    exact hoptions.split_eq

theorem Parses.option (hhead : word.toList.head? = some '-') (hhyphen : word ≠ "-")
    (hconfig : word ≠ "--config") (h : Parses words options rest) :
    Parses (word :: words) (word :: options) rest where
  whole := by rw [List.cons_append, h.whole]
  options := by
    rcases h.options with hoptions | ⟨⟨front, hfront, hlast⟩, hnil⟩
    · exact .inl (.option hhead hhyphen hconfig hoptions)
    · exact .inr ⟨⟨word :: front, .option hhead hhyphen hconfig hfront, by rw [hlast]; rfl⟩, hnil⟩
  rest := h.rest

theorem Parses.config (value : String) (h : Parses words options rest) :
    Parses ("--config" :: value :: words) ("--config" :: value :: options) rest where
  whole := by rw [List.cons_append, List.cons_append, h.whole]
  options := by
    rcases h.options with hoptions | ⟨⟨front, hfront, hlast⟩, hnil⟩
    · exact .inl (.config value hoptions)
    · exact .inr ⟨⟨"--config" :: value :: front, .config value hfront, by rw [hlast]; rfl⟩, hnil⟩
  rest := h.rest

/-- What is split off is in the grammar. -/
theorem parses_split (words : List String) : Parses words (split words).1 (split words).2 := by
  fun_induction leading words with
  | case1 => exact ⟨rfl, .inl .nil, by simp [split]⟩
  | case2 word rest h =>
    have hlook : looksOptional word = false := by simpa using h
    rw [split_of_command rest hlook]
    refine ⟨rfl, .inl .nil, ?_⟩
    rintro _ ⟨⟩
    exact looksOptional_eq_false_iff.1 hlook
  | case3 =>
    refine ⟨rfl, .inr ⟨⟨[], .nil, rfl⟩, rfl⟩, ?_⟩
    rintro _ ⟨⟩
  | case4 value rest h ih =>
    rw [split_config]
    exact ih.config value
  | case5 word rest h hconfig ih =>
    have hlook : looksOptional word = true := by simpa using h
    obtain ⟨hhead, hhyphen⟩ := looksOptional_iff.1 hlook
    rw [split_option rest hlook hconfig]
    exact ih.option hhead hhyphen hconfig

theorem split_eq_iff : split words = (options, rest) ↔ Parses words options rest := by
  constructor
  · intro h
    have hparses := parses_split words
    rwa [h] at hparses
  · exact Parses.split_eq

/-! ## Longer argument lists -/

theorem Parses.split_options (h : Parses words options rest) : split options = (options, []) := by
  rcases h.options with hoptions | ⟨hoptions, -⟩
  · have hsplit := hoptions.split_append []
    rwa [List.append_nil, show split [] = ([], []) from rfl, List.append_nil] at hsplit
  · exact hoptions.split_eq

/-- Words at the end of a command belong to it. -/
theorem Parses.append (h : Parses words options rest) (hne : rest ≠ []) (tail : List String) :
    Parses (words ++ tail) options (rest ++ tail) where
  whole := by rw [← List.append_assoc, h.whole]
  options := h.options.imp_right fun hlack => absurd hlack.2 hne
  rest := by
    obtain ⟨word, more, rfl⟩ := List.exists_cons_of_ne_nil hne
    exact h.rest

/-- The words before the command are taken apart as the grammar says, and in no other way.

* The options are read again as they have been read, without a rest.
* With a command among the words, more words at the end belong to it.
* Without one, they are taken apart by themselves, unless the last option would take the first of them
  for its value. -/
theorem split_greedy (words : List String) :
    let (options, rest) := split words
    (∀ options' rest', Parses words options' rest' ↔ options' = options ∧ rest' = rest) ∧
    split options = (options, []) ∧
    ∀ tail, (rest ≠ [] → split (words ++ tail) = (options, rest ++ tail)) ∧
      (rest = [] → ¬ LackValue options →
        split (words ++ tail) = (options ++ (split tail).1, (split tail).2)) := by
  have hparses := parses_split words
  refine ⟨fun options' rest' => ?_, hparses.split_options, fun tail => ⟨fun hne => ?_, ?_⟩⟩
  · rw [← split_eq_iff, Prod.ext_iff, eq_comm, @eq_comm _ rest']
  · exact (hparses.append hne tail).split_eq
  · intro hnil hlack
    have hcomplete : AreComplete (split words).1 := hparses.options.resolve_right fun h => hlack h.1
    have hwords : (split words).1 = words := by
      have hwhole := hparses.whole
      rwa [hnil, List.append_nil] at hwhole
    rw [hwords] at hcomplete ⊢
    exact hcomplete.split_append tail

/-- A `--config` that is the value of another one takes no value itself. -/
theorem split_greedy_of_config_value :
    split ["--config", "--config", "-x", "run", "--config"] =
      (["--config", "--config", "-x"], ["run", "--config"]) ∧
    split ["--config", "--config", "-x", "run"] = (["--config", "--config", "-x"], ["run"]) :=
  ⟨((split_greedy ["--config", "--config", "-x", "run"]).2.2 ["--config"]).1 (by decide), by decide⟩

end DeviceLauncher.CommandLine
