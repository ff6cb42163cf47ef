import DeviceLauncher.Proofs.CommandLine.Options
import Mathlib.Data.List.TakeWhile

/-!
# The classes of words

What a word in front of a word `--` is can be told from its characters, without a look at how it is
read:

* `Flag.IsSpelling`: two hyphens and a beginning of the long name of an option.
* `Flag.Assigns`: such a spelling, a `=`, and a value.
* `AsksForHelp`, `IsBad`: the words that show the help, and those that are wrong wherever they stand.
* `IsWord`: the words that can be the value of an option.
* `IsForeign`: none of the above but perhaps the last.

`Reading.fits_ofWord` says that a word is of the class of what it is read as. The lemmas in front of
it go the other way, from each class to the reading, and so the two are the same.
-/

namespace DeviceLauncher.CommandLine

/-! ## Classes of words -/

/-- Whether a word writes the long name of an option, or a beginning of it. -/
def Flag.IsSpelling (f : Flag) (w : String) : Prop :=
  ∃ name, w.toList = '-' :: '-' :: name ∧ name ≠ [] ∧ name <+: f.longName.toList

/-- Whether a word is a spelling of an option, a `=`, and a value. -/
def Flag.Assigns (f : Flag) (w value : String) : Prop :=
  ∃ name, w.toList = '-' :: '-' :: (name ++ '=' :: value.toList) ∧ name ≠ [] ∧
    name <+: f.longName.toList

/-- Whether a word asks for help: by a spelling, by `-h` with the letter repeated, or by `-h=` with
the letter behind it once or more. -/
inductive AsksForHelp (w : String) : Prop where
  | spelling : Flag.help.IsSpelling w → AsksForHelp w
  | letters (n : Nat) : w.toList = '-' :: List.replicate (n + 1) 'h' → AsksForHelp w
  | sign (n : Nat) : w.toList = '-' :: 'h' :: '=' :: List.replicate (n + 1) 'h' → AsksForHelp w

/-- Whether a word is wrong wherever it stands: it is a `=` after two hyphens, gives a value to an
option that takes none, or goes on after `-h` in a way that does not ask for help. -/
inductive IsBad (w : String) : Prop where
  | sign : ['-', '-', '='] <+: w.toList → IsBad w
  | value {f : Flag} {value : String} : f ≠ .config → f.Assigns w value → IsBad w
  | letters {c : Char} : ['-', 'h'] <+: w.toList → c ∈ w.toList.drop 2 → c ≠ 'h' →
      (∀ n, w.toList ≠ '-' :: 'h' :: '=' :: List.replicate (n + 1) 'h') → IsBad w

/-- Whether a text is digits, perhaps with a point before the last ones. -/
inductive IsDecimal (text : List Char) : Prop where
  | whole : text ≠ [] → (∀ c ∈ text, Text.isDigit c = true) → IsDecimal text
  | fraction {whole fraction : List Char} : text = whole ++ '.' :: fraction → fraction ≠ [] →
      (∀ c ∈ whole, Text.isDigit c = true) → (∀ c ∈ fraction, Text.isDigit c = true) →
      IsDecimal text

/-- Whether a word is a negative number. A line end may follow it. -/
def IsNegative (w : String) : Prop :=
  ∃ text, w.toList = '-' :: text ∧
    (IsDecimal text ∨ ∃ number, text = number ++ ['\n'] ∧ IsDecimal number)

/-- Whether a word is no option of the launcher, nor an attempt at one. -/
structure IsForeign (w : String) : Prop where
  help : ¬ AsksForHelp w
  dryRun : ¬ Flag.dryRun.IsSpelling w
  config : ¬ Flag.config.IsSpelling w
  assigned (value : String) : ¬ Flag.config.Assigns w value
  bad : ¬ IsBad w

/-- Whether a word can be the value of an option. -/
inductive IsWord (w : String) : Prop where
  | plain : w.toList.head? ≠ some '-' → IsWord w
  | hyphen : w = "-" → IsWord w
  | negative : IsNegative w → IsWord w
  | spaced : ' ' ∈ w.toList → IsForeign w → IsWord w

/-! ## Names of options -/

namespace Flag

variable {f g : Flag} {name : List Char}

/-- The options have different first letters. -/
theorem eq_of_prefix (hne : name ≠ []) (hf : name <+: f.longName.toList)
    (hg : name <+: g.longName.toList) : f = g := by
  cases name with
  | nil => exact absurd rfl hne
  | cons c name =>
    obtain ⟨rest, hrest⟩ := hf
    obtain ⟨rest', hrest'⟩ := hg
    have hletter : f.longName.toList.head? = g.longName.toList.head? := by
      rw [← hrest, ← hrest']
      rfl
    revert hletter
    cases f <;> cases g <;> decide

/-- One letter is enough to tell the options apart. -/
theorem startingWith_of_prefix (hne : name ≠ []) (hf : name <+: f.longName.toList) :
    startingWith name = [f] := by
  have hunique (g : Flag) : name.isPrefixOf g.longName.toList = decide (g = f) := by
    rw [Bool.eq_iff_iff, List.isPrefixOf_iff_prefix, decide_eq_true_iff]
    exact ⟨fun hg => eq_of_prefix hne hg hf, fun h => h ▸ hf⟩
  simp only [startingWith, hunique]
  cases f <;> decide

theorem startingWith_eq_nil (h : ∀ f : Flag, ¬ name <+: f.longName.toList) :
    startingWith name = [] :=
  List.eq_nil_iff_forall_not_mem.2 fun f hf => h f (mem_startingWith_iff.1 hf)

theorem not_mem_of_prefix (hf : name <+: f.longName.toList) : '=' ∉ name := by
  intro h
  have hmem := hf.subset h
  revert hmem
  cases f <;> decide

end Flag

/-! ## What no option is -/

namespace IsForeign

variable {w : String}

theorem not_isSpelling (h : IsForeign w) (f : Flag) : ¬ f.IsSpelling w := by
  cases f with
  | help => exact fun hf => h.help (.spelling hf)
  | config => exact h.config
  | dryRun => exact h.dryRun

theorem not_assigns (h : IsForeign w) (f : Flag) (value : String) : ¬ f.Assigns w value := by
  cases f with
  | config => exact h.assigned value
  | help | dryRun => exact fun hf => h.bad (.value (by decide) hf)

/-- After `-h` a word asks for help or is wrong. -/
theorem not_letters (h : IsForeign w) (letters : List Char) :
    w.toList ≠ '-' :: 'h' :: letters := by
  intro hw
  by_cases hall : ∀ c ∈ letters, c = 'h'
  · have hletters : letters = List.replicate letters.length 'h' :=
      List.eq_replicate_iff.2 ⟨rfl, hall⟩
    exact h.help (.letters letters.length (by rw [hw, List.replicate_succ, ← hletters]))
  · obtain ⟨c, hc, hne⟩ : ∃ c ∈ letters, c ≠ 'h' := by simpa using hall
    refine h.bad (.letters ⟨letters, hw.symm⟩ (by rwa [hw]) hne fun n hn => ?_)
    exact h.help (.sign n hn)

end IsForeign

/-! ## What a word is read as -/

namespace Reading

variable {w : String} {name value : List Char}

/-- Up to a `=` stands the name of a long option. -/
theorem takeWhile_name (hname : '=' ∉ name) (rest : List Char) :
    (name ++ rest).takeWhile (· != '=') = name ++ rest.takeWhile (· != '=') ∧
      (name ++ rest).dropWhile (· != '=') = rest.dropWhile (· != '=') := by
  have hall : ∀ c ∈ name, (c != '=') = true := fun c hc => by
    simpa using fun h : c = '=' => hname (h ▸ hc)
  exact ⟨List.takeWhile_append_of_pos hall, List.dropWhile_append_of_pos hall⟩

theorem ofWord_of_name (hw : w.toList = '-' :: '-' :: name) (hname : '=' ∉ name) :
    ofWord w = match Flag.startingWith name with
      | [] => ofOther w.toList
      | [f] => ofFlag f none
      | _ => ambiguous := by
  obtain ⟨htake, hdrop⟩ := takeWhile_name hname []
  rw [List.append_nil] at htake hdrop
  unfold ofWord
  simp only [hw, htake, hdrop, List.takeWhile_nil, List.dropWhile_nil, List.append_nil]
  rfl

theorem ofWord_of_value (hw : w.toList = '-' :: '-' :: (name ++ '=' :: value))
    (hname : '=' ∉ name) :
    ofWord w = match Flag.startingWith name with
      | [] => ofOther w.toList
      | [f] => ofFlag f (some (String.ofList value))
      | _ => ambiguous := by
  obtain ⟨htake, hdrop⟩ := takeWhile_name hname ('=' :: value)
  unfold ofWord
  simp only [hw, htake, hdrop, List.takeWhile_cons, List.dropWhile_cons, bne_self_eq_false,
    Bool.false_eq_true, if_false, List.append_nil]
  rfl

theorem ofWord_of_letters {letters : List Char} (hw : w.toList = '-' :: 'h' :: letters) :
    ofWord w = ofLetters letters := by
  unfold ofWord
  simp only [hw]

theorem ofWord_of_isSpelling {f : Flag} (h : f.IsSpelling w) : ofWord w = ofFlag f none := by
  obtain ⟨name, hw, hne, hprefix⟩ := h
  rw [ofWord_of_name hw (Flag.not_mem_of_prefix hprefix), Flag.startingWith_of_prefix hne hprefix]

theorem ofWord_of_assigns {f : Flag} {value : String} (h : f.Assigns w value) :
    ofWord w = ofFlag f (some value) := by
  obtain ⟨name, hw, hne, hprefix⟩ := h
  rw [ofWord_of_value hw (Flag.not_mem_of_prefix hprefix), Flag.startingWith_of_prefix hne hprefix,
    String.ofList_toList]

theorem ofWord_of_sign (h : ['-', '-', '='] <+: w.toList) : ofWord w = ambiguous := by
  obtain ⟨value, hw⟩ := h
  have hw : w.toList = '-' :: '-' :: ([] ++ '=' :: value) := hw.symm
  rw [ofWord_of_value hw List.not_mem_nil]
  rfl

theorem isEmpty_dropWhile_iff {letters : List Char} :
    (letters.dropWhile (· == 'h')).isEmpty = true ↔ ∃ n, letters = List.replicate n 'h' := by
  rw [List.isEmpty_iff, List.dropWhile_eq_nil_iff]
  constructor
  · intro h
    exact ⟨letters.length, List.eq_replicate_iff.2 ⟨rfl, fun c hc => by simpa using h c hc⟩⟩
  · rintro ⟨n, rfl⟩ c hc
    simp [List.eq_of_mem_replicate hc]

/-- After `-h` there may be its letter, again and again, with a `=` once in front of it. -/
theorem ofLetters_eq_help_iff {letters : List Char} :
    ofLetters letters = help ↔ (∃ n, letters = List.replicate n 'h') ∨
      ∃ n, letters = '=' :: List.replicate (n + 1) 'h' := by
  unfold ofLetters
  split
  · exact iff_of_true rfl (.inl ⟨0, rfl⟩)
  · refine iff_of_false nofun ?_
    rintro (⟨n, h⟩ | ⟨n, h⟩) <;> cases n <;> simp [List.replicate_succ] at h
  · next first more hmore =>
    by_cases hsign : first = '='
    · subst hsign
      have hrow : ¬ ∃ n, '=' :: more = List.replicate n 'h' := by
        rintro ⟨n, h⟩
        cases n <;> simp [List.replicate_succ] at h
      rw [or_iff_right hrow, if_pos rfl]
      trans ∃ n, more = List.replicate n 'h'
      · rw [← isEmpty_dropWhile_iff]
        simp
      · constructor
        · rintro ⟨n, rfl⟩
          cases n with
          | zero => exact absurd rfl (hmore rfl)
          | succ n => exact ⟨n, rfl⟩
        · rintro ⟨n, h⟩
          exact ⟨n + 1, (List.cons.inj h).2⟩
    · have hrow : ¬ ∃ n, first :: more = '=' :: List.replicate (n + 1) 'h' := by
        rintro ⟨n, h⟩
        exact hsign (List.cons.inj h).1
      rw [or_iff_left hrow, if_neg hsign, ← isEmpty_dropWhile_iff]
      simp

theorem ofLetters_cases (letters : List Char) :
    ofLetters letters = help ∨ ∃ value, ofLetters letters = refused .help value := by
  unfold ofLetters
  split
  · exact .inl rfl
  · exact .inr ⟨_, rfl⟩
  · generalize List.dropWhile _ _ = others
    cases others with
    | nil => exact .inl rfl
    | cons c others => exact .inr ⟨_, rfl⟩

/-! ### Negative numbers -/

theorem isDigit_point : Text.isDigit '.' = false := by decide

/-- What is left once a line end is taken off. -/
theorem isDecimal_iff {text : List Char} :
    (match text.dropWhile Text.isDigit with
      | [] => !text.isEmpty
      | '.' :: fraction => !fraction.isEmpty && fraction.all Text.isDigit
      | _ => false) = true ↔ IsDecimal text := by
  constructor
  · intro h
    have htext := List.takeWhile_append_dropWhile (p := Text.isDigit) (l := text)
    have hwhole : ∀ c ∈ text.takeWhile Text.isDigit, Text.isDigit c = true := fun c hc =>
      List.mem_takeWhile_imp hc
    split at h
    · next hrest =>
      rw [hrest, List.append_nil] at htext
      rw [htext] at hwhole
      exact .whole (by simpa using h) hwhole
    · next fraction hrest =>
      rw [hrest] at htext
      simp only [Bool.and_eq_true, List.all_eq_true] at h
      exact .fraction htext.symm (by simpa using h.1) hwhole h.2
    · cases h
  · rintro (⟨hne, hwhole⟩ | ⟨rfl, hne, hwhole, hfraction⟩)
    · rw [List.dropWhile_eq_nil_iff.2 hwhole]
      simpa using hne
    · rw [List.dropWhile_append_of_pos hwhole,
        List.dropWhile_cons_of_neg (by rw [isDigit_point]; exact nofun)]
      simpa [List.all_eq_true, hne] using hfraction

theorem exists_cons_of_isDecimal {text : List Char} (h : IsDecimal text) :
    ∃ c rest, text = c :: rest ∧ (Text.isDigit c = true ∨ c = '.') := by
  cases h with
  | whole hne hwhole =>
    obtain ⟨c, rest, rfl⟩ := List.exists_cons_of_ne_nil hne
    exact ⟨c, rest, rfl, .inl (hwhole c List.mem_cons_self)⟩
  | @fraction whole fraction htext hne hwhole hfraction =>
    cases whole with
    | nil => exact ⟨_, _, htext, .inr rfl⟩
    | cons c whole => exact ⟨_, _, htext, .inl (hwhole c List.mem_cons_self)⟩

/-- A decimal number ends with a digit. -/
theorem getLast?_of_isDecimal {text : List Char} (h : IsDecimal text) :
    text.getLast? ≠ some '\n' := by
  intro hlast
  have hdigit : Text.isDigit '\n' = true := by
    cases h with
    | whole hne hwhole => exact hwhole _ (List.mem_of_getLast? hlast)
    | fraction htext hne hwhole hfraction =>
      obtain ⟨c, rest, rfl⟩ := List.exists_cons_of_ne_nil hne
      subst htext
      refine hfraction _ (List.mem_of_getLast? ?_)
      simpa [List.getLast?_append, List.getLast?_cons] using hlast
  exact absurd hdigit (by decide)

theorem isNumber_iff {text : List Char} :
    isNumber text = true ↔
      IsDecimal text ∨ ∃ number, text = number ++ ['\n'] ∧ IsDecimal number := by
  unfold isNumber
  by_cases hlast : text.getLast? = some '\n'
  · obtain ⟨front, rfl⟩ := List.getLast?_eq_some_iff.1 hlast
    simp only [if_pos hlast, List.dropLast_concat]
    rw [or_iff_right fun h => getLast?_of_isDecimal h hlast]
    exact (@isDecimal_iff front).trans (by simp)
  · simp only [if_neg hlast]
    rw [or_iff_left (by rintro ⟨front, rfl, -⟩; simp at hlast)]
    exact @isDecimal_iff text

/-! ### Which words are which -/

theorem ofWord_of_asksForHelp (h : AsksForHelp w) : ofWord w = help := by
  cases h with
  | spelling h => exact ofWord_of_isSpelling h
  | letters n h =>
    rw [ofWord_of_letters h]
    exact ofLetters_eq_help_iff.2 (.inl ⟨n, rfl⟩)
  | sign n h =>
    rw [ofWord_of_letters h]
    exact ofLetters_eq_help_iff.2 (.inr ⟨n, rfl⟩)

theorem ofWord_of_isBad (h : IsBad w) :
    ofWord w = ambiguous ∨ ∃ f value, ofWord w = refused f value := by
  cases h with
  | sign h => exact .inl (ofWord_of_sign h)
  | @value f value hf h =>
    rw [ofWord_of_assigns h]
    cases f with
    | config => exact absurd rfl hf
    | help | dryRun => exact .inr ⟨_, _, rfl⟩
  | @letters c h hc hne hsign =>
    obtain ⟨letters, hw⟩ := h
    have hw : w.toList = '-' :: 'h' :: letters := hw.symm
    rw [hw] at hc hsign
    have hother : ofLetters letters ≠ help := fun hr => by
      obtain ⟨n, rfl⟩ | ⟨n, rfl⟩ := ofLetters_eq_help_iff.1 hr
      · exact hne (List.eq_of_mem_replicate hc)
      · exact hsign n rfl
    obtain ⟨value, hr⟩ := (ofLetters_cases letters).resolve_left hother
    rw [ofWord_of_letters hw, hr]
    exact .inr ⟨_, _, rfl⟩

theorem ofWord_of_plain (h : w.toList.head? ≠ some '-') : ofWord w = word := by
  unfold ofWord
  split <;> simp_all

theorem ofWord_of_hyphen (h : w.toList = ['-']) : ofWord w = word := by
  unfold ofWord
  simp only [h]

theorem ofOther_eq_word_iff {text : List Char} :
    ofOther ('-' :: text) = word ↔ isNumber text = true ∨ ' ' ∈ text := by
  simp [ofOther, Classical.or_iff_not_imp_left]

theorem exists_name (text : List Char) : ∃ name rest, text = name ++ rest ∧ '=' ∉ name ∧
    (rest = [] ∨ ∃ value, rest = '=' :: String.toList value) := by
  refine ⟨text.takeWhile (· != '='), text.dropWhile (· != '='),
    List.takeWhile_append_dropWhile.symm, fun h => ?_, ?_⟩
  · simpa using List.mem_takeWhile_imp h
  · cases hrest : text.dropWhile (· != '=') with
    | nil => exact .inl rfl
    | cons c value =>
      have hc := List.head?_dropWhile_not (· != '=') text
      rw [hrest] at hc
      have hc : c = '=' := by simpa using hc
      exact .inr ⟨String.ofList value, by rw [hc, String.toList_ofList]⟩

theorem ofOther_eq_unknown {text : List Char} (h : ofOther text ≠ word) :
    ofOther text = unknown := by
  unfold ofOther at h ⊢
  split at h
  · exact absurd rfl h
  · next hvalue => exact if_neg hvalue

theorem ofWord_of_other {c : Char} {text : List Char} (hw : w.toList = '-' :: c :: text)
    (hc : c ≠ '-') (hh : c ≠ 'h') : ofWord w = ofOther w.toList := by
  unfold ofWord
  split
  · next htext => exact absurd (List.cons.inj (List.cons.inj (hw.symm.trans htext)).2).1 hc
  · next htext => exact absurd (List.cons.inj (List.cons.inj (hw.symm.trans htext)).2).1 hh
  · next htext => cases hw.symm.trans htext
  · rfl
  · next hother => exact absurd hw (hother _)

/-- What starts with a hyphen and is no option of the launcher is taken for one of someone else. -/
theorem ofWord_of_isForeign {text : List Char} (hw : w.toList = '-' :: text) (hne : text ≠ [])
    (hm : w ≠ "--") (h : IsForeign w) : ofWord w = ofOther w.toList := by
  cases text with
  | nil => exact absurd rfl hne
  | cons c text =>
    by_cases hc : c = '-'
    · subst hc
      obtain ⟨name, rest, rfl, hname, hrest⟩ := exists_name text
      have hnil : name ≠ [] := by
        rintro rfl
        obtain rfl | ⟨value, rfl⟩ := hrest
        · exact hm (String.toList_injective hw)
        · exact h.bad (.sign ⟨value.toList, hw.symm⟩)
      have hnone : ∀ f : Flag, ¬ name <+: f.longName.toList := fun f hf => by
        obtain rfl | ⟨value, rfl⟩ := hrest
        · exact h.not_isSpelling f ⟨name, by rw [hw, List.append_nil], hnil, hf⟩
        · exact h.not_assigns f value ⟨name, hw, hnil, hf⟩
      obtain rfl | ⟨value, rfl⟩ := hrest
      · rw [ofWord_of_name (by rw [hw, List.append_nil]) hname, Flag.startingWith_eq_nil hnone]
      · rw [ofWord_of_value hw hname, Flag.startingWith_eq_nil hnone]
    · have hh : c ≠ 'h' := by
        rintro rfl
        exact h.not_letters text hw
      exact ofWord_of_other hw hc hh

/-- A word of someone else is a value if it is a number or has a space inside. -/
theorem ofWord_of_isForeign_cases {text : List Char} (hw : w.toList = '-' :: text)
    (hne : text ≠ []) (hm : w ≠ "--") (h : IsForeign w) :
    IsWord w ∧ ofWord w = word ∨ ofWord w = unknown := by
  rw [ofWord_of_isForeign hw hne hm h, hw]
  by_cases hvalue : isNumber text = true ∨ ' ' ∈ text
  · refine .inl ⟨?_, ofOther_eq_word_iff.2 hvalue⟩
    obtain hnumber | hspace := hvalue
    · exact .negative ⟨text, hw, isNumber_iff.1 hnumber⟩
    · exact .spaced (by rw [hw]; exact List.mem_cons_of_mem _ hspace) h
  · exact .inr (ofOther_eq_unknown (mt ofOther_eq_word_iff.1 hvalue))

/-- Numbers do not start with a letter of an option. -/
theorem ofWord_of_isNegative (h : IsNegative w) : ofWord w = word := by
  obtain ⟨text, hw, hnumber⟩ := h
  obtain ⟨c, rest, rfl, hc⟩ :
      ∃ c rest, text = c :: rest ∧ (Text.isDigit c = true ∨ c = '.') := by
    obtain hdecimal | ⟨number, rfl, hdecimal⟩ := hnumber <;>
      obtain ⟨c, rest, rfl, hc⟩ := exists_cons_of_isDecimal hdecimal <;>
      exact ⟨c, _, rfl, hc⟩
  have hhyphen : c ≠ '-' := by
    rintro rfl
    exact absurd hc (by decide)
  have hletter : c ≠ 'h' := by
    rintro rfl
    exact absurd hc (by decide)
  rw [ofWord_of_other hw hhyphen hletter, hw]
  exact ofOther_eq_word_iff.2 (.inl (isNumber_iff.2 hnumber))

theorem ofWord_of_isWord (hm : w ≠ "--") (h : IsWord w) : ofWord w = word := by
  cases h with
  | plain h => exact ofWord_of_plain h
  | hyphen h => exact ofWord_of_hyphen (by rw [h]; rfl)
  | negative h => exact ofWord_of_isNegative h
  | spaced hspace h =>
    by_cases hhead : w.toList.head? = some '-'
    · obtain ⟨text, hw⟩ := List.head?_eq_some_iff.1 hhead
      have hspace : ' ' ∈ text := by simpa [hw] using hspace
      rw [ofWord_of_isForeign hw (List.ne_nil_of_mem hspace) hm h, hw]
      exact ofOther_eq_word_iff.2 (.inr hspace)
    · exact ofWord_of_plain hhead

/-- Whether a word is of the class of what it is read as. -/
def Fits (w : String) : Reading → Prop
  | word => IsWord w
  | help => AsksForHelp w
  | dryRun => Flag.dryRun.IsSpelling w
  | config none => Flag.config.IsSpelling w
  | config (some value) => Flag.config.Assigns w value
  | refused _ _ | ambiguous => IsBad w
  | unknown => IsForeign w

theorem fits_ofWord (hm : w ≠ "--") : Fits w (ofWord w) := by
  by_cases hhelp : AsksForHelp w
  · rw [ofWord_of_asksForHelp hhelp]
    exact hhelp
  by_cases hdry : Flag.dryRun.IsSpelling w
  · rw [ofWord_of_isSpelling hdry]
    exact hdry
  by_cases hconfig : Flag.config.IsSpelling w
  · rw [ofWord_of_isSpelling hconfig]
    exact hconfig
  by_cases hassigned : ∃ value, Flag.config.Assigns w value
  · obtain ⟨value, hassigned⟩ := hassigned
    rw [ofWord_of_assigns hassigned]
    exact hassigned
  by_cases hbad : IsBad w
  · obtain hr | ⟨f, value, hr⟩ := ofWord_of_isBad hbad <;> rw [hr] <;> exact hbad
  have hforeign : IsForeign w := ⟨hhelp, hdry, hconfig, fun value h => hassigned ⟨value, h⟩, hbad⟩
  by_cases hhead : w.toList.head? = some '-'
  · obtain ⟨text, hw⟩ := List.head?_eq_some_iff.1 hhead
    cases text with
    | nil =>
      rw [ofWord_of_hyphen hw]
      exact .hyphen (String.toList_injective hw)
    | cons c text =>
      obtain ⟨hword, hr⟩ | hr := ofWord_of_isForeign_cases hw (List.cons_ne_nil _ _) hm hforeign
      · rw [hr]
        exact hword
      · rw [hr]
        exact hforeign
  · rw [ofWord_of_plain hhead]
    exact .plain hhead

section

variable (hm : w ≠ "--")
include hm

theorem fits_of_ofWord {r : Reading} (h : ofWord w = r) : Fits w r := h ▸ fits_ofWord hm

theorem ofWord_eq_word_iff : ofWord w = word ↔ IsWord w :=
  ⟨fits_of_ofWord hm, ofWord_of_isWord hm⟩

theorem ofWord_eq_help_iff : ofWord w = help ↔ AsksForHelp w :=
  ⟨fits_of_ofWord hm, ofWord_of_asksForHelp⟩

theorem ofWord_eq_dryRun_iff : ofWord w = dryRun ↔ Flag.dryRun.IsSpelling w :=
  ⟨fits_of_ofWord hm, ofWord_of_isSpelling⟩

theorem isWrong_ofWord_iff {after : List String} (hafter : "--" ∉ after) :
    (ofWord w).IsWrong after ↔
      IsBad w ∨ Flag.config.IsSpelling w ∧ ∀ v ∈ after.head?, ¬ IsWord v := by
  have hwords : (∀ v ∈ after.head?, ofWord v ≠ word) ↔ ∀ v ∈ after.head?, ¬ IsWord v :=
    forall₂_congr fun v hv =>
      not_congr (ofWord_eq_word_iff fun h => hafter (h ▸ List.mem_of_mem_head? hv))
  rw [← hwords]
  constructor
  · intro h
    have hfits := fits_ofWord hm
    cases hr : ofWord w with
    | ambiguous | refused =>
      rw [hr] at hfits
      exact .inl hfits
    | config value =>
      rw [hr] at h hfits
      cases value with
      | none => exact .inr ⟨hfits, h⟩
      | some value => exact h.elim
    | word | help | dryRun | unknown =>
      rw [hr] at h
      exact h.elim
  · rintro (h | ⟨h, hnone⟩)
    · obtain hr | ⟨f, value, hr⟩ := ofWord_of_isBad h <;> rw [hr] <;> trivial
    · rw [ofWord_of_isSpelling h]
      exact hnone

end

end Reading

end DeviceLauncher.CommandLine
