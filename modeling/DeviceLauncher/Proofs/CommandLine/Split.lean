import DeviceLauncher.CommandLine.Split

/-!
# What stands before the command

`leading` lists what `split` steps over, one entry for each step: an option by itself, or
`--config` with its value. These are the words in front of the command (`words_leading`).

Options that are taken whole are taken the same whatever follows them (`split_append`). The one
exception is a `--config` at their end, which would take the next word for its value.
-/

namespace DeviceLauncher.CommandLine

/-- What `split` steps over at once. -/
inductive Leading where
  | option (word : String)
  | config (value : String)
  deriving DecidableEq

/-- The words of a step. -/
def Leading.words : Leading → List String
  | option word => [word]
  | config value => ["--config", value]

/-- The options before the command, in order. A `--config` without a value is an option by itself. -/
def leading : List String → List Leading
  | [] => []
  | word :: rest =>
    if !looksOptional word then []
    else if word = "--config" then
      match rest with
      | [] => [.option word]
      | value :: rest => .config value :: leading rest
    else .option word :: leading rest

/-! ## Single steps -/

section

variable {word : String} (value : String) (rest : List String)

theorem split_of_command (h : looksOptional word = false) :
    split (word :: rest) = ([], word :: rest) := by
  unfold split
  simp [h]

theorem split_config : split ("--config" :: value :: rest) =
    ("--config" :: value :: (split rest).1, (split rest).2) := rfl

theorem split_option (h : looksOptional word = true) (hne : word ≠ "--config") :
    split (word :: rest) = (word :: (split rest).1, (split rest).2) := by
  rw [split.eq_def]
  simp [h, hne]

theorem leading_of_command (h : looksOptional word = false) : leading (word :: rest) = [] := by
  unfold leading
  simp [h]

theorem leading_config :
    leading ("--config" :: value :: rest) = .config value :: leading rest := by
  rw [leading]
  rfl

theorem leading_option (h : looksOptional word = true) (hne : word ≠ "--config") :
    leading (word :: rest) = .option word :: leading rest := by
  rw [leading.eq_def]
  simp [h, hne]

end

/-! ## Whole argument lists -/

theorem words_leading (words : List String) :
    (leading words).flatMap Leading.words = (split words).1 := by
  fun_induction leading words with
  | case1 => rfl
  | case2 word rest h => rw [split_of_command rest (by simpa using h)]; rfl
  | case3 => rfl
  | case4 value rest h ih => rw [split_config, List.flatMap_cons, ih]; rfl
  | case5 word rest h hne ih =>
    rw [split_option rest (by simpa using h) hne, List.flatMap_cons, ih]
    rfl

/-- Whether the last option lacks its value. -/
def EndsOpen (words : List String) : Prop := (leading words).getLast? = some (.option "--config")

instance (words : List String) : Decidable (EndsOpen words) :=
  inferInstanceAs (Decidable (_ = _))

theorem EndsOpen.of_step {step : Leading} {words rest : List String}
    (h : leading words = step :: leading rest) (ho : EndsOpen rest) : EndsOpen words := by
  rw [EndsOpen] at ho
  rw [EndsOpen, h, List.getLast?_cons, ho]
  rfl

/-- What follows options that are complete does not change how they are read. -/
theorem split_append {options : List String} (h : split options = (options, []))
    (ho : ¬ EndsOpen options) (rest : List String) :
    split (options ++ rest) = (options ++ (split rest).1, (split rest).2) := by
  fun_induction leading options with
  | case1 => rfl
  | case2 word more hlook =>
    rw [split_of_command more (by simpa using hlook)] at h
    cases h
  | case3 => exact absurd (by decide) ho
  | case4 value more hlook ih =>
    rw [split_config, Prod.mk.injEq, List.cons.injEq, List.cons.injEq] at h
    have hmore : split more = (more, []) := Prod.ext h.1.2.2 h.2
    have hrest := ih hmore fun hm => ho (.of_step (leading_config value more) hm)
    rw [List.cons_append, List.cons_append, split_config, hrest]
    rfl
  | case5 word more hlook hne ih =>
    have hlook' : looksOptional word = true := by simpa using hlook
    rw [split_option more hlook' hne, Prod.mk.injEq, List.cons.injEq] at h
    have hmore : split more = (more, []) := Prod.ext h.1.2 h.2
    have hrest := ih hmore fun hm => ho (.of_step (leading_option more hlook' hne) hm)
    rw [List.cons_append, split_option _ hlook' hne, hrest]
    rfl

end DeviceLauncher.CommandLine
