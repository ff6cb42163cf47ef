import DeviceLauncher.Log.Notice
import Mathlib.Data.List.Basic

/-!
# Command lines are read back

`Reader` takes a text apart into words as a shell does, with nothing expanded: blanks end a word, a
single quote takes all that follows up to the next one as it is, between double quotes only `"` and
`\` mean something, and a backslash takes its meaning away from the next character. `split?` gives
the words, unless a quotation or a backslash is left open.

* `Reader.read_quoteChars`: a quoted word is read as that word, wherever the reader is outside quotes.
* `Reader.shown_quoteChars`: what of it is not between single quotes is safe characters and quotes.
* `line_read_back`: a command line is read as the words that it was written for.
-/

namespace DeviceLauncher.Text.ShellWord

/-- How the next character is taken. -/
inductive Mode where
  /-- Outside quotes. -/
  | bare
  | single
  | double
  /-- After a backslash outside quotes. -/
  | escape
  /-- After a backslash between double quotes. -/
  | doubleEscape
  deriving DecidableEq

/-- A reader of words, with what it has read so far. -/
structure Reader where
  mode : Mode
  /-- The words that have ended. -/
  done : List (List Char)
  /-- The word that is being read, if one has begun. -/
  word : Option (List Char)
  deriving DecidableEq

namespace Reader

/-- A reader that has read nothing. -/
def start : Reader := ⟨.bare, [], none⟩

/-- Puts characters at the end of the word, which may begin with them. -/
def push (r : Reader) (chars : List Char) : Reader :=
  { r with word := some (r.word.getD [] ++ chars) }

/-- Ends the word, if one has begun. -/
def endWord (r : Reader) : Reader := { r with done := r.done ++ r.word.toList, word := none }

/-- Reads a character. -/
def step (r : Reader) (c : Char) : Reader :=
  match r.mode with
  | .bare =>
    if [' ', '\t', '\r', '\n'].contains c then r.endWord
    else if c = '\'' then { r.push [] with mode := .single }
    else if c = '"' then { r.push [] with mode := .double }
    else if c = '\\' then { r.push [] with mode := .escape }
    else r.push [c]
  | .single => if c = '\'' then { r with mode := .bare } else r.push [c]
  | .double =>
    if c = '"' then { r with mode := .bare }
    else if c = '\\' then { r with mode := .doubleEscape }
    else r.push [c]
  | .escape => { r.push [c] with mode := .bare }
  | .doubleEscape =>
    { r.push (if c = '"' ∨ c = '\\' then [c] else ['\\', c]) with mode := .double }

/-- Reads characters one after the other. -/
def read (r : Reader) (chars : List Char) : Reader := chars.foldl step r

/-- The words at the end of a text, where nothing may be left open. -/
def words? (r : Reader) : Option (List (List Char)) :=
  if r.mode = .bare then some r.endWord.done else none

/-- The characters that a reader finds anywhere but between single quotes. -/
def shown (r : Reader) : List Char → List Char
  | [] => []
  | c :: rest =>
    let more := shown (r.step c) rest
    if r.mode = .single then more else c :: more

end Reader

/-- The words of a text. -/
def split? (text : String) : Option (List String) :=
  (Reader.start.read text.toList).words?.map (·.map String.ofList)

/-- The characters outside quotes, and those between double quotes. -/
def exposed (text : String) : List Char := Reader.start.shown text.toList

/-- The characters that mean something to a shell outside quotes, apart from a space and from the
two quotes: they part words or commands, begin an expansion, a pattern or a comment, or take the
meaning away from what follows. `=` and `%` are none of them, since they belong to their word: that a
word assigns something, or names a job, is decided when the words have been read. -/
def special : List Char := "|&;<>()$\x60\\\t\r\n*?[]#~!^\x7b\x7d".toList

/-! ## Reading what is quoted -/

namespace Reader

variable {r : Reader} {chars : List Char}

@[simp]
theorem read_nil (r : Reader) : r.read [] = r := rfl

@[simp]
theorem read_cons (r : Reader) (c : Char) (chars : List Char) :
    r.read (c :: chars) = (r.step c).read chars := rfl

theorem read_append (r : Reader) (first rest : List Char) :
    r.read (first ++ rest) = (r.read first).read rest := List.foldl_append

@[simp]
theorem mode_push (r : Reader) (chars : List Char) : (r.push chars).mode = r.mode := rfl

@[simp]
theorem push_push (r : Reader) (first rest : List Char) :
    (r.push first).push rest = r.push (first ++ rest) := by
  simp [push]

theorem shown_append (r : Reader) (first rest : List Char) :
    r.shown (first ++ rest) = r.shown first ++ (r.read first).shown rest := by
  induction first generalizing r with
  | nil => rfl
  | cons c first ih =>
    simp only [List.cons_append, shown, ih, read_cons]
    split <;> rfl

/-- A safe character is none that a reader heeds. -/
theorem step_of_isSafe (hr : r.mode = .bare) {c : Char} (hc : isSafe c = true) :
    r.step c = r.push [c] := by
  have hne (d : Char) (hd : isSafe d = false) : c ≠ d := by
    rintro rfl
    rw [hc] at hd
    cases hd
  simp [step, hr, hne ' ' (by decide), hne '\t' (by decide), hne '\r' (by decide),
    hne '\n' (by decide), hne '\'' (by decide), hne '"' (by decide), hne '\\' (by decide)]

theorem read_of_isSafe (hr : r.mode = .bare) (hsafe : ∀ c ∈ chars, isSafe c = true)
    (first : List Char) : (r.push first).read chars = r.push (first ++ chars) := by
  induction chars generalizing first with
  | nil => simp
  | cons c chars ih =>
    rw [List.forall_mem_cons] at hsafe
    rw [read_cons, step_of_isSafe (r := r.push first) hr hsafe.1, push_push, ih hsafe.2,
      List.append_assoc, List.singleton_append]

/-- A single quote opens a quotation, and with it a word if none has begun. -/
theorem step_quote (hr : r.mode = .bare) :
    r.step '\'' = { r with mode := .single }.push [] := by
  simp [step, hr, push]

/-- How a single quote stands between single quotes. -/
theorem toList_quoted : "'\"'\"'".toList = ['\'', '"', '\'', '"', '\''] := by decide

/-- Between single quotes each character is read as it is, also a single quote. -/
theorem read_inQuotes (hr : r.mode = .single) (c : Char) : r.read (inQuotes c) = r.push [c] := by
  unfold inQuotes
  split
  · next hc =>
    subst hc
    rw [toList_quoted]
    simp [step, hr, push]
  · next hc => simp [step, hr, hc]

theorem read_flatMap_inQuotes (hr : r.mode = .single) (chars first : List Char) :
    (r.push first).read (chars.flatMap inQuotes) = r.push (first ++ chars) := by
  induction chars generalizing first with
  | nil => simp
  | cons c chars ih =>
    rw [List.flatMap_cons, read_append, read_inQuotes (r := r.push first) hr, push_push, ih,
      List.append_assoc, List.singleton_append]

/-- Outside quotes, a quoted word is read as the word. -/
theorem read_quoteChars (hr : r.mode = .bare) (word : List Char) :
    r.read (quoteChars word) = r.push word := by
  unfold quoteChars
  split
  · next hempty =>
    rw [List.isEmpty_iff.1 hempty]
    simp [step, hr, push]
  · next hne =>
    split
    · next hsafe =>
      obtain ⟨c, rest, rfl⟩ := List.exists_cons_of_ne_nil (mt List.isEmpty_iff.2 hne)
      rw [List.all_eq_true, List.forall_mem_cons] at hsafe
      rw [read_cons, step_of_isSafe hr hsafe.1, read_of_isSafe hr hsafe.2, List.singleton_append]
    · rw [List.cons_append, read_cons, step_quote hr, read_append, read_flatMap_inQuotes rfl,
        List.nil_append, read_cons, read_nil]
      simp [step, push, hr]

theorem step_space (hr : r.mode = .bare) : r.step ' ' = r.endWord := by
  simp [step, hr]

/-! ## What stands outside single quotes -/

theorem mem_of_shown {c : Char} (h : c ∈ r.shown chars) : c ∈ chars := by
  induction chars generalizing r with
  | nil => exact h
  | cons d chars ih =>
    simp only [shown] at h
    split at h
    · exact List.mem_cons_of_mem d (ih h)
    · obtain rfl | h := List.mem_cons.1 h
      · exact List.mem_cons_self
      · exact List.mem_cons_of_mem d (ih h)

/-- Of the characters between single quotes only the quotes of a single quote are found outside. -/
theorem shown_inQuotes (hr : r.mode = .single) {c d : Char} (h : d ∈ r.shown (inQuotes c)) :
    d = '\'' ∨ d = '"' := by
  unfold inQuotes at h
  split at h
  · have hd := mem_of_shown h
    rw [toList_quoted] at hd
    simp only [List.mem_cons, List.not_mem_nil, or_false] at hd
    tauto
  · simp [shown, hr] at h

theorem shown_flatMap_inQuotes (hr : r.mode = .single) {d : Char} (first : List Char)
    (h : d ∈ (r.push first).shown (chars.flatMap inQuotes)) : d = '\'' ∨ d = '"' := by
  induction chars generalizing first with
  | nil => cases h
  | cons c chars ih =>
    rw [List.flatMap_cons, shown_append, List.mem_append, read_inQuotes (r := r.push first) hr,
      push_push] at h
    obtain h | h := h
    · exact shown_inQuotes (r := r.push first) hr h
    · exact ih _ h

theorem shown_quoteChars (hr : r.mode = .bare) {word : List Char} {d : Char}
    (h : d ∈ r.shown (quoteChars word)) : isSafe d = true ∨ d = '\'' ∨ d = '"' := by
  unfold quoteChars at h
  split at h
  · have hd := mem_of_shown h
    simp only [List.mem_cons, List.not_mem_nil, or_false, or_self] at hd
    exact .inr (.inl hd)
  · split at h
    · next hsafe => exact .inl (List.all_eq_true.1 hsafe d (mem_of_shown h))
    · simp only [List.cons_append, shown, hr, reduceCtorEq, if_false, List.mem_cons, step_quote hr,
        shown_append, List.mem_append] at h
      obtain rfl | h | h := h
      · exact .inr (.inl rfl)
      · exact .inr (shown_flatMap_inQuotes rfl [] h)
      · exact .inr (.inl (List.mem_singleton.1 (mem_of_shown h)))

end Reader

/-! ## Command lines -/

section

variable (word next : String) (rest words : List String)

theorem toList_line_singleton : (line [word]).toList = quoteChars word.toList := by
  simp [line, quote]

theorem toList_line_cons : (line (word :: next :: rest)).toList =
    quoteChars word.toList ++ ' ' :: (line (next :: rest)).toList := by
  simp [line, quote]

/-- Where a word may begin, the words of a line are read. -/
theorem words?_read_line {r : Reader} (hr : r.mode = .bare) (hw : r.word = none) :
    (r.read (line words).toList).words? = some (r.done ++ words.map String.toList) := by
  induction words generalizing r with
  | nil => simp [line, Reader.words?, Reader.endWord, hr, hw]
  | cons word rest ih =>
    cases rest with
    | nil =>
      rw [toList_line_singleton, Reader.read_quoteChars hr]
      simp [Reader.words?, Reader.endWord, Reader.push, hr, hw]
    | cons next rest =>
      rw [toList_line_cons, Reader.read_append, Reader.read_quoteChars hr, Reader.read_cons,
        Reader.step_space (r := r.push word.toList) hr,
        ih (r := (r.push word.toList).endWord) hr rfl]
      simp [Reader.endWord, Reader.push, hw]

/-- What a line shows are safe characters, the quotes of its words, and the spaces between them. -/
theorem shown_line {r : Reader} (hr : r.mode = .bare) {d : Char}
    (h : d ∈ r.shown (line words).toList) :
    isSafe d = true ∨ d = '\'' ∨ d = '"' ∨ d = ' ' := by
  induction words generalizing r with
  | nil => cases h
  | cons word rest ih =>
    cases rest with
    | nil =>
      rw [toList_line_singleton] at h
      exact (Reader.shown_quoteChars hr h).imp_right (Or.imp_right .inl)
    | cons next rest =>
      rw [toList_line_cons, Reader.shown_append, List.mem_append, Reader.read_quoteChars hr] at h
      obtain h | h := h
      · exact (Reader.shown_quoteChars hr h).imp_right (Or.imp_right .inl)
      · simp only [Reader.shown, Reader.mode_push, hr, reduceCtorEq, if_false, List.mem_cons,
          Reader.step_space (r := r.push word.toList) hr] at h
        obtain rfl | h := h
        · exact .inr (.inr (.inr rfl))
        · exact ih (r := (r.push word.toList).endWord) hr h

end

theorem not_mem_special_of_isSafe {c : Char} (h : isSafe c = true) : c ∉ special := by
  intro hc
  have hall : (special.all fun d => !isSafe d) = true := by decide
  have hnot := List.all_eq_true.1 hall c hc
  rw [h] at hnot
  cases hnot

theorem split?_line (words : List String) : split? (line words) = some words := by
  rw [split?, words?_read_line words rfl rfl]
  simp [Reader.start]

/-- Parts with quotes and without make one word, and a backslash may stand before a quote or a space. -/
example : split? "a 'b c'\"d\\\"\"\\ e ''" = some ["a", "b cd\" e", ""] := by decide

/-- A command line is read as the words that it was written for, and so no two lists of words have
one line. All of it that does not stand between single quotes is safe characters, quotes, and the
spaces between the words. What the log says of a command can be read in the same way. -/
theorem line_read_back :
    (∀ words, split? (line words) = some words ∧ ∀ c ∈ exposed (line words),
      c ∉ special ∧ (isSafe c = true ∨ c = '\'' ∨ c = '"' ∨ c = ' ')) ∧
    Function.Injective line ∧
    ∀ argv, split? (Log.Notice.command argv).message = some ("CMD" :: argv) := by
  refine ⟨fun words => ⟨split?_line words, fun c hc => ?_⟩, fun words words' h => ?_, fun argv => ?_⟩
  · have hshown := shown_line words rfl hc
    refine ⟨?_, hshown⟩
    obtain hsafe | rfl | rfl | rfl := hshown
    · exact not_mem_special_of_isSafe hsafe
    all_goals decide
  · have hread := split?_line words
    rw [h, split?_line words'] at hread
    exact (Option.some.inj hread).symm
  · have hcommand : (Log.Notice.command argv).message.toList =
        "CMD ".toList ++ (line argv).toList := String.toList_append
    have hfirst : Reader.start.read "CMD ".toList = ⟨.bare, ["CMD".toList], none⟩ := by decide
    rw [split?, hcommand, Reader.read_append, hfirst, words?_read_line argv rfl rfl]
    simp

end DeviceLauncher.Text.ShellWord
