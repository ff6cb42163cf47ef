/-!
# Blanks

`isBlank` tells the characters of all scripts that are blank (Unicode 14), apart from the four
separators of information among the control characters. `trimmed` takes them away from both ends
of a text.
-/

namespace DeviceLauncher.Text

/-- The blanks beyond ASCII that stand alone among other characters. -/
def loneBlanks : List Nat := [0x85, 0xA0, 0x1680, 0x2028, 0x2029, 0x202F, 0x205F, 0x3000]

/-- Whether the character is a blank: a space, a tab, a line end, or one of another script. -/
def isBlank (c : Char) : Bool :=
  c == ' ' || ('\t' ≤ c && c ≤ '\r') || ('\u2000' ≤ c && c ≤ '\u200A') ||
    loneBlanks.contains c.toNat

theorem isBlank_of_isWhitespace {c : Char} (h : c.isWhitespace = true) : isBlank c = true := by
  simp only [Char.isWhitespace, Bool.or_eq_true, decide_eq_true_eq] at h
  rcases h with ((rfl | rfl) | rfl) | rfl <;> decide

/-- A text without the blanks around it. -/
def trimmed (cs : List Char) : List Char :=
  ((cs.dropWhile isBlank).reverse.dropWhile isBlank).reverse

theorem trimmed_eq_self {cs : List Char} (h : ∀ c ∈ cs, isBlank c = false) : trimmed cs = cs := by
  have drop {l : List Char} (h : ∀ c ∈ l, isBlank c = false) : l.dropWhile isBlank = l := by
    cases l with
    | nil => rfl
    | cons c rest => simp [h c (by simp)]
  have reversed : ∀ c ∈ cs.reverse, isBlank c = false := fun c hc => h c (by simpa using hc)
  simp [trimmed, drop h, drop reversed]

end DeviceLauncher.Text
