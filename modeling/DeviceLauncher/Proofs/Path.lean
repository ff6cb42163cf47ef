import DeviceLauncher.FileSystem.Change
import DeviceLauncher.Path
import Mathlib

/-!
# Paths and their texts

A path is handed to the operating system as a text. Reading the text gives the path back
(`Path.ofString_toString`), and the system sees the names of the path in it
(`Path.route_toString`), with no slash after the last one (`Path.withoutLastSlash_toString`).
-/

namespace DeviceLauncher

/-! ## Texts between slashes -/

theorem textParts_slash_append (text : String) : textParts ("/" ++ text) = "" :: textParts text := by
  simp [textParts, List.splitOn_cons_eq_if_modifyHead]

theorem textParts_intercalate {parts : List String} (h : ∀ p ∈ parts, '/' ∉ p.toList)
    (hne : parts ≠ []) : textParts ("/".intercalate parts) = parts := by
  have hsplit : (['/'].intercalate (parts.map String.toList)).splitOn '/' =
      parts.map String.toList := by
    refine List.splitOn_intercalate _ (fun l hl => ?_) (by simpa using hne)
    obtain ⟨p, hp, rfl⟩ := List.mem_map.1 hl
    exact h p hp
  simp [textParts, String.toList_intercalate, hsplit]

theorem Path.names_ofString (text : String) :
    (ofString text).names = (textParts text).filterMap Name.ofString? := by
  simp [ofString, textParts, List.filterMap_map]

namespace Anchor

/-- The slashes at which an anchor begins. -/
def slashes : Anchor → Nat
  | relative => 0
  | root => 1
  | doubleRoot => 2

theorem toList_toString (a : Anchor) : a.toString.toList = List.replicate a.slashes '/' := by
  cases a <;> rfl

theorem textParts_append (a : Anchor) (text : String) :
    textParts (a.toString ++ text) = List.replicate a.slashes "" ++ textParts text := by
  cases a with
  | relative => simp [toString, slashes]
  | root => rw [toString, textParts_slash_append]; rfl
  | doubleRoot =>
    rw [toString, show "//" = "/" ++ "/" from rfl, String.append_assoc, textParts_slash_append,
      textParts_slash_append]
    rfl

/-- An anchor is read off the slashes before a text that begins with none. -/
theorem ofChars_append (a : Anchor) {rest : List Char} (h : rest.head? ≠ some '/') :
    ofChars (a.toString.toList ++ rest) = a := by
  have hrest : rest.takeWhile (· == '/') = [] := by
    cases rest with
    | nil => rfl
    | cons c rest =>
      have hc : c ≠ '/' := by simpa using h
      simp [hc]
  have htake : (a.toString.toList ++ rest).takeWhile (· == '/') = List.replicate a.slashes '/' := by
    rw [toList_toString, List.takeWhile_append_of_pos (by simp), hrest, List.append_nil]
  rw [ofChars, htake, List.length_replicate]
  cases a <;> rfl

end Anchor

/-! ## The texts of names -/

theorem Name.eq_up {n : Name} (h : n.text = "..") : n = up := by
  cases n
  cases h
  rfl

/-- Names with slashes between them. -/
def nameText (names : List Name) : String := "/".intercalate (names.map Name.text)

theorem toList_nameText_cons (n m : Name) (rest : List Name) :
    (nameText (n :: m :: rest)).toList =
      (n.text.toList ++ ['/']) ++ (nameText (m :: rest)).toList := by
  simp [nameText]

theorem textParts_nameText {names : List Name} (h : names ≠ []) :
    textParts (nameText names) = names.map Name.text := by
  refine textParts_intercalate (fun text ht => ?_) (by simpa using h)
  obtain ⟨n, -, rfl⟩ := List.mem_map.1 ht
  exact n.no_slash

theorem head?_nameText (names : List Name) : (nameText names).toList.head? ≠ some '/' := by
  cases names with
  | nil => simp [nameText]
  | cons n rest =>
    obtain ⟨c, cs, hc⟩ := List.exists_cons_of_ne_nil
      (fun h => n.ne_empty (String.toList_eq_nil_iff.1 h))
    have hslash : c ≠ '/' := fun h => n.no_slash (by simp [hc, h])
    cases rest <;> simp [nameText, hc, hslash]

theorem toList_nameText_ne_nil {names : List Name} (h : names ≠ []) :
    (nameText names).toList ≠ [] := by
  obtain ⟨n, rest, rfl⟩ := List.exists_cons_of_ne_nil h
  intro he
  have hparts := textParts_nameText h
  rw [String.toList_eq_nil_iff.1 he] at hparts
  simp [textParts, n.ne_empty.symm] at hparts

theorem getLast?_nameText (names : List Name) : (nameText names).toList.getLast? ≠ some '/' := by
  induction names with
  | nil => simp [nameText]
  | cons n rest ih =>
    cases rest with
    | nil =>
      intro h
      exact n.no_slash (List.mem_of_getLast? (by simpa [nameText] using h))
    | cons m rest =>
      rwa [toList_nameText_cons, List.getLast?_append_of_ne_nil _ (toList_nameText_ne_nil (by simp))]

/-- A name that is added comes after the text of the others. -/
theorem exists_nameText_append (names : List Name) (n : Name) :
    ∃ rest, nameText (names ++ [n]) = nameText names ++ rest := by
  by_cases h : names = []
  · exact ⟨n.text, by simp [h, nameText]⟩
  · refine ⟨"/" ++ nameText [n], ?_⟩
    rw [nameText, nameText, List.map_append,
      String.intercalate_append_of_ne_nil (by simpa using h) (by simp), String.append_assoc]
    rfl

theorem mem_nameText {names : List Name} {c : Char} (h : c ∈ (nameText names).toList) :
    c = '/' ∨ ∃ n ∈ names, c ∈ n.text.toList := by
  induction names with
  | nil => simp [nameText] at h
  | cons n rest ih =>
    cases rest with
    | nil => exact .inr ⟨n, List.mem_cons_self, by simpa [nameText] using h⟩
    | cons m rest =>
      rw [toList_nameText_cons, List.mem_append, List.mem_append, List.mem_singleton] at h
      rcases h with (hc | hc) | hc
      · exact .inr ⟨n, List.mem_cons_self, hc⟩
      · exact .inl hc
      · exact (ih hc).imp_right fun ⟨x, hx, hc⟩ => ⟨x, List.mem_cons_of_mem n hx, hc⟩

namespace Path

theorem toString_eq (p : Path) (h : p ≠ here) :
    p.toString = p.anchor.toString ++ nameText p.names := by
  rw [toString, if_neg, nameText]
  rintro ⟨ha, hn⟩
  exact h (by cases p; simp_all [here])

theorem toString_ne_empty (p : Path) : p.toString ≠ "" := by
  by_cases h : p = here
  · subst h; decide
  obtain ⟨a, names⟩ := p
  rw [toString_eq _ h]
  intro he
  have hchars := congrArg String.toList he
  rw [String.toList_append, String.toList_empty, List.append_eq_nil_iff,
    Anchor.toList_toString] at hchars
  obtain ⟨hanchor, hnames⟩ := hchars
  obtain rfl : names = [] := Decidable.byContradiction fun hn => toList_nameText_ne_nil hn hnames
  cases a with
  | relative => exact h rfl
  | root | doubleRoot => simp [Anchor.slashes] at hanchor

/-- The text of a path is made of slashes, dots and the characters of its names. -/
theorem not_mem_toString {p : Path} {c : Char} (hslash : c ≠ '/') (hdot : c ≠ '.')
    (hnames : ∀ n ∈ p.names, c ∉ n.text.toList) : c ∉ p.toString.toList := by
  by_cases h : p = here
  · subst h
    simpa [here, toString] using hdot
  rw [toString_eq p h, String.toList_append, List.mem_append, Anchor.toList_toString]
  rintro (hc | hc)
  · exact hslash (List.eq_of_mem_replicate hc)
  · obtain hc | ⟨n, hn, hc⟩ := mem_nameText hc
    · exact hslash hc
    · exact hnames n hn hc

/-- The parts of a path's text are its names, apart from those that name nothing. -/
theorem filter_textParts_toString (p : Path) :
    (textParts p.toString).filter (· != "") = if p = here then ["."] else p.names.map Name.text := by
  split
  · next h => subst h; decide
  next h =>
  rw [toString_eq p h, Anchor.textParts_append, List.filter_append]
  have hslashes : (List.replicate p.anchor.slashes "").filter (· != "") = [] := by simp
  rw [hslashes, List.nil_append]
  by_cases hn : p.names = []
  · simp [hn, nameText, textParts]
  · rw [textParts_nameText hn, List.filter_eq_self]
    intro text ht
    obtain ⟨n, -, rfl⟩ := List.mem_map.1 ht
    simpa using n.ne_empty

/-- Reading the text of a path gives the path. -/
theorem ofString_toString (p : Path) : ofString p.toString = p := by
  by_cases h : p = here
  · subst h; decide
  have ha : (ofString p.toString).anchor = p.anchor := by
    rw [toString_eq p h, ofString, String.toList_append]
    exact Anchor.ofChars_append _ (head?_nameText _)
  have hn : (ofString p.toString).names = p.names := by
    rw [names_ofString]
    have hall : (textParts p.toString).filterMap Name.ofString? =
        ((textParts p.toString).filter (· != "")).filterMap Name.ofString? := by
      rw [List.filterMap_filter]
      refine List.filterMap_congr fun part _ => ?_
      by_cases he : part = ""
      · subst he
        rfl
      · simp [he]
    rw [hall, filter_textParts_toString, if_neg h, List.filterMap_map]
    simp
  cases p
  simp_all [ofString]

theorem getLast?_toString (p : Path) :
    p.toString.toList.getLast? = some '/' ↔ p.anchor ≠ .relative ∧ p.names = [] := by
  by_cases h : p = here
  · subst h; decide
  rw [toString_eq p h, String.toList_append, Anchor.toList_toString]
  cases hn : p.names with
  | nil =>
    cases ha : p.anchor with
    | relative => exact absurd (by cases p; simp_all [here]) h
    | root => simp [nameText, Anchor.slashes]
    | doubleRoot => simp [nameText, Anchor.slashes]
  | cons n rest =>
    rw [List.getLast?_append_of_ne_nil _ (toList_nameText_ne_nil (by simp))]
    simp [getLast?_nameText]

/-- The system sees the names of a path in its text. -/
theorem route_toString (p : Path) : Route.ofString p.toString =
    ⟨p.anchor ≠ .relative, if p = here then ["."] else p.names.map Name.text⟩ := by
  by_cases h : p = here
  · subst h; decide
  have hfilter := filter_textParts_toString p
  rw [if_neg h] at hfilter
  have hhead : p.toString.toList.head? = some '/' ↔ p.anchor ≠ .relative := by
    rw [toString_eq p h, String.toList_append, Anchor.toList_toString]
    cases p.anchor with
    | relative => simpa [Anchor.slashes] using head?_nameText p.names
    | root | doubleRoot => simp [Anchor.slashes, List.replicate_succ]
  have hlast : ¬ (p.toString.toList.getLast? = some '/' ∧ p.names ≠ []) := by
    rw [getLast?_toString]
    exact fun hl => hl.2 hl.1.2
  simp only [Route.ofString, hfilter, if_neg h]
  simp_all

/-- The text of a path has no slash at its end that could be dropped. -/
theorem withoutLastSlash_toString (p : Path) :
    FileSystem.withoutLastSlash p.toString = p.toString := by
  by_cases hl : p.toString.toList.getLast? = some '/'
  · obtain ⟨ha, hn⟩ := (getLast?_toString p).1 hl
    obtain ⟨a, names⟩ := p
    subst hn
    cases a with
    | relative => exact absurd rfl ha
    | root | doubleRoot => rfl
  · have hdrop : p.toString.toList.reverse.dropWhile (· == '/') = p.toString.toList.reverse :=
      List.dropWhile_beq_eq_self_of_head?_ne (by rwa [List.head?_reverse])
    rw [FileSystem.withoutLastSlash, hdrop, List.reverse_reverse]
    split
    · rfl
    · rw [String.ofList_toList]

/-! ## Suffixes -/

theorem suffix_eq {p : Path} {stem ending : List Char} (hname : p.name.toList = stem ++ '.' :: ending)
    (hdot : '.' ∉ ending) (hstem : stem ≠ []) (hending : ending ≠ []) :
    p.suffix = String.ofList ('.' :: ending) := by
  have hreversed : p.name.toList.reverse = ending.reverse ++ '.' :: stem.reverse := by simp [hname]
  have hplain : ∀ c ∈ ending.reverse, (c != '.') = true := fun c hc => by
    simpa using fun he : c = '.' => hdot (he ▸ List.mem_reverse.1 hc)
  simp only [suffix, hreversed, List.takeWhile_append_of_pos hplain,
    List.dropWhile_append_of_pos hplain]
  simp [hstem, hending]

/-- A path has no suffix, or its name has a dot within it, and the suffix begins at the last one. -/
theorem suffix_cases (p : Path) : p.suffix = "" ∨
    ∃ stem ending, p.name.toList = stem ++ '.' :: ending ∧ stem ≠ [] ∧
      p.suffix = String.ofList ('.' :: ending) := by
  simp only [suffix]
  split
  · exact .inl rfl
  next h =>
  obtain ⟨-, hstem⟩ : p.name.toList.reverse.takeWhile (· != '.') ≠ [] ∧
      (p.name.toList.reverse.dropWhile (· != '.')).drop 1 ≠ [] := by simpa using h
  have hparts := List.takeWhile_append_dropWhile (p := (· != '.')) (l := p.name.toList.reverse)
  cases hrest : p.name.toList.reverse.dropWhile (· != '.') with
  | nil => simp [hrest] at hstem
  | cons c stem =>
    have hc : c = '.' := by
      have hhead := List.head?_dropWhile_not (· != '.') p.name.toList.reverse
      simpa [hrest] using hhead
    subst hc
    rw [hrest] at hparts
    refine .inr ⟨stem.reverse, _, ?_, by simpa [hrest] using hstem, rfl⟩
    simpa using (congrArg List.reverse hparts).symm

end Path

end DeviceLauncher
