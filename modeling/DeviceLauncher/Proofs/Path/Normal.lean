import DeviceLauncher.Proofs.Path

/-!
# Texts in normal form

`Path.IsNormal text` says what a text looks like that a path is written as: at most two slashes, and then
names with single slashes between them, or a dot if there is nothing else. These are the texts that reading
and writing gives back (`Path.toString_ofString_iff`).

Texts with a slash between them are read one after the other (`Path.names_ofString_append`). Slashes at
the end of a text name nothing (`Path.names_ofString_slashes`).
-/

namespace DeviceLauncher

namespace Path

/-- Whether a text is written as a path is: without empty names and dots, and with a single slash after
each name but the last. A dot stands for the path that has no names and does not begin at the root. -/
inductive IsNormal : String → Prop where
  | here : IsNormal "."
  | names (anchor : Anchor) (names : List String) :
      (∀ n ∈ names, n ≠ "" ∧ n ≠ "." ∧ '/' ∉ n.toList) → (anchor = .relative → names ≠ []) →
        IsNormal (anchor.toString ++ "/".intercalate names)

variable {p q : Path} {text : String}

/-- A path is where it starts, and its names. -/
theorem eq_of_names (hanchor : p.anchor = q.anchor) (hnames : p.names = q.names) : p = q := by
  cases p
  cases q
  cases hanchor
  cases hnames
  rfl

theorem isNormal_toString (p : Path) : IsNormal p.toString := by
  by_cases h : p = here
  · subst h
    exact .here
  · rw [toString_eq p h, nameText]
    refine .names p.anchor (p.names.map Name.text) (fun text ht => ?_) (fun ha hn => h ?_)
    · obtain ⟨n, -, rfl⟩ := List.mem_map.1 ht
      exact ⟨n.ne_empty, n.ne_dot, n.no_slash⟩
    · exact eq_of_names ha (List.map_eq_nil_iff.1 hn)

/-- A text in normal form is the text of a path. -/
theorem IsNormal.exists_toString (h : IsNormal text) : ∃ p : Path, p.toString = text := by
  cases h with
  | here => exact ⟨Path.here, rfl⟩
  | names anchor names hnames hne =>
    let p : Path := ⟨anchor, names.pmap (fun n h => ⟨n, h.1, h.2.1, h.2.2⟩) hnames⟩
    have hp : p ≠ Path.here := by
      intro hp
      have hempty : p.names = [] := by rw [hp]; rfl
      exact hne (by rw [← show p.anchor = anchor from rfl, hp]; rfl) (by simpa [p] using hempty)
    refine ⟨p, ?_⟩
    rw [toString_eq p hp, nameText]
    simp [p, List.map_pmap]

theorem toString_ofString_iff : (ofString text).toString = text ↔ IsNormal text := by
  constructor
  · intro h
    rw [← h]
    exact isNormal_toString _
  · intro h
    obtain ⟨p, rfl⟩ := h.exists_toString
    rw [ofString_toString]

/-- Paths differ if and only if their texts do. -/
theorem toString_inj : p.toString = q.toString ↔ p = q := by
  constructor
  · intro h
    rw [← ofString_toString p, h, ofString_toString]
  · rintro rfl
    rfl

end Path

/-! ## Texts put together -/

theorem textParts_append_slash (a b : String) :
    textParts (a ++ "/" ++ b) = textParts a ++ textParts b := by
  simp [textParts, List.splitOn_eq_splitOnP, List.splitOnP_append_cons]

namespace Path

theorem names_ofString_append (a b : String) :
    (ofString (a ++ "/" ++ b)).names = (ofString a).names ++ (ofString b).names := by
  rw [names_ofString, textParts_append_slash, List.filterMap_append, names_ofString, names_ofString]

theorem names_ofString_slashes {text : String} (h : ∀ c ∈ text.toList, c = '/') :
    (ofString text).names = [] := by
  rw [names_ofString, List.filterMap_eq_nil_iff]
  have hparts : ∀ part ∈ textParts text, part = "" := by
    rw [textParts]
    generalize text.toList = cs at h
    induction cs with
    | nil => simp
    | cons c cs ih =>
      rw [List.forall_mem_cons] at h
      obtain rfl := h.1
      simpa [List.splitOn_cons_eq_if_modifyHead] using ih h.2
  intro part hpart
  rw [hparts part hpart]
  rfl

/-- Slashes at the end name nothing. -/
theorem names_ofString_append_slashes (a : String) {b : String} (h : ∀ c ∈ b.toList, c = '/') :
    (ofString (a ++ b)).names = (ofString a).names := by
  cases hb : b.toList with
  | nil => rw [String.toList_eq_nil_iff.1 hb, String.append_empty]
  | cons c cs =>
    rw [hb, List.forall_mem_cons] at h
    obtain ⟨rfl, hcs⟩ := h
    have hb' : b = "/" ++ String.ofList cs := by
      rw [← String.toList_inj, hb]
      simp
    have hslashes : (ofString (String.ofList cs)).names = [] := names_ofString_slashes (by simpa)
    rw [hb', ← String.append_assoc, names_ofString_append, hslashes, List.append_nil]

/-- Where a text begins is not changed by what comes after something else than slashes. -/
theorem anchor_ofString_append {a : String} (h : ∃ c ∈ a.toList, c ≠ '/') (b : String) :
    (ofString (a ++ b)).anchor = (ofString a).anchor := by
  obtain ⟨c, hc, hslash⟩ := h
  have hlength : (a.toList.takeWhile (· == '/')).length ≠ a.toList.length := by
    intro hlength
    have hall := List.takeWhile_eq_self_iff.1 ((List.takeWhile_sublist _).eq_of_length hlength)
    exact hslash (by simpa using hall c hc)
  simp only [ofString, Anchor.ofChars, String.toList_append, List.takeWhile_append, hlength, if_false]

end Path

end DeviceLauncher
