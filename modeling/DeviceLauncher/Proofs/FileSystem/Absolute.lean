import DeviceLauncher.Proofs.FileSystem.Settled

/-!
# The way from the root

`absolute` makes a path into one from the root, with `..` taken textually. If the path has no `..`
then it is only the working directory that comes before it, and both paths lead to the same place
unless the longer one is too long (`locate_absolute`).

A directory in which a name was free may have that name later, and then it stands for something new
(`Leads.free_or_new`).
-/

namespace DeviceLauncher

namespace Path

variable {anchor : Anchor} {done first rest : List Name} {p : Path} {n : Name} {c : Char}

/-! ## Taking `..` textually -/

theorem collapseOnto_cons (hn : n ≠ Name.up) :
    collapseOnto anchor done (n :: rest) = collapseOnto anchor (n :: done) rest := by
  rw [collapseOnto.eq_def]
  exact if_pos hn

theorem collapseOnto_of_up_not_mem (h : Name.up ∉ rest) :
    collapseOnto anchor done rest = done.reverse ++ rest := by
  induction rest generalizing done with
  | nil => simp [collapseOnto]
  | cons n rest ih =>
    simp only [List.mem_cons, not_or] at h
    rw [collapseOnto_cons (Ne.symm h.1), ih h.2]
    simp

/-- Names without `..` stay after those that come before them. -/
theorem collapseOnto_append (h : Name.up ∉ rest) :
    collapseOnto anchor done (first ++ rest) = collapseOnto anchor done first ++ rest := by
  fun_induction collapseOnto anchor done first with
  | case1 done => exact collapseOnto_of_up_not_mem h
  | case2 done n first hn ih => rw [List.cons_append, collapseOnto_cons hn, ih]
  | case3 n first hn ih => rw [List.cons_append, collapseOnto, if_neg hn, ih]
  | case4 n first hn above ih =>
    rw [List.cons_append, collapseOnto, if_neg hn]
    simpa using ih
  | case5 n first hn last above hlast ih =>
    rw [List.cons_append, collapseOnto, if_neg hn]
    simpa [hlast] using ih

theorem collapse_of_up_not_mem (h : Name.up ∉ p.names) : p.collapse = p := by
  rw [collapse, collapseOnto_of_up_not_mem h]
  rfl

theorem mem_of_mem_collapseOnto (h : n ∈ collapseOnto anchor done rest) : n ∈ done ∨ n ∈ rest := by
  fun_induction collapseOnto anchor done rest with
  | case1 done => exact .inl (List.mem_reverse.1 h)
  | case2 done m rest _ ih => have := ih h; grind
  | case3 m rest _ ih => have := ih h; grind
  | case4 m rest _ above ih => have := ih h; grind
  | case5 m rest _ last above _ ih => have := ih h; grind

/-! ## The characters of a path -/

/-- The characters of a path's text are those of its names, but for slashes and dots. -/
theorem mem_toString_iff (hslash : c ≠ '/') (hdot : c ≠ '.') :
    c ∈ p.toString.toList ↔ ∃ n ∈ p.names, c ∈ n.text.toList := by
  constructor
  · intro hc
    by_contra hno
    exact not_mem_toString hslash hdot (fun n hn hmem => hno ⟨n, hn, hmem⟩) hc
  · rintro ⟨n, hn, hc⟩
    have hne : p ≠ here := by
      rintro rfl
      cases hn
    have hpart : n.text ∈ (textParts p.toString).filter (· != "") := by
      rw [filter_textParts_toString, if_neg hne]
      exact List.mem_map_of_mem hn
    exact (of_mem_textParts (List.mem_of_mem_filter hpart)).2 hc

/-- What is in the text of a path, but not in that of its parent, is in its last name. -/
theorem exists_last_of_mem_toString (hslash : c ≠ '/') (hdot : c ≠ '.') (h : c ∈ p.toString.toList)
    (hparent : c ∉ p.parent.toString.toList) :
    ∃ front last, p.names = front ++ [last] ∧ c ∈ last.text.toList := by
  obtain ⟨n, hn, hc⟩ := (mem_toString_iff hslash hdot).1 h
  have hlast := List.dropLast_append_getLast (List.ne_nil_of_mem hn)
  refine ⟨_, _, hlast.symm, ?_⟩
  rw [← hlast] at hn
  rcases List.mem_append.1 hn with hfront | hmem
  · exact absurd ((mem_toString_iff hslash hdot).2 ⟨n, hfront, hc⟩) hparent
  · rwa [← List.mem_singleton.1 hmem]

/-- The text of names is the end of their text below others. -/
theorem nameText_suffix (first rest : List Name) :
    (nameText rest).toList <:+ (nameText (first ++ rest)).toList := by
  induction first with
  | nil => exact List.suffix_rfl
  | cons n first ih =>
    cases hnames : first ++ rest with
    | nil =>
      obtain ⟨rfl, rfl⟩ := List.append_eq_nil_iff.1 hnames
      exact List.nil_suffix
    | cons m more =>
      rw [List.cons_append, hnames, toList_nameText_cons]
      rw [hnames] at ih
      exact ih.trans (List.suffix_append _ _)

theorem utf8ByteSize_le_of_suffix {s t : String} (h : s.toList <:+ t.toList) :
    s.utf8ByteSize ≤ t.utf8ByteSize := by
  obtain ⟨before, hbefore⟩ := h
  have ht : t = String.ofList before ++ s := String.toList_injective (by simp [← hbefore])
  rw [ht, String.utf8ByteSize_append]
  exact Nat.le_add_left _ _

/-- A path with others before it is no shorter. -/
theorem utf8ByteSize_toString_le_append (first : List Name) (h : p.anchor = .relative) :
    p.toString.utf8ByteSize ≤ (⟨.root, first ++ p.names⟩ : Path).toString.utf8ByteSize := by
  obtain ⟨anchor, names⟩ := p
  obtain rfl : anchor = .relative := h
  rw [toString_eq ⟨.root, first ++ names⟩ (by simp [here]), String.utf8ByteSize_append]
  have hslash : Anchor.root.toString.utf8ByteSize = 1 := rfl
  by_cases hhere : (⟨.relative, names⟩ : Path) = here
  · have hdot : (here.toString).utf8ByteSize = 1 := rfl
    rw [hhere, hdot, hslash]
    exact Nat.le_add_right _ _
  · have hempty : Anchor.relative.toString.utf8ByteSize = 0 := rfl
    have hnames := utf8ByteSize_le_of_suffix (nameText_suffix first names)
    rw [toString_eq _ hhere, String.utf8ByteSize_append]
    simp only
    omega

end Path

namespace FileSystem

variable {fs before after : FileSystem} {cwd here i : Inode} {p q : Path} {n : Name}
  {purpose : Purpose} {links : Nat} {names : List Name} {rest : List String}
  {written created made : Inode → Prop}

/-! ## Names that are followed at once -/

theorem walk_of_next? (hwf : fs.WellFormed) (hn : fs.next? here n = some i) (hrest : rest ≠ [""]) :
    fs.walk purpose links here (n.text :: rest) = fs.walk purpose links i rest := by
  by_cases hup : n = Name.up
  · subst hup
    obtain ⟨d, hd, rfl⟩ := next?_up_eq_some_iff.1 hn
    have htext : Name.up.text = ".." := rfl
    rw [walk, hd]
    simp [htext]
  · obtain ⟨d, hd, hl, hi⟩ := (next?_eq_some_iff hup).1 hn
    have hname := isEntryName_of_next? hwf hup hn
    rw [walk, hd]
    simp [hname.ne_empty, hname.ne_dot, hname.ne_up, hrest, Nat.not_lt.2 hname.length_le, hl, hi]

/-- Names over which no link is met can be left out. -/
theorem walk_of_descend (hwf : fs.WellFormed) (hn : fs.descend here names = some i)
    (hrest : rest ≠ [""]) : fs.walk purpose links here (names.map Name.text ++ rest) =
      fs.walk purpose links i rest := by
  induction names generalizing here with
  | nil =>
    obtain rfl : here = i := by simpa using hn
    rfl
  | cons n names ih =>
    rw [descend_cons, Option.bind_eq_some_iff] at hn
    obtain ⟨j, hj, hnames⟩ := hn
    have hmore : names.map Name.text ++ rest ≠ [""] := by
      cases names with
      | nil => exact hrest
      | cons m names => simp [m.ne_empty]
    rw [List.map_cons, List.cons_append, walk_of_next? hwf hj hmore, ih hnames]

/-- A directory that has a path is one. -/
theorem exists_directory?_of_pathOf? (hwf : fs.WellFormed) {text : String}
    (h : fs.pathOf? i = some text) : ∃ d, fs.directory? i = some d := by
  by_cases hi : i = root
  · obtain ⟨d, hd, -⟩ := hwf.root
    exact ⟨d, hi ▸ hd⟩
  · obtain ⟨names, hnames, -⟩ := Option.map_eq_some_iff.1 h
    obtain ⟨d, -, -, hd, -⟩ := (namesTo_succ_eq_some_iff hi).1 hnames
    exact ⟨d, hd⟩

/-! ## Paths from the root -/

/-- How a path begins that is seen from a working directory. -/
structure IsAbove (fs : FileSystem) (cwd : Inode) (above : List Name) : Prop where
  descend : fs.descend root above = some cwd
  up_not_mem : Name.up ∉ above
  directory : ∃ d, fs.directory? cwd = some d

/-- A path from the root is itself, and another one comes after the names of the working
directory. -/
theorem absolute_cases (hwf : fs.WellFormed) (h : fs.absolute cwd p = .ok q) :
    p.anchor ≠ .relative ∧ q = p.collapse ∨
      p.anchor = .relative ∧ ∃ above, IsAbove fs cwd above ∧
        q = (⟨.root, above ++ p.names⟩ : Path).collapse := by
  unfold absolute at h
  split at h
  · next ha =>
    cases h
    exact .inl ⟨ha, rfl⟩
  next ha =>
  have ha := Decidable.not_not.1 ha
  cases hpath : fs.pathOf? cwd with
  | none =>
    rw [hpath] at h
    cases h
  | some text =>
    rw [hpath] at h
    obtain ⟨above, habove, hdescend, hup⟩ := exists_of_pathOf? hwf hpath
    refine .inr ⟨ha, above, ⟨hdescend, hup, exists_directory?_of_pathOf? hwf hpath⟩, ?_⟩
    rw [← Except.ok.inj h, habove, Path.join, if_pos ha]

/-- Without `..` a path leads where its path from the root leads, unless that is too long. -/
theorem locate_absolute (hwf : fs.WellFormed) (h : fs.absolute cwd p = .ok q)
    (hup : Name.up ∉ p.names) (hlength : q.toString.utf8ByteSize < pathLimit) :
    fs.locate cwd q.toString purpose = fs.locate cwd p.toString purpose := by
  obtain ⟨-, rfl⟩ | ⟨ha, above, habove, rfl⟩ := absolute_cases hwf h
  · rw [Path.collapse_of_up_not_mem hup]
  have hq : (⟨.root, above ++ p.names⟩ : Path).collapse = ⟨.root, above ++ p.names⟩ :=
    Path.collapse_of_up_not_mem (by simp [habove.up_not_mem, hup])
  rw [hq] at hlength ⊢
  have hnul : '\x00' ∈ (⟨.root, above ++ p.names⟩ : Path).toString.toList ↔
      '\x00' ∈ p.toString.toList := by
    rw [Path.mem_toString_iff (by decide) (by decide), Path.mem_toString_iff (by decide) (by decide)]
    constructor
    · rintro ⟨n, hn, hc⟩
      rcases List.mem_append.1 hn with hn | hn
      · exact absurd hc (no_nul_of_descend hwf habove.descend hn)
      · exact ⟨n, hn, hc⟩
    · rintro ⟨n, hn, hc⟩
      exact ⟨n, List.mem_append_right above hn, hc⟩
  have hlength' := (Path.utf8ByteSize_toString_le_append above ha).trans_lt hlength
  have hwalk : fs.walk purpose mostLinks root (above.map Name.text ++ p.names.map Name.text) =
      fs.walk purpose mostLinks cwd (Route.ofString p.toString).names := by
    rw [walk_of_descend hwf habove.descend]
    · rw [Path.route_toString]
      by_cases hhere : p = .here
      · obtain ⟨d, hd⟩ := habove.directory
        subst hhere
        simp [Path.here, walk, hd]
      · rw [if_neg hhere]
    · rintro hone
      obtain ⟨n, -, hn⟩ := List.mem_map.1 (hone ▸ List.mem_singleton_self "")
      exact n.ne_empty hn
  have hstart : (Route.ofString p.toString).absolute = false := by simp [Path.route_toString, ha]
  have hroute : Route.ofString (⟨.root, above ++ p.names⟩ : Path).toString =
      ⟨true, above.map Name.text ++ p.names.map Name.text⟩ := by
    rw [Path.route_toString, if_neg (by simp [Path.here])]
    simp
  unfold locate
  simp [hnul, Path.toString_ne_empty, Nat.not_le.2 hlength, Nat.not_le.2 hlength', hroute, hstart,
    hwalk]

/-! ## Free names in a file system that grows -/

/-- What leads to a free name still does, or the name has come to stand for something new. -/
theorem Leads.free_or_new {name : String} {texts : List String} (hwf : before.WellFormed)
    (hg : Frame written created made before after)
    (h : Leads before purpose links here texts (.free i name)) :
    Leads after purpose links here texts (.free i name) ∨
      ∃ j, IsNew before after j ∧ Leads after purpose links here texts (.node j) := by
  generalize hp : Place.free i name = place at h
  induction h with
  | done => cases hp
  | stay hd hname _ ih =>
    obtain ⟨more, hd', -⟩ := hg.directory? hd
    exact (ih hp).imp (.stay hd' hname) fun ⟨j, hj, hleads⟩ => ⟨j, hj, .stay hd' hname hleads⟩
  | up hd _ ih =>
    obtain ⟨more, hd', -⟩ := hg.directory? hd
    exact (ih hp).imp (.up hd') fun ⟨j, hj, hleads⟩ => ⟨j, hj, .up hd' hleads⟩
  | @free links here d name hd hn hl =>
    cases hp
    obtain ⟨more, hd', hmore⟩ := hg.directory? hd
    cases hlater : (d.entries ++ more).lookup name with
    | none => exact .inl (.free hd' hn hlater)
    | some j =>
      have hnew : IsNew before after j := by
        rw [List.lookup_append, hl] at hlater
        obtain ⟨front, back, rfl, -⟩ := List.lookup_eq_some_iff.1 (hlater : more.lookup name = some j)
        exact hmore (name, j) (by simp)
      have hlink := hg.link?_eq_none hnew.1
      exact .inr ⟨j, hnew, .enter hd' hn (by simp) hlater hlink .done⟩
  | enter hd hn hc hl hi _ ih =>
    obtain ⟨e, he, -, hl'⟩ := hg.lookup hd hl
    have hi' := (hg.link? (hwf.lt_size hd (WellFormed.mem_of_lookup hl))).trans hi
    exact (ih hp).imp (.enter he hn hc hl' hi') fun ⟨j, hj, hleads⟩ =>
      ⟨j, hj, .enter he hn hc hl' hi' hleads⟩
  | link => cases hp
  | follow hd hn hc hl hi hlast _ ih =>
    obtain ⟨e, he, -, hl'⟩ := hg.lookup hd hl
    have hi' := (hg.link? (hwf.lt_size hd (WellFormed.mem_of_lookup hl))).trans hi
    exact (ih hp).imp (.follow he hn hc hl' hi' hlast) fun ⟨j, hj, hleads⟩ =>
      ⟨j, hj, .follow he hn hc hl' hi' hlast hleads⟩

end FileSystem

end DeviceLauncher
