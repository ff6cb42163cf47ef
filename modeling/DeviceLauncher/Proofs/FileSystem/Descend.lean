import DeviceLauncher.FileSystem.Canonical
import DeviceLauncher.Proofs.FileSystem.Walk
import DeviceLauncher.Proofs.Path

/-!
# Paths without links

`descend` follows the names of a path, and stops at a symbolic link. What a path without links
denotes is found there (`Denotes.find_ne_linkLoop`, `Denotes.findLink_child`), and neither `..`
taken textually nor the way from the root changes it (`Denotes.upFrom`, `Denotes.collapse`,
`Denotes.absolute`).
-/

namespace DeviceLauncher.FileSystem

/-- Where a name leads from a directory, unless it is a link. -/
def next? (fs : FileSystem) (here : Inode) (n : Name) : Option Inode :=
  match fs.directory? here with
  | none => none
  | some d =>
    if n = Name.up then some d.parent
    else (d.entries.lookup n.text).filter fun i => (fs.link? i).isNone

/-- Where names lead, if none of them is a link. -/
def descend (fs : FileSystem) (here : Inode) (names : List Name) : Option Inode :=
  names.foldlM fs.next? here

/-- The directory at which a path begins. -/
def startOf (cwd : Inode) (p : Path) : Inode := if p.anchor = .relative then cwd else root

/-- Whether a path leads to an inode, and through no link. -/
def Denotes (fs : FileSystem) (cwd : Inode) (p : Path) (i : Inode) : Prop :=
  fs.descend (startOf cwd p) p.names = some i

variable {fs : FileSystem} {cwd here i j : Inode} {d : Directory} {n : Name} {p q : Path}

/-! ## Single names -/

theorem next?_up (hd : fs.directory? here = some d) : fs.next? here Name.up = some d.parent := by
  simp [next?, hd]

theorem next?_up_eq_some_iff : fs.next? here Name.up = some i ↔
    ∃ d, fs.directory? here = some d ∧ d.parent = i := by
  cases hd : fs.directory? here with
  | none => simp [next?, hd]
  | some d => simp [next?_up hd]

theorem next?_eq_some_iff (hn : n ≠ Name.up) : fs.next? here n = some i ↔
    ∃ d, fs.directory? here = some d ∧ d.entries.lookup n.text = some i ∧ fs.link? i = none := by
  cases hd : fs.directory? here with
  | none => simp [next?, hd]
  | some d => simp [next?, hd, hn, Option.filter_eq_some_iff]

theorem next?_of_link {target : String} (hn : n ≠ Name.up) (hd : fs.directory? here = some d)
    (hl : d.entries.lookup n.text = some i) (ht : fs.link? i = some target) :
    fs.next? here n = none := by
  simp [next?, hd, hn, hl, Option.filter_some, ht]

@[simp]
theorem descend_nil (fs : FileSystem) (here : Inode) : fs.descend here [] = some here := rfl

theorem descend_cons (fs : FileSystem) (here : Inode) (n : Name) (rest : List Name) :
    fs.descend here (n :: rest) = (fs.next? here n).bind (fs.descend · rest) := rfl

theorem descend_append (fs : FileSystem) (here : Inode) (first rest : List Name) :
    fs.descend here (first ++ rest) = (fs.descend here first).bind (fs.descend · rest) :=
  List.foldlM_append

theorem descend_up_cons {rest : List Name} (h : fs.descend here (Name.up :: rest) = some i) :
    ∃ d, fs.directory? here = some d ∧ fs.descend d.parent rest = some i := by
  rw [descend_cons, Option.bind_eq_some_iff] at h
  obtain ⟨j, hj, hrest⟩ := h
  obtain ⟨d, hd, rfl⟩ := next?_up_eq_some_iff.1 hj
  exact ⟨d, hd, hrest⟩

theorem descend_concat (fs : FileSystem) (here : Inode) (names : List Name) (n : Name) :
    fs.descend here (names ++ [n]) = (fs.descend here names).bind (fs.next? · n) := by
  rw [descend_append]
  simp [descend_cons]

/-- What is entered through names that are no `..` has its name in the directory before. -/
theorem isEntryName_of_next? (hwf : fs.WellFormed) (hn : n ≠ Name.up)
    (h : fs.next? here n = some i) : IsEntryName n.text := by
  obtain ⟨d, hd, hl, -⟩ := (next?_eq_some_iff hn).1 h
  exact hwf.isEntryName hd (WellFormed.mem_of_lookup hl)

/-- The directory above one that is entered is where it was entered. -/
theorem parent_of_next? (hwf : fs.WellFormed) (hn : n ≠ Name.up) (h : fs.next? here n = some i)
    (hd : fs.directory? i = some d) : d.parent = here := by
  obtain ⟨e, he, hl, -⟩ := (next?_eq_some_iff hn).1 h
  exact hwf.parent_eq he (WellFormed.mem_of_lookup hl) hd

/-! ## Paths -/

theorem startOf_child (cwd : Inode) (p : Path) (n : Name) :
    startOf cwd (p.child n) = startOf cwd p := rfl

theorem routeStart_toString (cwd : Inode) (p : Path) :
    routeStart cwd p.toString = startOf cwd p := by
  rw [routeStart, startOf, Path.route_toString]
  by_cases ha : p.anchor = .relative <;> simp [ha]

theorem denotes_child_iff : Denotes fs cwd (p.child n) j ↔
    ∃ i, Denotes fs cwd p i ∧ fs.next? i n = some j := by
  rw [Denotes, startOf_child, Path.child, descend_concat, Option.bind_eq_some_iff]
  rfl

theorem Denotes.child (h : Denotes fs cwd p i) (hj : fs.next? i n = some j) :
    Denotes fs cwd (p.child n) j := denotes_child_iff.2 ⟨i, h, hj⟩

theorem Denotes.unique (h : Denotes fs cwd p i) (h' : Denotes fs cwd p j) : i = j :=
  Option.some.inj (h.symm.trans h')

/-- A path that has a last name is that name below its parent. -/
theorem child_of_getLast? (h : p.names.getLast? = some n) : p.parent.child n = p := by
  obtain ⟨anchor, names⟩ := p
  obtain ⟨front, rfl⟩ := List.getLast?_eq_some_iff.1 h
  simp [Path.parent, Path.child]

/-- Taking the last name away, or adding `..`, leads to the directory above. -/
theorem Denotes.upFrom (hwf : fs.WellFormed) (h : Denotes fs cwd p i)
    (hd : fs.directory? i = some d) : Denotes fs cwd p.upFrom d.parent := by
  unfold Path.upFrom
  split
  · next last _ hlast =>
    split
    · exact h.child (next?_up hd)
    · next hup =>
      rw [← child_of_getLast? hlast] at h
      obtain ⟨j, hj, hnext⟩ := denotes_child_iff.1 h
      rwa [parent_of_next? hwf hup hnext hd]
  · exact h.child (next?_up hd)
  · next hlast ha =>
    -- Above the root lies the root.
    have hnames := List.getLast?_eq_none_iff.1 hlast
    have hstart : startOf cwd p = root := if_neg ha
    obtain rfl : root = i := by simpa [Denotes, hstart, hnames] using h
    rwa [hwf.parent_root hd]

/-- The names on the way of a path that leads somewhere hold no NUL. -/
theorem no_nul_of_descend (hwf : fs.WellFormed) {names : List Name}
    (h : fs.descend here names = some i) (hn : n ∈ names) : '\x00' ∉ n.text.toList := by
  induction names generalizing here with
  | nil => simp at hn
  | cons m rest ih =>
    rw [descend_cons, Option.bind_eq_some_iff] at h
    obtain ⟨j, hj, hrest⟩ := h
    rcases List.mem_cons.1 hn with rfl | hn
    · by_cases hup : n = Name.up
      · subst hup
        decide
      · exact (isEntryName_of_next? hwf hup hj).no_nul
    · exact ih hrest hn

/-! ## What the system sees -/

section

variable {purpose : Purpose} {links : Nat} {names : List Name} {rest : List String} {place : Place}

theorem Leads.of_next? (hwf : fs.WellFormed) (hp : purpose ≠ .create)
    (hn : fs.next? here n = some i) (h : Leads fs purpose links i rest place) :
    Leads fs purpose links here (n.text :: rest) place := by
  by_cases hup : n = Name.up
  · subst hup
    obtain ⟨d, hd, rfl⟩ := next?_up_eq_some_iff.1 hn
    exact .up hd h
  · obtain ⟨d, hd, hl, hi⟩ := (next?_eq_some_iff hup).1 hn
    have hname := isEntryName_of_next? hwf hup hn
    exact .enter hd ⟨hname.ne_empty, hname.ne_dot, hname.ne_up, hname.length_le⟩
      (fun hc => hp hc.1) hl hi h

/-- Names that are followed by `descend` are followed by the system. -/
theorem Leads.of_descend (hwf : fs.WellFormed) (hp : purpose ≠ .create)
    (hn : fs.descend here names = some i) (h : Leads fs purpose links i rest place) :
    Leads fs purpose links here (names.map Name.text ++ rest) place := by
  induction names generalizing here with
  | nil =>
    obtain rfl : here = i := by simpa using hn
    exact h
  | cons n names ih =>
    rw [descend_cons, Option.bind_eq_some_iff] at hn
    obtain ⟨j, hj, hrest⟩ := hn
    exact .of_next? hwf hp hj (ih hrest)

end

theorem child_ne_here (p : Path) (n : Name) : p.child n ≠ Path.here := by
  simp [Path.child, Path.here]

theorem names_route_toString (h : p ≠ Path.here) :
    (Route.ofString p.toString).names = p.names.map Name.text := by
  rw [Path.route_toString, if_neg h]

/-- A path that leads somewhere is looked at, unless it is too long. -/
theorem Denotes.isAdmissible (hwf : fs.WellFormed) (h : Denotes fs cwd p i)
    (hlength : p.toString.utf8ByteSize < pathLimit) : IsAdmissible p.toString :=
  ⟨Path.not_mem_toString (by decide) (by decide) fun _ => no_nul_of_descend hwf h,
    p.toString_ne_empty, hlength⟩

/-- What a path from the root denotes is found there, and the path is too long at worst. -/
theorem Denotes.find_ne_linkLoop (hwf : fs.WellFormed) (h : Denotes fs cwd p i)
    (hanchor : p.anchor ≠ .relative) :
    fs.find cwd p.toString ≠ .error (.errno .linkLoop) := by
  have hp : p ≠ Path.here := fun he => hanchor (by rw [he]; rfl)
  have hleads : Leads fs .find mostLinks (routeStart cwd p.toString)
      (Route.ofString p.toString).names (.node i) := by
    rw [routeStart_toString, names_route_toString hp]
    simpa using Leads.of_descend hwf (by simp) h .done
  by_cases hlength : p.toString.utf8ByteSize < pathLimit
  · have hfind : fs.find cwd p.toString = .ok i :=
      find_eq_ok_iff.2 (locate_eq_ok_iff.2 ⟨h.isAdmissible hwf hlength, hleads⟩)
    simp [hfind]
  · have hnul : '\x00' ∉ p.toString.toList :=
      Path.not_mem_toString (by decide) (by decide) fun _ => no_nul_of_descend hwf h
    simp [find, locate, hnul, p.toString_ne_empty, Nat.not_lt.1 hlength, bind, Except.bind]

/-- What a directory has under a name is found there, be it a link. -/
theorem Denotes.findLink_child (hwf : fs.WellFormed) (h : Denotes fs cwd p here)
    (hd : fs.directory? here = some d) (hl : d.entries.lookup n.text = some i)
    (hlength : (p.child n).toString.utf8ByteSize < pathLimit) :
    fs.findLink cwd (p.child n).toString = .ok i := by
  have hname := hwf.isEntryName hd (WellFormed.mem_of_lookup hl)
  have hnul : '\x00' ∉ (p.child n).toString.toList := by
    refine Path.not_mem_toString (by decide) (by decide) fun m hm => ?_
    rcases List.mem_append.1 hm with hm | hm
    · exact no_nul_of_descend hwf h hm
    · rw [List.mem_singleton.1 hm]
      exact hname.no_nul
  have hplain : IsPlain n.text := ⟨hname.ne_empty, hname.ne_dot, hname.ne_up, hname.length_le⟩
  have hlast : Leads fs .findLink mostLinks here [n.text] (.node i) := by
    cases hi : fs.link? i with
    | none => exact .enter hd hplain (by simp) hl hi .done
    | some target => exact .link hd hplain hl hi rfl
  have hleads : Leads fs .findLink mostLinks (routeStart cwd (p.child n).toString)
      (Route.ofString (p.child n).toString).names (.node i) := by
    rw [routeStart_toString, names_route_toString (child_ne_here p n), startOf_child]
    simpa [Path.child] using Leads.of_descend hwf (by simp) h hlast
  have hlocate : fs.locate cwd (p.child n).toString .findLink = .ok (.node i) :=
    locate_eq_ok_iff.2 ⟨⟨hnul, (p.child n).toString_ne_empty, hlength⟩, hleads⟩
  rw [findLink, hlocate]
  rfl

/-! ## Paths from the root -/

theorem descend_collapseOnto (hwf : fs.WellFormed) {anchor : Anchor} (ha : anchor ≠ .relative)
    {done rest : List Name} (hup : Name.up ∉ done) (h : fs.descend root done.reverse = some i)
    (hrest : fs.descend i rest = some j) :
    fs.descend root (Path.collapseOnto anchor done rest) = some j := by
  fun_induction Path.collapseOnto anchor done rest generalizing i with
  | case1 done =>
    obtain rfl : i = j := by simpa using hrest
    exact h
  | case2 done n rest hn ih =>
    rw [descend_cons, Option.bind_eq_some_iff] at hrest
    obtain ⟨k, hk, hrest⟩ := hrest
    refine ih (by simp [hup, hn.symm]) ?_ hrest
    rw [List.reverse_cons, descend_concat, h]
    exact hk
  | case3 n rest hn ih =>
    obtain rfl : n = Name.up := Decidable.not_not.1 hn
    obtain rfl : root = i := by simpa using h
    obtain ⟨d, hd, hrest⟩ := descend_up_cons hrest
    rw [hwf.parent_root hd] at hrest
    rw [if_neg ha] at ih ⊢
    exact ih hup rfl hrest
  | case4 => exact absurd List.mem_cons_self hup
  | case5 n rest hn last above hlast ih =>
    obtain rfl : n = Name.up := Decidable.not_not.1 hn
    rw [List.reverse_cons, descend_concat, Option.bind_eq_some_iff] at h
    obtain ⟨k, hk, hi⟩ := h
    obtain ⟨d, hd, hrest⟩ := descend_up_cons hrest
    rw [parent_of_next? hwf hlast hi hd] at hrest
    exact ih (fun hmem => hup (List.mem_cons_of_mem last hmem)) hk hrest

/-- Taking `..` textually makes no difference where there are no links. -/
theorem descend_collapse (hwf : fs.WellFormed) (ha : p.anchor ≠ .relative)
    (h : fs.descend root p.names = some i) : fs.descend root p.collapse.names = some i :=
  descend_collapseOnto hwf ha (by simp) rfl h

theorem mem_of_nameOf? {x : String} (h : d.nameOf? i = some x) : (x, i) ∈ d.entries := by
  obtain ⟨⟨x, k⟩, hfind, rfl⟩ := Option.map_eq_some_iff.1 h
  obtain rfl : k = i := by simpa using List.find?_some hfind
  exact List.mem_of_find?_eq_some hfind

theorem namesTo_succ_eq_some_iff {fuel : Nat} {below names : List String} (hi : i ≠ root) :
    fs.namesTo (fuel + 1) i below = some names ↔
      ∃ d e x, fs.directory? i = some d ∧ d.removed = false ∧ fs.directory? d.parent = some e ∧
        e.nameOf? i = some x ∧ fs.namesTo fuel d.parent (x :: below) = some names := by
  rw [namesTo, if_neg hi]
  cases hd : fs.directory? i with
  | none => simp
  | some d =>
    cases hr : d.removed with
    | true => simp [hr]
    | false => simp [hr, Option.bind_eq_some_iff]

theorem exists_of_namesTo (hwf : fs.WellFormed) {fuel : Nat} {below names : List String}
    (h : fs.namesTo fuel i below = some names) :
    ∃ above : List Name, names = above.map Name.text ++ below ∧
      fs.descend root above = some i ∧ Name.up ∉ above := by
  induction fuel generalizing i below with
  | zero => simp [namesTo] at h
  | succ fuel ih =>
    by_cases hi : i = root
    · subst hi
      obtain rfl : below = names := by simpa [namesTo] using h
      exact ⟨[], rfl, rfl, List.not_mem_nil⟩
    · obtain ⟨d, e, x, hd, -, he, hnameOf, habove⟩ := (namesTo_succ_eq_some_iff hi).1 h
      have hx := mem_of_nameOf? hnameOf
      obtain ⟨above, rfl, hparent, hnone⟩ := ih habove
      have hname := hwf.isEntryName he hx
      let n : Name := ⟨x, hname.ne_empty, hname.ne_dot, hname.no_slash⟩
      have hup : n ≠ Name.up := fun h => hname.ne_up (congrArg Name.text h)
      have hlink : fs.link? i = none := by rw [link?, directory?_eq_some_iff.1 hd]
      have hnext : fs.next? d.parent n = some i :=
        (next?_eq_some_iff hup).2 ⟨e, he, hwf.lookup_of_mem he hx, hlink⟩
      refine ⟨above ++ [n], by simp [n], ?_, by simp [hnone, hup.symm]⟩
      rw [descend_concat, hparent]
      exact hnext

/-- The path of a directory denotes it, and holds no `..`. -/
theorem exists_of_pathOf? (hwf : fs.WellFormed) {text : String} (h : fs.pathOf? i = some text) :
    ∃ names : List Name, Path.ofString text = ⟨.root, names⟩ ∧ fs.descend root names = some i ∧
      Name.up ∉ names := by
  obtain ⟨texts, htexts, rfl⟩ := Option.map_eq_some_iff.1 h
  obtain ⟨names, rfl, hi, hup⟩ := exists_of_namesTo hwf htexts
  have htext : "/" ++ "/".intercalate (names.map Name.text ++ []) =
      (⟨.root, names⟩ : Path).toString := by
    rw [List.append_nil, Path.toString_eq _ (by simp [Path.here])]
    rfl
  exact ⟨names, by rw [htext, Path.ofString_toString], hi, hup⟩

/-- The same place has a path from the root. -/
theorem Denotes.absolute (hwf : fs.WellFormed) (h : Denotes fs cwd p i)
    (hcwd : p.anchor = .relative → (fs.pathOf? cwd).isSome) :
    ∃ q, fs.absolute cwd p = .ok q ∧ q.anchor ≠ .relative ∧ fs.descend root q.names = some i := by
  by_cases ha : p.anchor = .relative
  · obtain ⟨text, htext⟩ := Option.isSome_iff_exists.1 (hcwd ha)
    obtain ⟨names, hnames, hi, -⟩ := exists_of_pathOf? hwf htext
    have hjoin : (Path.ofString text).join p = ⟨.root, names ++ p.names⟩ := by
      simp [hnames, Path.join, ha]
    have hdescend : fs.descend root (names ++ p.names) = some i := by
      rw [descend_append, hi]
      rwa [Denotes, startOf, if_pos ha] at h
    refine ⟨(⟨.root, names ++ p.names⟩ : Path).collapse, ?_, by simp [Path.collapse],
      descend_collapse hwf (by simp) hdescend⟩
    simp [FileSystem.absolute, ha, htext, hjoin]
  · rw [Denotes, startOf, if_neg ha] at h
    exact ⟨p.collapse, by simp [FileSystem.absolute, ha], ha, descend_collapse hwf ha h⟩

end DeviceLauncher.FileSystem
