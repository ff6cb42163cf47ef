import DeviceLauncher.Proofs.FileSystem.Frame

/-!
# Where a path leads

`Leads fs purpose links here names place` gives the rules by which `walk` gets to a place
(`walk_eq_ok_iff`), and what a change does to a path is shown by induction on them:

* a path that leads to a node still leads there when the file system has grown
  (`find_of_grows`), and files written in place do not show at all (`Rewritten.locate`);
* a node that is added at a free place is found by the path that led there (`of_locate_free`).
-/

namespace DeviceLauncher

/-! ## The characters of names -/

theorem of_mem_splitOn {sep : Char} {text part : List Char} (h : part ∈ text.splitOn sep) :
    sep ∉ part ∧ part ⊆ text := by
  induction text generalizing part with
  | nil =>
    rw [List.splitOn_nil, List.mem_singleton] at h
    simp [h]
  | cons c rest ih =>
    rw [List.splitOn_cons_eq_if_modifyHead] at h
    obtain ⟨first, more, hs⟩ := List.exists_cons_of_ne_nil (List.splitOn_ne_nil sep rest)
    rw [hs] at h ih
    split at h
    · rcases List.mem_cons.1 h with rfl | h
      · simp
      · exact ⟨(ih h).1, List.subset_cons_of_subset c (ih h).2⟩
    · next hc =>
      rcases List.mem_cons.1 h with rfl | h
      · obtain ⟨hsep, hsub⟩ := ih List.mem_cons_self
        have hne : sep ≠ c := fun he => hc (by simp [he])
        exact ⟨by simpa [hne] using hsep, List.cons_subset_cons c hsub⟩
      · obtain ⟨hsep, hsub⟩ := ih (List.mem_cons_of_mem _ h)
        exact ⟨hsep, List.subset_cons_of_subset c hsub⟩

theorem of_mem_textParts {text part : String} (h : part ∈ textParts text) :
    '/' ∉ part.toList ∧ part.toList ⊆ text.toList := by
  obtain ⟨chars, hc, rfl⟩ := List.mem_map.1 h
  rw [String.toList_ofList]
  exact of_mem_splitOn hc

/-- The names on a route are the parts of its text that are not empty, and it may be an empty one
after them. -/
theorem Route.names_cases (path : String) :
    (ofString path).names = (textParts path).filter (· != "") ∨
      (ofString path).names = (textParts path).filter (· != "") ++ [""] := by
  unfold ofString
  simp only
  split
  · exact .inr rfl
  · exact .inl rfl

/-- What the names on a route are made of. -/
theorem Route.of_mem {path name : String} (h : name ∈ (ofString path).names) :
    '/' ∉ name.toList ∧ name.toList ⊆ path.toList := by
  have hname : name ∈ textParts path ∨ name = "" := by
    rcases names_cases path with hnames | hnames
    · rw [hnames] at h
      exact .inl ((List.mem_filter.1 h).1)
    · rw [hnames] at h
      rcases List.mem_append.1 h with h | h
      · exact .inl ((List.mem_filter.1 h).1)
      · exact .inr (List.mem_singleton.1 h)
  rcases hname with h | rfl
  · exact of_mem_textParts h
  · simp

/-- A path that is not seen from the root has a name. -/
theorem Route.names_ne_nil {path : String} (hne : path ≠ "")
    (h : (ofString path).absolute = false) : (ofString path).names ≠ [] := by
  obtain ⟨c, rest, hc⟩ := List.exists_cons_of_ne_nil
    (fun h => hne (String.toList_eq_nil_iff.1 h))
  have hslash : c ≠ '/' := by simpa [ofString, hc] using h
  obtain ⟨first, more, hs⟩ := List.exists_cons_of_ne_nil (List.splitOn_ne_nil '/' rest)
  have hparts : textParts path = String.ofList (c :: first) :: more.map String.ofList := by
    simp [textParts, hc, List.splitOn_cons_eq_if_modifyHead, hslash, hs]
  have hfirst : String.ofList (c :: first) ≠ "" := by
    intro he
    simpa using congrArg String.toList he
  simp only [ofString, hparts, List.filter_cons, bne_iff_ne, ne_eq, hfirst, not_false_eq_true,
    if_true]
  split <;> simp

namespace FileSystem

/-- Whether a name is looked up in a directory. -/
structure IsPlain (name : String) : Prop where
  ne_empty : name ≠ ""
  ne_dot : name ≠ "."
  ne_up : name ≠ ".."
  length_le : name.utf8ByteSize ≤ longestName

/-- The directory at which a path begins that is seen from the directory `here`. -/
def routeStart (here : Inode) (path : String) : Inode :=
  if (Route.ofString path).absolute then root else here

/-- How names lead to a place, with `links` links to follow at most. -/
inductive Leads (fs : FileSystem) (purpose : Purpose) :
    Nat → Inode → List String → Place → Prop where
  | done {links : Nat} {here : Inode} : Leads fs purpose links here [] (.node here)
  | stay {links : Nat} {here : Inode} {d : Directory} {name : String} {rest : List String}
      {place : Place} :
      fs.directory? here = some d → name = "" ∨ name = "." →
        Leads fs purpose links here rest place → Leads fs purpose links here (name :: rest) place
  | up {links : Nat} {here : Inode} {d : Directory} {rest : List String} {place : Place} :
      fs.directory? here = some d → Leads fs purpose links d.parent rest place →
        Leads fs purpose links here (".." :: rest) place
  | free {links : Nat} {here : Inode} {d : Directory} {name : String} :
      fs.directory? here = some d → IsPlain name → d.entries.lookup name = none →
        Leads fs purpose links here [name] (.free here name)
  | enter {links : Nat} {here i : Inode} {d : Directory} {name : String} {rest : List String}
      {place : Place} :
      fs.directory? here = some d → IsPlain name → ¬ (purpose = .create ∧ rest = [""]) →
        d.entries.lookup name = some i → fs.link? i = none →
          Leads fs purpose links i rest place → Leads fs purpose links here (name :: rest) place
  | link {links : Nat} {here i : Inode} {d : Directory} {name target : String} :
      fs.directory? here = some d → IsPlain name → d.entries.lookup name = some i →
        fs.link? i = some target → purpose = .findLink →
          Leads fs purpose links here [name] (.node i)
  | follow {links : Nat} {here i : Inode} {d : Directory} {name target : String}
      {rest : List String} {place : Place} :
      fs.directory? here = some d → IsPlain name → ¬ (purpose = .create ∧ rest = [""]) →
        d.entries.lookup name = some i → fs.link? i = some target →
          ¬ (rest = [] ∧ purpose = .findLink) →
            Leads fs purpose links (routeStart here target)
              ((Route.ofString target).names ++ rest) place →
              Leads fs purpose (links + 1) here (name :: rest) place

section

variable {fs before after : FileSystem} {purpose : Purpose} {links : Nat} {here : Inode}
  {names : List String} {place : Place}

theorem IsPlain.of_not {name : String} (hn : ¬ (name = "" ∨ name = ".")) (hup : ¬ name = "..")
    (hlen : ¬ longestName < name.utf8ByteSize) : IsPlain name :=
  ⟨fun h => hn (.inl h), fun h => hn (.inr h), hup, Nat.not_lt.1 hlen⟩

/-- The rules are those of `walk`. -/
theorem walk_eq_ok_iff :
    fs.walk purpose links here names = .ok place ↔ Leads fs purpose links here names place := by
  constructor
  · intro h
    fun_induction fs.walk purpose links here names with
    | case1 links here => cases h; exact .done
    | case2 | case5 | case6 | case8 | case11 => cases h
    | case3 links here name rest d hd hname ih => exact .stay hd hname (ih h)
    | case4 links here rest d hd _ ih => exact .up hd (ih h)
    | case7 links here name rest d hd hn hup _ hlen hl hrest =>
      cases h
      rw [List.isEmpty_iff.1 hrest]
      exact .free hd (.of_not hn hup hlen) hl
    | case9 links here name rest d hd hn hup hc hlen i hl hi ih =>
      exact .enter hd (.of_not hn hup hlen) hc hl hi (ih h)
    | case10 links here name rest d hd hn hup hc hlen i hl target hi hlast =>
      cases h
      rw [List.isEmpty_iff.1 hlast.1]
      exact .link hd (.of_not hn hup hlen) hl hi hlast.2
    | case12 here name rest d hd hn hup hc hlen i hl target hi hlast links route start ih =>
      exact .follow hd (.of_not hn hup hlen) hc hl hi (fun hl => hlast ⟨by simp [hl.1], hl.2⟩)
        (ih h)
  · intro h
    induction h with
    | done => rw [walk]
    | stay hd hname _ ih => rw [walk]; simp [hd, hname, ih]
    | up hd _ ih => rw [walk]; simp [hd, ih]
    | free hd hn hl =>
      rw [walk]
      simp [hd, hn.ne_empty, hn.ne_dot, hn.ne_up, Nat.not_lt.2 hn.length_le, hl]
    | enter hd hn hc hl hi _ ih =>
      rw [walk]
      simp [hd, hn.ne_empty, hn.ne_dot, hn.ne_up, Nat.not_lt.2 hn.length_le, hc, hl, hi, ih]
    | link hd hn hl hi hp =>
      subst hp
      rw [walk]
      simp [hd, hn.ne_empty, hn.ne_dot, hn.ne_up, Nat.not_lt.2 hn.length_le, hl, hi]
    | follow hd hn hc hl hi hlast _ ih =>
      rw [walk]
      simp only [hd, hn.ne_empty, hn.ne_dot, hn.ne_up, Nat.not_lt.2 hn.length_le, hc, hl, hi,
        or_self, if_false, List.isEmpty_iff, hlast]
      exact ih

theorem Leads.lt_size (hwf : fs.WellFormed) {i : Inode}
    (h : Leads fs purpose links here names (.node i)) (hhere : names = [] → here < fs.nodes.size) :
    i < fs.nodes.size := by
  generalize hplace : Place.node i = place at h
  induction h with
  | done =>
    cases hplace
    exact hhere rfl
  | stay hd _ _ ih => exact ih (fun _ => lt_size_of_node? (directory?_eq_some_iff.1 hd)) hplace
  | up hd _ ih =>
    obtain ⟨p, hp⟩ := Option.isSome_iff_exists.1 (hwf.parent hd)
    exact ih (fun _ => lt_size_of_node? (directory?_eq_some_iff.1 hp)) hplace
  | free => cases hplace
  | enter hd _ _ hl _ _ ih =>
    exact ih (fun _ => hwf.lt_size hd (WellFormed.mem_of_lookup hl)) hplace
  | link hd _ hl _ _ =>
    cases hplace
    exact hwf.lt_size hd (WellFormed.mem_of_lookup hl)
  | follow hd _ _ _ _ _ _ ih =>
    refine ih (fun _ => ?_) hplace
    unfold routeStart
    split
    · exact hwf.root_lt_size
    · exact lt_size_of_node? (directory?_eq_some_iff.1 hd)

/-- Links are followed, so a path leads to none unless a link is asked for. -/
theorem Leads.link?_eq_none (hwf : fs.WellFormed) (hp : purpose ≠ .findLink) {i : Inode}
    (h : Leads fs purpose links here names (.node i))
    (hhere : names = [] → fs.link? here = none) : fs.link? i = none := by
  have hdirectory {j : Inode} {d : Directory} (hd : fs.directory? j = some d) :
      fs.link? j = none := by
    rw [link?, directory?_eq_some_iff.1 hd]
  generalize hplace : Place.node i = place at h
  induction h with
  | done =>
    cases hplace
    exact hhere rfl
  | stay hd _ _ ih => exact ih (fun _ => hdirectory hd) hplace
  | up hd _ ih =>
    obtain ⟨p, hparent⟩ := Option.isSome_iff_exists.1 (hwf.parent hd)
    exact ih (fun _ => hdirectory hparent) hplace
  | free => cases hplace
  | enter _ _ _ _ hi _ ih => exact ih (fun _ => hi) hplace
  | link _ _ _ _ hpurpose => exact absurd hpurpose hp
  | follow hd _ _ _ _ _ _ ih =>
    refine ih (fun _ => ?_) hplace
    unfold routeStart
    split
    · obtain ⟨r, hr, -⟩ := hwf.root
      exact hdirectory hr
    · exact hdirectory hd

/-! ## When the file system changes -/

/-- An entry of an old directory is found in it later. -/
theorem Frame.lookup {written created made : Inode → Prop}
    (h : Frame written created made before after) {d : Directory} {name : String} {j : Inode}
    (hd : before.directory? here = some d) (hl : d.entries.lookup name = some j) :
    ∃ e, after.directory? here = some e ∧ e.parent = d.parent ∧
      e.entries.lookup name = some j := by
  obtain ⟨more, hd', -⟩ := h.directory? hd
  exact ⟨_, hd', rfl, by simp [List.lookup_append, hl]⟩

/-- What leads to a node still does when the file system has grown. -/
theorem Leads.of_grows (hwf : before.WellFormed) (hg : Grows before after) {j : Inode}
    (h : Leads before purpose links here names (.node j)) :
    Leads after purpose links here names (.node j) := by
  generalize hp : Place.node j = place at h
  induction h with
  | done => cases hp; exact .done
  | stay hd hname _ ih =>
    obtain ⟨more, hd', -⟩ := hg.directory? hd
    exact .stay hd' hname (ih hp)
  | up hd _ ih =>
    obtain ⟨more, hd', -⟩ := hg.directory? hd
    exact .up hd' (ih hp)
  | free => cases hp
  | enter hd hn hc hl hi _ ih =>
    obtain ⟨e, he, -, hl'⟩ := hg.lookup hd hl
    have hlt := hwf.lt_size hd (WellFormed.mem_of_lookup hl)
    exact .enter he hn hc hl' ((hg.link? hlt).trans hi) (ih hp)
  | link hd hn hl hi hpurpose =>
    cases hp
    obtain ⟨e, he, -, hl'⟩ := hg.lookup hd hl
    have hlt := hwf.lt_size hd (WellFormed.mem_of_lookup hl)
    exact .link he hn hl' ((hg.link? hlt).trans hi) hpurpose
  | follow hd hn hc hl hi hlast _ ih =>
    obtain ⟨e, he, -, hl'⟩ := hg.lookup hd hl
    have hlt := hwf.lt_size hd (WellFormed.mem_of_lookup hl)
    exact .follow he hn hc hl' ((hg.link? hlt).trans hi) hlast (ih hp)

/-- Only directories and links show on the way of a path. -/
theorem walk_congr (hd : ∀ i, after.directory? i = before.directory? i)
    (hl : ∀ i, after.link? i = before.link? i) (purpose : Purpose) (links : Nat) (here : Inode)
    (names : List String) :
    after.walk purpose links here names = before.walk purpose links here names := by
  fun_induction before.walk purpose links here names with
  | case1 => rw [walk]
  | case2 links here name rest h => rw [walk, hd, h]
  | case3 links here name rest d h hname ih =>
    rw [walk, hd, h]
    simp only [hname, if_true, ih]
  | case4 links here rest d h hn ih =>
    rw [walk, hd, h]
    simp only [hn, if_true, if_false, ih]
  | case5 links here name rest d h hn hup hc =>
    rw [walk, hd, h]
    simp only [hn, hup, if_false]
    rw [if_pos hc]
  | case6 links here name rest d h hn hup hc hlen =>
    rw [walk, hd, h]
    simp only [hn, hup, hlen, if_true, if_false]
    rw [if_neg hc]
  | case7 links here name rest d h hn hup hc hlen hs hr =>
    rw [walk, hd, h]
    simp only [hn, hup, hlen, hs, hr, if_true, if_false]
    rw [if_neg hc]
  | case8 links here name rest d h hn hup hc hlen hs hr =>
    rw [walk, hd, h]
    simp only [hn, hup, hlen, hs, hr, if_false]
    rw [if_neg hc]
    rfl
  | case9 links here name rest d h hn hup hc hlen i hs hi ih =>
    rw [walk, hd, h]
    simp only [hn, hup, hlen, hs, hl, hi, if_false]
    rw [if_neg hc, ih]
  | case10 links here name rest d h hn hup hc hlen i hs target hi hlast =>
    rw [walk, hd, h]
    simp only [hn, hup, hlen, hs, hl, hi, if_false]
    rw [if_neg hc, if_pos hlast]
  | case11 here name rest d h hn hup hc hlen i hs target hi hlast =>
    rw [walk, hd, h]
    simp only [hn, hup, hlen, hs, hl, hi, if_false]
    rw [if_neg hc, if_neg hlast]
  | case12 here name rest d h hn hup hc hlen i hs target hi hlast links route start ih =>
    rw [walk, hd, h]
    simp only [hn, hup, hlen, hs, hl, hi, if_false]
    rw [if_neg hc, if_neg hlast]
    exact ih

/-! ## Purposes -/

/-- What is not asked for as a link is found. -/
theorem Leads.to_find (hp : purpose ≠ .findLink) (h : Leads fs purpose links here names place) :
    Leads fs .find links here names place := by
  induction h with
  | done => exact .done
  | stay hd hname _ ih => exact .stay hd hname ih
  | up hd _ ih => exact .up hd ih
  | free hd hn hl => exact .free hd hn hl
  | enter hd hn _ hl hi _ ih => exact .enter hd hn (by simp) hl hi ih
  | link _ _ _ _ hpurpose => exact absurd hpurpose hp
  | follow hd hn _ hl hi _ _ ih => exact .follow hd hn (by simp) hl hi (by simp) ih

/-- Where something is found, there is a node or a link to it. -/
theorem Leads.exists_findLink {j : Inode} (h : Leads fs .find links here names (.node j)) :
    ∃ i, Leads fs .findLink links here names (.node i) := by
  generalize hplace : Place.node j = place at h
  induction h with
  | done => exact ⟨_, .done⟩
  | stay hd hname _ ih => exact (ih hplace).imp fun _ h => .stay hd hname h
  | up hd _ ih => exact (ih hplace).imp fun _ h => .up hd h
  | free => cases hplace
  | enter hd hn _ hl hi _ ih => exact (ih hplace).imp fun _ h => .enter hd hn (by simp) hl hi h
  | link _ _ _ _ hpurpose => cases hpurpose
  | @follow links here i d name target rest place hd hn _ hl hi _ _ ih =>
    by_cases hrest : rest = []
    · subst hrest
      exact ⟨i, .link hd hn hl hi rfl⟩
    · exact (ih hplace).imp fun _ h => .follow hd hn (by simp) hl hi (fun h => hrest h.1) h

/-- A node that is no link is found. -/
theorem Leads.find_of_findLink {j : Inode} (h : Leads fs .findLink links here names (.node j))
    (hj : fs.link? j = none) : Leads fs .find links here names (.node j) := by
  generalize hplace : Place.node j = place at h
  induction h with
  | done => cases hplace; exact .done
  | stay hd hname _ ih => exact .stay hd hname (ih hplace)
  | up hd _ ih => exact .up hd (ih hplace)
  | free => cases hplace
  | enter hd hn _ hl hi _ ih => exact .enter hd hn (by simp) hl hi (ih hplace)
  | link _ _ _ hi _ =>
    cases hplace
    rw [hj] at hi
    cases hi
  | follow hd hn _ hl hi _ _ ih => exact .follow hd hn (by simp) hl hi (by simp) (ih hplace)

/-! ## Free places -/

/-- A free place is a name that a directory lacks. -/
theorem Leads.of_free {i : Inode} {name : String} (hwf : fs.WellFormed)
    (h : Leads fs purpose links here names (.free i name))
    (hnames : ∀ x ∈ names, '/' ∉ x.toList ∧ '\x00' ∉ x.toList) :
    ∃ d, fs.directory? i = some d ∧ d.entries.lookup name = none ∧ IsEntryName name := by
  generalize hplace : Place.free i name = place at h
  induction h with
  | done => cases hplace
  | stay _ _ _ ih => exact ih (fun x hx => hnames x (List.mem_cons_of_mem _ hx)) hplace
  | up _ _ ih => exact ih (fun x hx => hnames x (List.mem_cons_of_mem _ hx)) hplace
  | free hd hn hl =>
    cases hplace
    obtain ⟨hslash, hnul⟩ := hnames _ List.mem_cons_self
    exact ⟨_, hd, hl, hn.ne_empty, hn.ne_dot, hn.ne_up, hslash, hnul, hn.length_le⟩
  | enter _ _ _ _ _ _ ih => exact ih (fun x hx => hnames x (List.mem_cons_of_mem _ hx)) hplace
  | link => cases hplace
  | follow _ _ _ _ ht _ _ ih =>
    refine ih (fun x hx => ?_) hplace
    rcases List.mem_append.1 hx with hx | hx
    · obtain ⟨hslash, hsub⟩ := Route.of_mem hx
      exact ⟨hslash, fun hnul => hwf.no_nul ht (hsub hnul)⟩
    · exact hnames x (List.mem_cons_of_mem _ hx)

/-- What leads to a free place leads to the node that is added there. -/
theorem Leads.add {i : Inode} {d : Directory} {name : String} {n : Node} (hwf : fs.WellFormed)
    (hd : fs.directory? i = some d) (hr : d.removed = false) (hn : IsFresh i n)
    (h : Leads fs purpose links here names (.free i name)) :
    Leads (fs.add i name n) purpose links here names (.node fs.nodes.size) := by
  have hg : Grows fs (fs.add i name n) := by
    refine .add hwf hd hr hn ?_
    cases hn with
    | file f => exact .inl ⟨f, rfl, trivial⟩
    | directory => exact .inr ⟨rfl, trivial⟩
  generalize hplace : Place.free i name = place at h
  induction h with
  | done => cases hplace
  | stay hd hname _ ih =>
    obtain ⟨more, hd', -⟩ := hg.directory? hd
    exact .stay hd' hname (ih hplace)
  | up hd _ ih =>
    obtain ⟨more, hd', -⟩ := hg.directory? hd
    exact .up hd' (ih hplace)
  | free he hplain hl =>
    cases hplace
    rw [hd] at he
    cases he
    refine .enter (directory?_eq_some_iff.2 (node?_add_directory name n hd)) hplain (by simp) ?_
      (hg.link?_eq_none (Nat.le_refl _)) .done
    simp [List.lookup_append, hl]
  | enter he hplain hc hl hi _ ih =>
    obtain ⟨e, he', -, hl'⟩ := hg.lookup he hl
    have hlt := hwf.lt_size he (WellFormed.mem_of_lookup hl)
    exact .enter he' hplain hc hl' ((hg.link? hlt).trans hi) (ih hplace)
  | link => cases hplace
  | follow he hplain hc hl hi hlast _ ih =>
    obtain ⟨e, he', -, hl'⟩ := hg.lookup he hl
    have hlt := hwf.lt_size he (WellFormed.mem_of_lookup hl)
    exact .follow he' hplain hc hl' ((hg.link? hlt).trans hi) hlast (ih hplace)

end

/-! ## Paths -/

section

variable {fs before after : FileSystem} {written : Inode → Prop} {cwd i : Inode} {path : String}
  {purpose : Purpose} {place : Place}

/-- Whether the system looks at a path at all. -/
structure IsAdmissible (path : String) : Prop where
  no_nul : '\x00' ∉ path.toList
  ne_empty : path ≠ ""
  length_lt : path.utf8ByteSize < pathLimit

theorem locate_eq_ok_iff : fs.locate cwd path purpose = .ok place ↔
    IsAdmissible path ∧
      Leads fs purpose mostLinks (routeStart cwd path) (Route.ofString path).names place := by
  rw [← walk_eq_ok_iff, routeStart, locate]
  constructor
  · intro h
    split at h
    · cases h
    next hnul =>
    split at h
    · cases h
    next hempty =>
    split at h
    · cases h
    next hlength =>
    refine ⟨⟨by simpa using hnul, by simpa using hempty, Nat.not_le.1 hlength⟩, ?_⟩
    cases hw : fs.walk purpose mostLinks
      (if (Route.ofString path).absolute then root else cwd) (Route.ofString path).names with
    | error e => simp [hw, Except.mapError] at h
    | ok p => simpa [hw, Except.mapError] using h
  · rintro ⟨hp, hw⟩
    simp [hp.no_nul, hp.ne_empty, Nat.not_le.2 hp.length_lt, hw, Except.mapError]

theorem find_eq_ok_iff : fs.find cwd path = .ok i ↔ fs.locate cwd path .find = .ok (.node i) := by
  rw [find]
  cases fs.locate cwd path .find with
  | error r => simp [bind, Except.bind]
  | ok p => cases p <;> simp [bind, Except.bind, Place.inode]

theorem lt_size_of_locate (hwf : fs.WellFormed)
    (h : fs.locate cwd path purpose = .ok (.node i)) : i < fs.nodes.size := by
  obtain ⟨hp, hw⟩ := locate_eq_ok_iff.1 h
  refine hw.lt_size hwf fun hn => ?_
  cases ha : (Route.ofString path).absolute with
  | false => exact absurd hn (Route.names_ne_nil hp.ne_empty ha)
  | true =>
    rw [routeStart, ha]
    exact hwf.root_lt_size

theorem link?_of_locate (hwf : fs.WellFormed) (hpurpose : purpose ≠ .findLink)
    (h : fs.locate cwd path purpose = .ok (.node i)) : fs.link? i = none := by
  obtain ⟨hp, hw⟩ := locate_eq_ok_iff.1 h
  refine hw.link?_eq_none hwf hpurpose fun hn => ?_
  cases ha : (Route.ofString path).absolute with
  | false => exact absurd hn (Route.names_ne_nil hp.ne_empty ha)
  | true =>
    obtain ⟨r, hr, -⟩ := hwf.root
    rw [routeStart, ha, link?, if_pos rfl, directory?_eq_some_iff.1 hr]

theorem lt_size_of_find (hwf : fs.WellFormed) (h : fs.find cwd path = .ok i) :
    i < fs.nodes.size :=
  lt_size_of_locate hwf (find_eq_ok_iff.1 h)

theorem look_eq_some_iff : fs.look cwd path = .ok (some i) ↔ fs.find cwd path = .ok i := by
  rw [look]
  split
  · next j h => simp [h]
  · next h => simp [h]
  · next e h =>
    rw [h]
    split <;> simp

/-- By a single name there is nothing in an empty file system. -/
theorem look_empty (hpath : IsAdmissible path) (hname : IsPlain path)
    (hroute : (Route.ofString path).names = [path]) : empty.look root path = .ok none := by
  have hfree : empty.locate root path .find = .ok (.free root path) := by
    refine locate_eq_ok_iff.2 ⟨hpath, ?_⟩
    rw [hroute, routeStart, ite_self]
    exact .free rfl hname rfl
  simp [look, find, hfree, Place.inode, bind, Except.bind, Errno.meansAbsent]

/-- A path that leads somewhere still leads there when the file system has grown. -/
theorem locate_of_grows (hwf : before.WellFormed) (hg : Grows before after)
    (h : before.locate cwd path purpose = .ok (.node i)) :
    after.locate cwd path purpose = .ok (.node i) := by
  obtain ⟨hp, hw⟩ := locate_eq_ok_iff.1 h
  exact locate_eq_ok_iff.2 ⟨hp, hw.of_grows hwf hg⟩

theorem find_of_grows (hwf : before.WellFormed) (hg : Grows before after)
    (h : before.find cwd path = .ok i) : after.find cwd path = .ok i :=
  find_eq_ok_iff.2 (locate_of_grows hwf hg (find_eq_ok_iff.1 h))

/-- What is there to be written is found. -/
theorem find_of_locate (h : fs.locate cwd path .create = .ok (.node i)) :
    fs.find cwd path = .ok i := by
  obtain ⟨hp, hw⟩ := locate_eq_ok_iff.1 h
  exact find_eq_ok_iff.2 (locate_eq_ok_iff.2 ⟨hp, hw.to_find (by simp)⟩)

theorem hasDirectory_eq_true_iff : fs.hasDirectory cwd path = true ↔
    ∃ i, fs.find cwd path = .ok i ∧ (fs.directory? i).isSome := by
  rw [hasDirectory]
  cases fs.find cwd path <;> simp

/-- What is found keeps being a directory, or being none. -/
theorem hasDirectory_of_grows (hwf : before.WellFormed) (hg : Grows before after)
    (h : before.find cwd path = .ok i) :
    after.hasDirectory cwd path = before.hasDirectory cwd path := by
  rw [hasDirectory, hasDirectory, h, find_of_grows hwf hg h]
  exact hg.isSome_directory? (lt_size_of_find hwf h)

/-- At a free place a node can be added, and the path leads to it. -/
theorem of_locate_free {name : String} (hwf : fs.WellFormed)
    (h : fs.locate cwd path purpose = .ok (.free i name))
    (hr : (fs.directory? i).any Directory.removed = false) :
    ∃ d, fs.directory? i = some d ∧ d.removed = false ∧ d.entries.lookup name = none ∧
      IsEntryName name ∧ ∀ n, IsFresh i n →
        (fs.add i name n).locate cwd path purpose = .ok (.node fs.nodes.size) := by
  obtain ⟨hp, hw⟩ := locate_eq_ok_iff.1 h
  obtain ⟨d, hd, hl, hname⟩ := hw.of_free hwf fun x hx =>
    ⟨(Route.of_mem hx).1, fun hnul => hp.no_nul ((Route.of_mem hx).2 hnul)⟩
  have hrd : d.removed = false := by simpa [hd] using hr
  exact ⟨d, hd, hrd, hl, hname, fun n hn => locate_eq_ok_iff.2 ⟨hp, hw.add hwf hd hrd hn⟩⟩

/-! ## Paths and files that are written -/

theorem Rewritten.locate (h : Rewritten written before after) (cwd : Inode) (path : String)
    (purpose : Purpose) : after.locate cwd path purpose = before.locate cwd path purpose := by
  simp only [FileSystem.locate, walk_congr h.directory? h.link?]

theorem Rewritten.find (h : Rewritten written before after) (cwd : Inode) (path : String) :
    after.find cwd path = before.find cwd path := by
  rw [FileSystem.find, FileSystem.find, h.locate]

theorem Rewritten.findLink (h : Rewritten written before after) (cwd : Inode) (path : String) :
    after.findLink cwd path = before.findLink cwd path := by
  rw [FileSystem.findLink, FileSystem.findLink, h.locate]

theorem Rewritten.look (h : Rewritten written before after) (cwd : Inode) (path : String) :
    after.look cwd path = before.look cwd path := by
  rw [FileSystem.look, FileSystem.look, h.find]

theorem Rewritten.hasDirectory (h : Rewritten written before after) (cwd : Inode)
    (path : String) : after.hasDirectory cwd path = before.hasDirectory cwd path := by
  simp only [FileSystem.hasDirectory, h.find, h.directory?]

end

end FileSystem

end DeviceLauncher
