import DeviceLauncher.Proofs.FileSystem.Descend
import DeviceLauncher.Proofs.FileSystem.Stop

/-!
# What lies above a path

The way of a path goes over nodes (`Leads.of_append`, `Leads.concat`), and over directories until its
last name: a path that is followed at all lies in a directory, be there something at it or not
(`hasDirectory_above`). So the directory above a path decides whether something new can be written
at it (`lacksDirectory_of_not_above`, `lacksDirectory_child_iff`).
-/

namespace DeviceLauncher.FileSystem

variable {fs : FileSystem} {cwd here i : Inode} {p : Path} {n : Name} {purpose : Purpose}
  {links : Nat} {place : Place}

/-! ## Parts of a way -/

/-- The way of a path goes over a node at any point, links in front of it followed. -/
theorem Leads.of_append {first rest : List String}
    (h : Leads fs purpose links here (first ++ rest) place) (hrest : rest ≠ []) :
    ∃ k links', Leads fs .find links here first (.node k) ∧
      Leads fs purpose links' k rest place := by
  generalize hnames : first ++ rest = names at h
  induction h generalizing first with
  | done => exact absurd (List.append_eq_nil_iff.1 hnames).2 hrest
  | stay hd hname hleads ih =>
    cases first with
    | nil =>
      subst hnames
      exact ⟨_, _, .done, .stay hd hname hleads⟩
    | cons x first =>
      obtain ⟨rfl, htail⟩ := List.cons.inj hnames
      obtain ⟨k, links', hfirst, hlast⟩ := ih htail
      exact ⟨k, links', .stay hd hname hfirst, hlast⟩
  | up hd hleads ih =>
    cases first with
    | nil =>
      subst hnames
      exact ⟨_, _, .done, .up hd hleads⟩
    | cons x first =>
      obtain ⟨rfl, htail⟩ := List.cons.inj hnames
      obtain ⟨k, links', hfirst, hlast⟩ := ih htail
      exact ⟨k, links', .up hd hfirst, hlast⟩
  | @free links here _ _ hd hn hl =>
    cases first with
    | nil =>
      subst hnames
      exact ⟨here, links, .done, .free hd hn hl⟩
    | cons x first =>
      obtain ⟨-, htail⟩ := List.cons.inj hnames
      exact absurd (List.append_eq_nil_iff.1 htail).2 hrest
  | enter hd hn hc hl hi hleads ih =>
    cases first with
    | nil =>
      subst hnames
      exact ⟨_, _, .done, .enter hd hn hc hl hi hleads⟩
    | cons x first =>
      obtain ⟨rfl, htail⟩ := List.cons.inj hnames
      obtain ⟨k, links', hfirst, hlast⟩ := ih htail
      exact ⟨k, links', .enter hd hn (by simp) hl hi hfirst, hlast⟩
  | link hd hn hl hi hp =>
    cases first with
    | nil =>
      subst hnames
      exact ⟨_, 0, .done, .link hd hn hl hi hp⟩
    | cons x first =>
      obtain ⟨-, htail⟩ := List.cons.inj hnames
      exact absurd (List.append_eq_nil_iff.1 htail).2 hrest
  | follow hd hn hc hl hi hlast hleads ih =>
    cases first with
    | nil =>
      subst hnames
      exact ⟨_, _, .done, .follow hd hn hc hl hi hlast hleads⟩
    | cons x first =>
      obtain ⟨rfl, rfl⟩ := List.cons.inj hnames
      obtain ⟨k, links', hfirst, hlast⟩ := ih (List.append_assoc _ _ _)
      exact ⟨k, links', .follow hd hn (by simp) hl hi (by simp) hfirst, hlast⟩

/-- A way goes on by one name from the node to which it leads. -/
theorem Leads.concat {names : List String} {name : String} {k : Inode}
    (h : Leads fs .find links here names (.node k)) (hname : name ≠ "")
    (hlast : ∀ links', Leads fs purpose links' k [name] place) :
    Leads fs purpose links here (names ++ [name]) place := by
  have hno (rest : List String) : rest ++ [name] ≠ [""] := by
    cases rest <;> simp [hname]
  generalize hk : Place.node k = middle at h
  induction h with
  | done =>
    cases hk
    exact hlast _
  | stay hd hstay _ ih => exact .stay hd hstay (ih hk)
  | up hd _ ih => exact .up hd (ih hk)
  | free => cases hk
  | enter hd hn _ hl hi _ ih => exact .enter hd hn (fun hc => hno _ hc.2) hl hi (ih hk)
  | link _ _ _ _ hp => cases hp
  | follow hd hn _ hl hi _ _ ih =>
    refine .follow hd hn (fun hc => hno _ hc.2) hl hi (by simp) ?_
    have hleads := ih hk
    rwa [List.append_assoc] at hleads

/-- Names are followed from a directory. -/
theorem Leads.exists_directory? {name : String} {rest : List String}
    (h : Leads fs purpose links here (name :: rest) place) : ∃ d, fs.directory? here = some d := by
  cases h with
  | stay hd | up hd | free hd | enter hd | link hd | follow hd => exact ⟨_, hd⟩

/-- Where one name leads. -/
theorem Leads.of_single {name : String} (h : Leads fs purpose links here [name] (.node i))
    (hempty : name ≠ "") (hdot : name ≠ ".") :
    (name = ".." ∧ ∃ d, fs.directory? here = some d ∧ d.parent = i) ∨
      name ≠ ".." ∧ ∃ d l, fs.directory? here = some d ∧ d.entries.lookup name = some l ∧
        (l = i ∧ (fs.link? l = none ∨ purpose = .findLink) ∨
          purpose ≠ .findLink ∧ (fs.link? l).isSome) := by
  cases h with
  | stay _ hname => exact absurd hname (by simp [hempty, hdot])
  | up hd hrest =>
    cases hrest
    exact .inl ⟨rfl, _, hd, rfl⟩
  | enter hd hn _ hl hi hrest =>
    cases hrest
    exact .inr ⟨hn.ne_up, _, _, hd, hl, .inl ⟨rfl, .inl hi⟩⟩
  | link hd hn hl _ hp => exact .inr ⟨hn.ne_up, _, _, hd, hl, .inl ⟨rfl, .inr hp⟩⟩
  | follow hd hn _ hl ht hlast _ =>
    exact .inr ⟨hn.ne_up, _, _, hd, hl, .inr ⟨fun hp => hlast ⟨rfl, hp⟩, by simp [ht]⟩⟩

/-! ## Paths with a name after them -/

/-- A name that is added comes after the text of a path. -/
theorem exists_toString_child (h : p ≠ Path.here) (n : Name) :
    ∃ rest, (p.child n).toString = p.toString ++ rest := by
  obtain ⟨rest, hrest⟩ := exists_nameText_append p.names n
  exact ⟨rest, by
    rw [Path.toString_eq _ (child_ne_here p n), Path.toString_eq p h, Path.child, hrest,
      String.append_assoc]⟩

/-- A path is no shorter for a name after it. -/
theorem utf8ByteSize_toString_le (p : Path) (n : Name) :
    p.toString.utf8ByteSize ≤ (p.child n).toString.utf8ByteSize := by
  by_cases h : p = Path.here
  · subst h
    have hn : n.text.utf8ByteSize ≠ 0 := fun h => n.ne_empty (String.utf8ByteSize_eq_zero_iff.1 h)
    have hdot : (Path.here.toString).utf8ByteSize = 1 := rfl
    have hname : nameText (Path.here.names ++ [n]) = n.text := by simp [Path.here, nameText]
    rw [Path.toString_eq _ (child_ne_here _ n), Path.child, hname, hdot,
      String.utf8ByteSize_append]
    omega
  · obtain ⟨rest, hrest⟩ := exists_toString_child h n
    rw [hrest, String.utf8ByteSize_append]
    omega

theorem IsAdmissible.of_child (h : IsAdmissible (p.child n).toString) :
    IsAdmissible p.toString := by
  refine ⟨?_, p.toString_ne_empty, (utf8ByteSize_toString_le p n).trans_lt h.length_lt⟩
  by_cases hp : p = Path.here
  · subst hp
    decide
  · obtain ⟨rest, hrest⟩ := exists_toString_child hp n
    intro hnul
    refine h.no_nul ?_
    rw [hrest, String.toList_append]
    exact List.mem_append_left _ hnul

/-! ## Directories to write in -/

/-- A path that is followed to a place lies in a directory. -/
theorem hasDirectory_above (h : fs.locate cwd (p.child n).toString purpose = .ok place) :
    fs.hasDirectory cwd p.toString = true := by
  obtain ⟨hadmissible, hleads⟩ := locate_eq_ok_iff.1 h
  rw [routeStart_toString, names_route_toString (child_ne_here p n), startOf_child, Path.child,
    List.map_append] at hleads
  obtain ⟨k, links', hfirst, hlast⟩ := hleads.of_append (by simp)
  obtain ⟨d, hd⟩ := hlast.exists_directory?
  refine hasDirectory_eq_true_iff.2 ⟨k, ?_, by rw [hd]; rfl⟩
  refine find_eq_ok_iff.2 (locate_eq_ok_iff.2 ⟨hadmissible.of_child, ?_⟩)
  rw [routeStart_toString]
  by_cases hp : p = Path.here
  · subst hp
    cases hfirst
    exact .stay hd (.inr rfl) .done
  · rwa [names_route_toString hp]

/-- Where there is no directory above a name nothing can be written at it. -/
theorem lacksDirectory_of_not_above (h : fs.hasDirectory cwd p.toString = false) (n : Name) :
    fs.LacksDirectory cwd (p.child n).toString ∨ fs.IsRejected cwd (p.child n).toString := by
  cases hl : fs.locate cwd (p.child n).toString .create with
  | error r => exact lacksDirectory_or_isRejected_iff.2 (.inl ⟨r, locate_eq_error_iff.1 hl⟩)
  | ok place =>
    rw [hasDirectory_above hl] at h
    cases h

/-- A new name is free in the directory above it. -/
theorem locate_child_of_free {k : Inode} {d : Directory} (hp : IsAdmissible (p.child n).toString)
    (hn : IsPlain n.text) (hk : fs.find cwd p.toString = .ok k) (hd : fs.directory? k = some d)
    (hl : d.entries.lookup n.text = none) :
    fs.locate cwd (p.child n).toString purpose = .ok (.free k n.text) := by
  obtain ⟨-, habove⟩ := locate_eq_ok_iff.1 (find_eq_ok_iff.1 hk)
  have hlast (links' : Nat) : Leads fs purpose links' k [n.text] (.free k n.text) := .free hd hn hl
  refine locate_eq_ok_iff.2 ⟨hp, ?_⟩
  rw [routeStart_toString, startOf_child, names_route_toString (child_ne_here p n), Path.child,
    List.map_append]
  rw [routeStart_toString] at habove
  by_cases hhere : p = Path.here
  · subst hhere
    have hnames : (Route.ofString Path.here.toString).names = ["."] := by decide
    generalize hdot : "." = name at hnames
    rw [hnames] at habove
    cases habove with
    | stay _ _ hrest =>
      cases hrest
      exact hlast _
    | up => simp at hdot
    | enter _ hplain | link _ hplain | follow _ hplain => exact absurd hdot.symm hplain.ne_dot
  · rw [names_route_toString hhere] at habove
    exact habove.concat hn.ne_empty hlast

/-- A new name in a directory can be written at, unless the directory has been removed. -/
theorem lacksDirectory_child_iff {k : Inode} {d : Directory}
    (hp : IsAdmissible (p.child n).toString) (hn : IsPlain n.text)
    (hk : fs.find cwd p.toString = .ok k) (hd : fs.directory? k = some d)
    (hl : d.entries.lookup n.text = none) :
    fs.LacksDirectory cwd (p.child n).toString ↔ d.removed = true := by
  have hfree : fs.locate cwd (p.child n).toString .create = .ok (.free k n.text) :=
    locate_child_of_free hp hn hk hd hl
  have hno (r : Refusal) : ¬ Refuses fs cwd (p.child n).toString .create r := fun hr => by
    rw [locate_eq_error_iff.2 hr] at hfree
    cases hfree
  simp [LacksDirectory, hno, hfree, hd]

end DeviceLauncher.FileSystem
