import DeviceLauncher.Proofs.FileSystem.Above
import DeviceLauncher.Proofs.FileSystem.Canonical

/-!
# Canonical paths when the file system grows

No link is new in a file system that has grown, but names that were free may lead to old links
now, through `..`. A canonical path does not go such ways: what it has reached is `Settled`, with
`..` in front only and no link among the paths to it. So the same links are met as before
(`expand_of_grows`), and the canonical path is the same (`canonical_of_grows`).
-/

namespace DeviceLauncher.FileSystem

variable {fs before after : FileSystem} {cwd here i j : Inode} {p q : Path} {n : Name}

/-- Whether a path has `..` in front only, and below that all paths on its way have been looked at
and are no links. -/
inductive Settled (fs : FileSystem) (cwd : Inode) : Path → Prop where
  | start (a : Anchor) : Settled fs cwd ⟨a, []⟩
  | up {p : Path} : Settled fs cwd p → (∀ n ∈ p.names, n = Name.up) →
      Settled fs cwd (p.child Name.up)
  | child {p : Path} {n : Name} : Settled fs cwd p → n ≠ Name.up →
      fs.linkAt cwd (p.child n) = .ok none → Settled fs cwd (p.child n)

/-! ## Where links are met -/

theorem locate_eq_nul_iff {path : String} {purpose : Purpose} :
    fs.locate cwd path purpose = .error .nul ↔ '\x00' ∈ path.toList := by
  unfold locate
  split
  · next h => simpa using h
  next h =>
  have hnul : '\x00' ∉ path.toList := by simpa using h
  split
  · simp [hnul]
  · split
    · simp [hnul]
    · cases hwalk : fs.walk purpose mostLinks
        (if (Route.ofString path).absolute then root else cwd) (Route.ofString path).names <;>
        simp [hwalk, hnul, Except.mapError]

theorem linkAt_eq_some_iff {target : String} : fs.linkAt cwd p = .ok (some target) ↔
    ∃ l, fs.findLink cwd p.toString = .ok l ∧ fs.link? l = some target := by
  unfold linkAt
  split <;> simp_all

theorem findLink_eq_ok_iff {path : String} : fs.findLink cwd path = .ok i ↔
    fs.locate cwd path .findLink = .ok (.node i) := by
  rw [findLink]
  cases fs.locate cwd path .findLink with
  | error r => simp [bind, Except.bind]
  | ok place => cases place <;> simp [bind, Except.bind, Place.inode]

/-- A path holds NUL or it does not, whatever the file system. -/
theorem linkAt_eq_error {e : Unresolved} (h : fs.linkAt cwd p = .error e) (fs' : FileSystem) :
    fs'.linkAt cwd p = .error e := by
  have hnul : e = .nul ∧ fs.findLink cwd p.toString = .error .nul := by
    unfold linkAt at h
    split at h <;> simp_all
  obtain ⟨rfl, hfind⟩ := hnul
  have hlocate (fs : FileSystem) : fs.findLink cwd p.toString = .error .nul ↔
      fs.locate cwd p.toString .findLink = .error .nul := by
    rw [findLink]
    cases fs.locate cwd p.toString .findLink with
    | error r => simp [bind, Except.bind]
    | ok place => cases place <;> simp [bind, Except.bind, Place.inode]
  rw [hlocate, locate_eq_nul_iff] at hfind
  rw [linkAt, (hlocate fs').2 (locate_eq_nul_iff.2 hfind)]

/-- The names of a settled path are no links to the system either. -/
theorem Settled.denotes_of_leads (hwf : fs.WellFormed) {links : Nat} (h : Settled fs cwd p)
    (hlength : p.toString.utf8ByteSize < pathLimit)
    (hleads : Leads fs .find links (startOf cwd p) (p.names.map Name.text) (.node i)) :
    Denotes fs cwd p i := by
  induction h generalizing i links with
  | start a =>
    cases hleads
    rfl
  | @up p _ _ ih =>
    rw [Path.child, List.map_append] at hleads
    obtain ⟨k, links', hfirst, hlast⟩ := hleads.of_append (by simp)
    have hk := ih (Nat.lt_of_le_of_lt (utf8ByteSize_toString_le p _) hlength) hfirst
    rcases hlast.of_single (by decide) (by decide) with ⟨-, d, hd, rfl⟩ | ⟨hup, -⟩
    · exact hk.child (next?_up hd)
    · exact absurd rfl hup
  | @child p n _ hn hlink ih =>
    rw [Path.child, List.map_append] at hleads
    obtain ⟨k, links', hfirst, hlast⟩ := hleads.of_append (by simp)
    have hk := ih (Nat.lt_of_le_of_lt (utf8ByteSize_toString_le p _) hlength) hfirst
    rcases hlast.of_single n.ne_empty n.ne_dot with ⟨hup, -⟩ | ⟨-, d, l, hd, hl, hend⟩
    · exact absurd (Name.eq_up hup) hn
    · have hnone : fs.link? l = none := by
        simpa [hk.linkAt_child hwf hd hl hlength] using hlink
      rcases hend with ⟨rfl, -⟩ | ⟨-, hsome⟩
      · exact hk.child ((next?_eq_some_iff hn).2 ⟨d, hd, hl, hnone⟩)
      · rw [hnone] at hsome
        cases hsome

theorem Settled.exists_of_linkAt (hwf : fs.WellFormed) {target : String} (h : Settled fs cwd p)
    (hn : n ≠ Name.up) (hlink : fs.linkAt cwd (p.child n) = .ok (some target)) :
    (p.child n).toString.utf8ByteSize < pathLimit ∧
      ∃ k d l, Denotes fs cwd p k ∧ fs.directory? k = some d ∧
        d.entries.lookup n.text = some l ∧ fs.link? l = some target := by
  obtain ⟨l, hl, ht⟩ := linkAt_eq_some_iff.1 hlink
  obtain ⟨hp, hleads⟩ := locate_eq_ok_iff.1 (findLink_eq_ok_iff.1 hl)
  refine ⟨hp.length_lt, ?_⟩
  rw [routeStart_toString, names_route_toString (child_ne_here p n), Path.child,
    List.map_append] at hleads
  obtain ⟨k, links', hfirst, hlast⟩ := hleads.of_append (by simp)
  have hk := h.denotes_of_leads hwf
    (Nat.lt_of_le_of_lt (utf8ByteSize_toString_le p n) hp.length_lt) hfirst
  rcases hlast.of_single n.ne_empty n.ne_dot with ⟨hup, -⟩ | ⟨-, d, l', hd, hl', hend⟩
  · exact absurd (Name.eq_up hup) hn
  · rcases hend with ⟨rfl, -⟩ | ⟨hpurpose, -⟩
    · exact ⟨k, d, l', hk, hd, hl', ht⟩
    · exact absurd rfl hpurpose

/-! ## When the file system grows -/

theorem lt_size_of_next? (hwf : fs.WellFormed) (h : fs.next? here n = some i) :
    i < fs.nodes.size := by
  by_cases hn : n = Name.up
  · subst hn
    obtain ⟨d, hd, rfl⟩ := next?_up_eq_some_iff.1 h
    obtain ⟨e, he⟩ := Option.isSome_iff_exists.1 (hwf.parent hd)
    exact lt_size_of_node? (directory?_eq_some_iff.1 he)
  · obtain ⟨d, hd, hl, -⟩ := (next?_eq_some_iff hn).1 h
    exact hwf.lt_size hd (WellFormed.mem_of_lookup hl)

theorem Denotes.lt_size (hwf : fs.WellFormed) (hcwd : cwd < fs.nodes.size)
    (h : Denotes fs cwd p i) : i < fs.nodes.size := by
  by_cases hlast : p.names = []
  · have hi : startOf cwd p = i := by simpa [Denotes, hlast] using h
    rw [← hi, startOf]
    split
    · exact hcwd
    · exact hwf.root_lt_size
  · rw [← child_of_getLast? (List.getLast?_eq_some_getLast hlast)] at h
    obtain ⟨j, -, hj⟩ := denotes_child_iff.1 h
    exact lt_size_of_next? hwf hj

theorem exists_directory?_of_grows (hg : Grows before after) {d : Directory}
    (hi : i < before.nodes.size) (hd : after.directory? i = some d) :
    ∃ e, before.directory? i = some e ∧ d.parent = e.parent := by
  cases he : before.directory? i with
  | none =>
    rw [hg.directory?_eq_none hi he] at hd
    cases hd
  | some e =>
    obtain ⟨more, hd', -⟩ := hg.directory? he
    rw [hd] at hd'
    cases hd'
    exact ⟨e, rfl, rfl⟩

/-- A name in an old directory is new, or leads where it led. -/
theorem lookup_of_grows (hwf : before.WellFormed) (hg : Grows before after) {d : Directory}
    {name : String} (hd : after.directory? here = some d) (hl : d.entries.lookup name = some i) :
    before.nodes.size ≤ i ∨
      ∃ e, before.directory? here = some e ∧ e.entries.lookup name = some i := by
  rcases hg.mem_entries hd (WellFormed.mem_of_lookup hl) with hnew | ⟨e, he, hmem⟩
  · exact .inl hnew.1
  · exact .inr ⟨e, he, hwf.lookup_of_mem he hmem⟩

/-- What a settled path denotes it has denoted before, or it is new. -/
theorem Settled.denotes_of_grows (hwf : before.WellFormed) (hg : Grows before after)
    (hcwd : cwd < before.nodes.size) (h : Settled before cwd p) (hi : Denotes after cwd p i) :
    Denotes before cwd p i ∨ before.nodes.size ≤ i ∧ ∃ n ∈ p.names, n ≠ Name.up := by
  induction h generalizing i with
  | start a => exact .inl hi
  | @up p _ hall ih =>
    obtain ⟨j, hj, hnext⟩ := denotes_child_iff.1 hi
    rcases ih hj with hj | ⟨-, n, hn, hup⟩
    · obtain ⟨d, hd, rfl⟩ := next?_up_eq_some_iff.1 hnext
      obtain ⟨e, he, hparent⟩ := exists_directory?_of_grows hg (hj.lt_size hwf hcwd) hd
      rw [hparent]
      exact .inl (hj.child (next?_up he))
    · exact absurd (hall n hn) hup
  | @child p n _ hn _ ih =>
    have hmem : n ∈ (p.child n).names := List.mem_append_right _ List.mem_cons_self
    obtain ⟨j, hj, hnext⟩ := denotes_child_iff.1 hi
    obtain ⟨d, hd, hl, hlink⟩ := (next?_eq_some_iff hn).1 hnext
    rcases lookup_of_grows hwf hg hd hl with hnew | ⟨e, he, hl'⟩
    · exact .inr ⟨hnew, n, hmem, hn⟩
    · rcases ih hj with hj | ⟨hnew, -⟩
      · have hlt := hwf.lt_size he (WellFormed.mem_of_lookup hl')
        rw [hg.link? hlt] at hlink
        exact .inl (hj.child ((next?_eq_some_iff hn).2 ⟨e, he, hl', hlink⟩))
      · exact absurd (lt_size_of_node? (directory?_eq_some_iff.1 he)) (Nat.not_lt.2 hnew)

/-- A link is met below a settled path if one has been met there before. -/
theorem linkAt_child_of_grows (hwf : before.WellFormed) (hwf' : after.WellFormed)
    (hg : Grows before after) (hcwd : cwd < before.nodes.size) (h : Settled before cwd p)
    (h' : Settled after cwd p) (hn : n ≠ Name.up) :
    after.linkAt cwd (p.child n) = before.linkAt cwd (p.child n) := by
  cases hbefore : before.linkAt cwd (p.child n) with
  | error e => exact linkAt_eq_error hbefore after
  | ok found =>
    cases found with
    | some target =>
      obtain ⟨l, hl, ht⟩ := linkAt_eq_some_iff.1 hbefore
      have hlocate := findLink_eq_ok_iff.1 hl
      have hlt := lt_size_of_locate hwf hlocate
      exact linkAt_eq_some_iff.2
        ⟨l, findLink_eq_ok_iff.2 (locate_of_grows hwf hg hlocate), (hg.link? hlt).trans ht⟩
    | none =>
      cases hafter : after.linkAt cwd (p.child n) with
      | error e =>
        rw [linkAt_eq_error hafter before] at hbefore
        cases hbefore
      | ok found =>
        cases found with
        | none => rfl
        | some target =>
          obtain ⟨hlength, k, d, l, hk, hd, hl, ht⟩ := h'.exists_of_linkAt hwf' hn hafter
          rcases lookup_of_grows hwf hg hd hl with hnew | ⟨e, he, hl'⟩
          · rw [hg.link?_eq_none hnew] at ht
            cases ht
          · have hlt := hwf.lt_size he (WellFormed.mem_of_lookup hl')
            rw [hg.link? hlt] at ht
            rcases h.denotes_of_grows hwf hg hcwd hk with hk | ⟨hnew, -⟩
            · rw [hk.linkAt_child hwf he hl' hlength, ht] at hbefore
              cases hbefore
            · exact absurd (lt_size_of_node? (directory?_eq_some_iff.1 he)) (Nat.not_lt.2 hnew)

theorem Settled.of_grows (hwf : before.WellFormed) (hwf' : after.WellFormed)
    (hg : Grows before after) (hcwd : cwd < before.nodes.size) (h : Settled before cwd p) :
    Settled after cwd p := by
  induction h with
  | start a => exact .start a
  | up _ hall ih => exact .up ih hall
  | child hp hn hlink ih =>
    exact .child ih hn ((linkAt_child_of_grows hwf hwf' hg hcwd hp ih hn).trans hlink)

/-! ## Rounds -/

theorem upFrom_child (p : Path) (n : Name) :
    (p.child n).upFrom = if n = Name.up then (p.child n).child Name.up else p := by
  simp [Path.upFrom, Path.child, Path.parent]

theorem Settled.upFrom (h : Settled fs cwd p) : Settled fs cwd p.upFrom := by
  cases h with
  | start a =>
    cases a with
    | relative => exact .up (.start .relative) (by simp)
    | root | doubleRoot => exact .start _
  | @up p hp hall =>
    rw [upFrom_child, if_pos rfl]
    refine .up (.up hp hall) fun n hn => ?_
    rcases List.mem_append.1 hn with hn | hn
    · exact hall n hn
    · exact List.mem_singleton.1 hn
  | child hp hn _ =>
    rw [upFrom_child, if_neg hn]
    exact hp

/-- Whether all that a path has come by on its way is settled. -/
structure Settles (fs : FileSystem) (cwd : Inode) (t : Tracing) : Prop where
  here : t.outer ≠ [] → Settled fs cwd t.here
  known {p q : Path} : t.seen.lookup p = some (some q) → Settled fs cwd q

theorem Settles.start (fs : FileSystem) (cwd : Inode) (p : Path) :
    Settles fs cwd (.start p) := by
  refine ⟨fun _ => ?_, fun {x y} hx => ?_⟩
  · unfold Tracing.start
    simp only
    split <;> exact .start _
  · simp [Tracing.start] at hx

theorem Settles.meet {t t' : Tracing} {rest : List Expansion} (h : Settles fs cwd t)
    (houter : t.outer ≠ []) (hn : n ≠ Name.up) (ht : fs.meet cwd t n rest = .ok t') :
    Settles fs cwd t' := by
  unfold FileSystem.meet at ht
  simp only at ht
  split at ht
  · cases ht
  · next hlink =>
    cases ht
    exact ⟨fun _ => .child (h.here houter) hn hlink, h.known⟩
  · split at ht
    · next hseen =>
      cases ht
      exact ⟨fun _ => h.known hseen, h.known⟩
    · cases ht
      exact ⟨fun hnil => absurd rfl hnil, h.known⟩
    · cases ht
      refine ⟨fun _ => ?_, fun {x y} hx => ?_⟩
      · simp only
        split
        · exact .start .root
        · exact h.here houter
      · rw [List.lookup_cons] at hx
        split at hx
        · cases hx
        · exact h.known hx

theorem Settles.advance {t t' : Tracing} (h : Settles fs cwd t)
    (ht : fs.advance cwd t = .ok t') : Settles fs cwd t' := by
  unfold FileSystem.advance at ht
  split at ht
  · cases ht
    exact h
  · next houter =>
    cases ht
    exact ⟨fun _ => h.here (by simp [houter]), h.known⟩
  · next houter =>
    cases ht
    refine ⟨fun _ => h.here (by simp [houter]), fun {x y} hx => ?_⟩
    rw [List.lookup_cons] at hx
    split at hx
    · cases hx
      exact h.here (by simp [houter])
    · exact h.known hx
  · next houter =>
    split at ht
    · cases ht
      exact ⟨fun _ => h.here (by simp [houter]), h.known⟩
    · split at ht
      · cases ht
        exact ⟨fun _ => (h.here (by simp [houter])).upFrom, h.known⟩
      · next hn => exact h.meet (by simp [houter]) hn ht

section

variable (hwf : before.WellFormed) (hwf' : after.WellFormed) (hg : Grows before after)
  (hcwd : cwd < before.nodes.size)

include hwf hwf' hg hcwd

theorem advance_of_grows {t : Tracing} (h : Settles before cwd t) :
    after.advance cwd t = before.advance cwd t := by
  unfold FileSystem.advance
  split
  · rfl
  · rfl
  · rfl
  · next houter =>
    split
    · rfl
    · split
      · rfl
      · next hn =>
        have hhere := h.here (by simp [houter])
        have hlink := linkAt_child_of_grows hwf hwf' hg hcwd hhere
          (hhere.of_grows hwf hwf' hg hcwd) hn
        simp only [meet, hlink]

theorem expand_of_grows {t : Tracing} (fuel : Nat) (h : Settles before cwd t) :
    after.expand cwd fuel t = before.expand cwd fuel t := by
  induction fuel generalizing t with
  | zero => rfl
  | succ fuel ih =>
    simp only [FileSystem.expand, advance_of_grows hwf hwf' hg hcwd h]
    cases hadvance : before.advance cwd t with
    | error e => rfl
    | ok t' => simp only [ih (h.advance hadvance)]

end

/-! ## Canonical paths -/

theorem linkTargets_of_grows (hg : Grows before after) :
    after.linkTargets = before.linkTargets := by
  have hold : (List.range before.nodes.size).filterMap after.link? = before.linkTargets :=
    List.filterMap_congr fun i hi => hg.link? (List.mem_range.1 hi)
  obtain ⟨more, hsize⟩ := Nat.exists_eq_add_of_le hg.size_le
  have hnew : (((List.range more).map (before.nodes.size + ·)).filterMap after.link?) = [] := by
    refine List.filterMap_eq_nil_iff.2 fun i hi => ?_
    obtain ⟨k, -, rfl⟩ := List.mem_map.1 hi
    exact hg.link?_eq_none (Nat.le_add_right _ k)
  rw [linkTargets, hsize, List.range_add, List.filterMap_append, hold, hnew, List.append_nil]

theorem expandFuel_of_grows (hg : Grows before after) (p : Path) :
    after.expandFuel p = before.expandFuel p := by
  simp only [expandFuel, linkTargets_of_grows hg]

theorem namesTo_of_grows (hg : Grows before after) {fuel fuel' : Nat} {below names : List String}
    (hfuel : fuel ≤ fuel') (h : before.namesTo fuel i below = some names) :
    after.namesTo fuel' i below = some names := by
  induction fuel generalizing fuel' i below with
  | zero => cases h
  | succ fuel ih =>
    obtain ⟨fuel', rfl⟩ := Nat.exists_eq_add_of_le' (Nat.lt_of_lt_of_le (Nat.succ_pos _) hfuel)
    by_cases hi : i = root
    · subst hi
      simpa [namesTo] using h
    · obtain ⟨d, e, x, hd, hr, he, hx, habove⟩ := (namesTo_succ_eq_some_iff hi).1 h
      obtain ⟨more, hd', -⟩ := hg.directory? hd
      obtain ⟨more', he', -⟩ := hg.directory? he
      -- New names come after the old ones, so the first name of the directory is the same.
      have hx' : ({ e with entries := e.entries ++ more' } : Directory).nameOf? i = some x := by
        obtain ⟨entry, hentry, rfl⟩ := Option.map_eq_some_iff.1 hx
        simp [Directory.nameOf?, List.find?_append, hentry]
      exact (namesTo_succ_eq_some_iff hi).2
        ⟨_, _, x, hd', hr, he', hx', ih (Nat.le_of_succ_le_succ hfuel) habove⟩

theorem pathOf?_of_grows (hg : Grows before after) {text : String}
    (h : before.pathOf? i = some text) : after.pathOf? i = some text := by
  obtain ⟨names, hnames, rfl⟩ := Option.map_eq_some_iff.1 h
  have hfuel := Nat.succ_le_succ hg.size_le
  rw [pathOf?, namesTo_of_grows hg hfuel hnames]
  rfl

theorem absolute_of_grows (hg : Grows before after) (h : before.absolute cwd p = .ok q) :
    after.absolute cwd p = .ok q := by
  unfold absolute at h ⊢
  split
  · next ha =>
    rwa [if_pos ha] at h
  · next ha =>
    rw [if_neg ha] at h
    cases hpath : before.pathOf? cwd with
    | none =>
      rw [hpath] at h
      cases h
    | some text =>
      rw [hpath] at h
      rw [pathOf?_of_grows hg hpath]
      exact h

section

variable (hwf : before.WellFormed) (hwf' : after.WellFormed) (hg : Grows before after)
  (hcwd : cwd < before.nodes.size)

include hwf hwf' hg hcwd

/-- What is left of a canonical path to be asked is whether it goes through a loop of links. -/
theorem canonical_of_grows (h : before.canonical cwd p = .ok q) :
    after.canonical cwd p = .ok q ↔
      after.find cwd q.toString ≠ .error (.errno .linkLoop) := by
  obtain ⟨e, he, hq, -⟩ := canonical_eq_ok_iff.1 h
  have he' : after.expand cwd (after.expandFuel p) (.start p) = .ok e := by
    rw [expandFuel_of_grows hg, expand_of_grows hwf hwf' hg hcwd _ (.start before cwd p), he]
  have hq' := absolute_of_grows hg hq
  rw [canonical_eq_ok_iff]
  constructor
  · rintro ⟨e₁, he₁, -, hfind⟩
    exact hfind
  · exact fun hfind => ⟨e, he', hq', hfind⟩

/-- A path has no other canonical path when the file system has grown. -/
theorem canonical_unique_of_grows {q' : Path} (h : before.canonical cwd p = .ok q)
    (h' : after.canonical cwd p = .ok q') : q' = q := by
  obtain ⟨e, he, hq, -⟩ := canonical_eq_ok_iff.1 h
  obtain ⟨e', he', hq', -⟩ := canonical_eq_ok_iff.1 h'
  rw [expandFuel_of_grows hg, expand_of_grows hwf hwf' hg hcwd _ (.start before cwd p), he] at he'
  cases he'
  rw [absolute_of_grows hg hq] at hq'
  cases hq'
  rfl

end

end DeviceLauncher.FileSystem
