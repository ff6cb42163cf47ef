import DeviceLauncher.Proofs.FileSystem.Canonical

/-!
# Canonical paths of one node

Two paths that lead to one node have the same canonical path if the node has one name only
(`canonical_eq_of_find`). A canonical path begins at the root, goes over no link and holds no `..`,
so that it is read off from the names of the node and of the directories above it
(`descend_injective`). A file may have several names, and then the path that was taken shows in the
canonical one; a directory has one name, in its parent (`IsTree`).
-/

namespace DeviceLauncher.FileSystem

variable {fs : FileSystem} {cwd here i : Inode} {p q e : Path} {rounds fuel : Nat}

/-! ## Names of nodes -/

/-- Whether a node has no two names. -/
def HasOneName (fs : FileSystem) (i : Inode) : Prop :=
  ∀ {j k : Inode} {d e : Directory} {x y : String}, fs.directory? j = some d → (x, i) ∈ d.entries →
    fs.directory? k = some e → (y, i) ∈ e.entries → j = k ∧ x = y

/-- Whether the directories form a tree: the root has no name, and no directory has two. -/
structure IsTree (fs : FileSystem) : Prop where
  root_unnamed {j : Inode} {d : Directory} {x : String} :
    fs.directory? j = some d → (x, root) ∉ d.entries
  hasOneName {i : Inode} {d : Directory} : fs.directory? i = some d → HasOneName fs i

/-- With one directory alone there is no more to ask than that it does not name itself. -/
theorem IsTree.of_root_alone (h : ∀ {j : Inode} {d : Directory}, fs.directory? j = some d →
    j = root ∧ ∀ e ∈ d.entries, e.2 ≠ root) : IsTree fs := by
  refine ⟨fun hd hx => (h hd).2 _ hx rfl, fun {i d} hi => ?_⟩
  obtain ⟨rfl, -⟩ := h hi
  intro j k d e x y hd hx
  exact absurd rfl ((h hd).2 _ hx)

/-- Where a path without `..` ends, its last directory has an entry. -/
theorem exists_entry_of_descend {names : List Name} {n : Name} (hup : Name.up ∉ names ++ [n])
    (h : fs.descend root (names ++ [n]) = some i) : Name.up ∉ names ∧
      ∃ k d, fs.descend root names = some k ∧ fs.directory? k = some d ∧
        (n.text, i) ∈ d.entries := by
  rw [List.mem_append, List.mem_singleton, not_or] at hup
  rw [descend_concat, Option.bind_eq_some_iff] at h
  obtain ⟨k, hk, hnext⟩ := h
  obtain ⟨d, hd, hl, -⟩ := (next?_eq_some_iff (Ne.symm hup.2)).1 hnext
  exact ⟨hup.1, k, d, hk, hd, WellFormed.mem_of_lookup hl⟩

/-- A node with one name is found from the root under the same names only, if none is `..`. -/
theorem descend_injective (ht : IsTree fs) {names others : List Name} (hone : HasOneName fs i)
    (hup : Name.up ∉ names) (hup' : Name.up ∉ others) (h : fs.descend root names = some i)
    (h' : fs.descend root others = some i) : names = others := by
  induction names using List.reverseRecOn generalizing i others with
  | nil =>
    obtain rfl : root = i := by simpa using h
    rcases List.eq_nil_or_concat' others with rfl | ⟨others, m, rfl⟩
    · rfl
    · obtain ⟨-, k, d, -, hd, hm⟩ := exists_entry_of_descend hup' h'
      exact absurd hm (ht.root_unnamed hd)
  | append_singleton names n ih =>
    obtain ⟨habove, k, d, hk, hd, hn⟩ := exists_entry_of_descend hup h
    rcases List.eq_nil_or_concat' others with rfl | ⟨others, m, rfl⟩
    · obtain rfl : root = i := by simpa using h'
      exact absurd hn (ht.root_unnamed hd)
    · obtain ⟨habove', k', d', hk', hd', hm⟩ := exists_entry_of_descend hup' h'
      obtain ⟨rfl, htext⟩ := hone hd hn hd' hm
      obtain rfl : n = m := by
        cases n
        cases m
        simpa using htext
      rw [ih (ht.hasOneName hd) habove habove' hk hk']

/-! ## Canonical paths begin at the root and hold no `..` -/

theorem up_not_mem_collapseOnto {anchor : Anchor} (ha : anchor ≠ .relative) {done : List Name}
    (hup : Name.up ∉ done) (rest : List Name) : Name.up ∉ Path.collapseOnto anchor done rest := by
  fun_induction Path.collapseOnto anchor done rest with
  | case1 done => simpa using hup
  | case2 done n rest hn ih => exact ih (by simp [hup, Ne.symm hn])
  | case3 n rest hn ih =>
    rw [if_neg ha] at ih ⊢
    exact ih hup
  | case4 => exact absurd List.mem_cons_self hup
  | case5 n rest hn last above hlast ih => exact ih fun hmem => hup (List.mem_cons_of_mem last hmem)

/-- Whether no path on the way begins with two slashes. -/
structure SingleSlash (t : Tracing) : Prop where
  here : t.here.anchor ≠ .doubleRoot
  known {p q : Path} : t.seen.lookup p = some (some q) → q.anchor ≠ .doubleRoot

theorem SingleSlash.start (p : Path) : SingleSlash (.start p) := by
  refine ⟨?_, fun {x y} hx => ?_⟩
  · unfold Tracing.start
    split <;> simp [Path.here]
  · simp [Tracing.start] at hx

theorem anchor_upFrom_eq (p : Path) : p.upFrom.anchor = p.anchor := by
  unfold Path.upFrom
  split
  · split <;> rfl
  · rfl
  · rfl

theorem SingleSlash.meet {t t' : Tracing} {n : Name} {rest : List Expansion} (h : SingleSlash t)
    (hloop : ∀ target, fs.linkAt cwd (t.here.child n) = .ok (some target) →
      t.seen.lookup (t.here.child n) ≠ some none)
    (ht : fs.meet cwd t n rest = .ok t') : SingleSlash t' := by
  unfold FileSystem.meet at ht
  simp only at ht
  split at ht
  · cases ht
  · cases ht
    exact ⟨h.here, h.known⟩
  · next target hlink =>
    split at ht
    · next hseen =>
      cases ht
      exact ⟨h.known hseen, h.known⟩
    · next hseen => exact absurd hseen (hloop target hlink)
    · cases ht
      refine ⟨?_, fun {p q} hq => ?_⟩
      · simp only
        split
        · simp
        · exact h.here
      · rw [List.lookup_cons] at hq
        split at hq
        · cases hq
        · exact h.known hq

/-- Where no link is met inside its own expansion, no path gets two slashes. -/
theorem SingleSlash.advance {t t' : Tracing} (h : SingleSlash t)
    (hloop : ∀ p target, t.looked? = some p → fs.linkAt cwd p = .ok (some target) →
      t.seen.lookup p ≠ some none)
    (ht : fs.advance cwd t = .ok t') : SingleSlash t' := by
  unfold FileSystem.advance at ht
  split at ht
  · cases ht
    exact h
  · cases ht
    exact ⟨h.here, h.known⟩
  · next q rest houter =>
    cases ht
    refine ⟨h.here, fun {x y} hx => ?_⟩
    rw [List.lookup_cons] at hx
    split at hx
    · cases hx
      exact h.here
    · exact h.known hx
  · next part parts link rest houter =>
    split at ht
    · cases ht
      exact ⟨h.here, h.known⟩
    · next n hn =>
      split at ht
      · cases ht
        exact ⟨by rw [anchor_upFrom_eq]; exact h.here, h.known⟩
      · next hup =>
        have hlooked : t.looked? = some (t.here.child n) := by
          simp [Tracing.looked?, Tracing.nextName?, houter, hn, hup]
        exact h.meet (fun target => hloop _ target hlooked) ht

/-- A path that leads somewhere meets no link inside its own expansion. -/
theorem Tracks.lookup_ne_expanding_of_linkAt {t : Tracing} (hwf : fs.WellFormed)
    (h : Tracks fs cwd t here rounds i) {target : String} (hp : t.looked? = some p)
    (hlength : p.toString.utf8ByteSize < pathLimit) (hlink : fs.linkAt cwd p = .ok (some target)) :
    t.seen.lookup p ≠ some none := by
  obtain ⟨q, seen, outer⟩ := t
  obtain _ | ⟨⟨_ | ⟨part, parts⟩, link⟩, outer⟩ := outer
  · cases hp
  · cases hp
  · obtain ⟨n, hn, rfl⟩ := Option.map_eq_some_iff.1 hp
    obtain ⟨hpart, hup⟩ := Option.filter_eq_some_iff.1 hn
    replace hup : n ≠ Name.up := by simpa using hup
    obtain ⟨r, k, hreaches, hmem, -⟩ := h.pending.inner_text
    cases hreaches with
    | skip hskip =>
      rw [hpart] at hskip
      cases hskip
    | step hstep hnext =>
      rw [hpart] at hstep
      cases hstep
      obtain ⟨d, hd, hl, hj⟩ := (next?_eq_some_iff hup).1 hnext
      rw [h.denotes.linkAt_child hwf hd hl hlength, hj] at hlink
      cases hlink
    | follow hfollow _ hd hl ht hinside =>
      rw [hpart] at hfollow
      cases hfollow
      exact h.lookup_ne_expanding ⟨rfl, h.denotes, hd, hl, ht, hinside⟩ (by omega) hmem

/-- A path that leads somewhere comes to one without two slashes at its beginning. -/
theorem Tracks.anchor_expand {t : Tracing} (hwf : fs.WellFormed)
    (h : Tracks fs cwd t here rounds i) (hs : SingleSlash t)
    (hlooks : ∀ p ∈ fs.looks cwd fuel t, p.toString.utf8ByteSize < pathLimit)
    (hq : fs.expand cwd fuel t = .ok q) : q.anchor ≠ .doubleRoot := by
  induction fuel generalizing t here rounds with
  | zero =>
    cases hq
    exact hs.here
  | succ fuel ih =>
    rw [FileSystem.expand] at hq
    by_cases houter : t.outer = []
    · rw [if_pos (by simp [houter])] at hq
      cases hq
      exact hs.here
    · have hnow : ∀ p, t.looked? = some p → p.toString.utf8ByteSize < pathLimit := fun p hp =>
        hlooks p (by simp [looks, hp])
      obtain ⟨t', here', rounds', hadvance, h', -⟩ := h.advance hwf houter hnow
      rw [if_neg (by simpa using houter), hadvance] at hq
      have hs' : SingleSlash t' := hs.advance (fun p target hp hlink =>
        h.lookup_ne_expanding_of_linkAt hwf hp (hnow p hp) hlink) hadvance
      exact ih h' hs' (fun p hp => hlooks p (by simp [looks, hadvance, hp])) hq

/-- The canonical path of what is found begins at the root and holds no `..`. -/
theorem canonical_plain (hwf : fs.WellFormed) (h : fs.find cwd p.toString = .ok i)
    (ht : Traceable fs cwd p) (hq : fs.canonical cwd p = .ok q) :
    q.anchor = .root ∧ Name.up ∉ q.names := by
  obtain ⟨e, he, habsolute, -⟩ := canonical_eq_ok_iff.1 hq
  obtain ⟨rounds, htracks, -⟩ := tracks_start hwf h
  have hanchor := htracks.anchor_expand hwf (.start p) ht.looks he
  -- Whichever way the expanded path is seen from the root, `..` is taken textually then.
  have hcollapse (r : Path) (hr : r.anchor = .root) :
      r.collapse.anchor = .root ∧ Name.up ∉ r.collapse.names :=
    ⟨hr, up_not_mem_collapseOnto (by simp [hr]) (by simp) r.names⟩
  unfold FileSystem.absolute at habsolute
  split at habsolute
  · next ha =>
    cases habsolute
    refine hcollapse e ?_
    cases hea : e.anchor with
    | relative => exact absurd hea ha
    | root => rfl
    | doubleRoot => exact absurd hea hanchor
  · next ha =>
    split at habsolute
    · next text htext =>
      cases habsolute
      obtain ⟨names, hnames, -⟩ := exists_of_pathOf? hwf htext
      refine hcollapse _ ?_
      rw [Path.join, if_pos (not_not.1 ha), hnames]
    · cases habsolute

/-- What two paths lead to has one canonical path, if it has one name. -/
theorem canonical_eq_of_find (hwf : fs.WellFormed) (htree : IsTree fs) (hone : HasOneName fs i)
    (hp : fs.find cwd p.toString = .ok i) (hq : fs.find cwd q.toString = .ok i)
    (htp : Traceable fs cwd p) (htq : Traceable fs cwd q) :
    ∃ r, fs.canonical cwd p = .ok r ∧ fs.canonical cwd q = .ok r := by
  obtain ⟨r, hr, hdenotes⟩ := canonical_of_find hwf hp htp
  obtain ⟨r', hr', hdenotes'⟩ := canonical_of_find hwf hq htq
  obtain ⟨ha, hup⟩ := canonical_plain hwf hp htp hr
  obtain ⟨ha', hup'⟩ := canonical_plain hwf hq htq hr'
  rw [Denotes, startOf, if_neg (by simp [ha])] at hdenotes
  rw [Denotes, startOf, if_neg (by simp [ha'])] at hdenotes'
  have hnames := descend_injective htree hone hup hup' hdenotes hdenotes'
  obtain rfl : r = r' := by
    cases r
    cases r'
    simp_all
  exact ⟨r, hr, hr'⟩

end DeviceLauncher.FileSystem
