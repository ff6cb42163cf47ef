import DeviceLauncher.Proofs.FileSystem.Resolve

/-!
# What a canonical path says

Where something is found at a path, the canonical path leads to it through no link
(`canonical_of_find`), provided that the paths that are looked at on the way are not too long and
the working directory still has a path (`Traceable`).

`Tracks fs cwd t here rounds i` is the invariant of a path on its way: what has been reached so far
denotes `here`, and the texts still to come lead from there to `i`. A round keeps it
(`Tracks.advance`) and takes at least one of the rounds that are left, so that `expand` comes to
its end (`Tracks.expand`). A link is never met inside its own expansion: that would take fewer
rounds than itself.

* `Rewritten.canonical`: writing files changes no canonical path.
-/

namespace DeviceLauncher.FileSystem

variable {fs : FileSystem} {cwd here i j : Inode} {p q : Path} {rounds rounds' : Nat}

/-! ## Links -/

/-- Whether a path is a link whose target leads to a node, and in how many rounds. -/
inductive LinkTo (fs : FileSystem) (cwd : Inode) (rounds : Nat) (p : Path) (i : Inode) : Prop where
  | intro {above : Path} {n : Name} {here l : Inode} {d : Directory} {target : String} :
      p = above.child n → Denotes fs cwd above here → fs.directory? here = some d →
        d.entries.lookup n.text = some l → fs.link? l = some target →
          Reaches fs rounds (routeStart here target) (textParts target) i →
            LinkTo fs cwd rounds p i

theorem child_inj {p q : Path} {n m : Name} (h : p.child n = q.child m) : p = q ∧ n = m := by
  obtain ⟨a, names⟩ := p
  obtain ⟨b, others⟩ := q
  simp only [Path.child, Path.mk.injEq] at h
  obtain ⟨rfl, hnames⟩ := h
  obtain ⟨rfl, hlast⟩ := List.append_inj' hnames rfl
  exact ⟨rfl, by simpa using hlast⟩

theorem LinkTo.unique (h : LinkTo fs cwd rounds p i) (h' : LinkTo fs cwd rounds' p j) :
    rounds = rounds' ∧ i = j := by
  obtain ⟨rfl, habove, hd, hl, ht, hreaches⟩ := h
  obtain ⟨hp, habove', hd', hl', ht', hreaches'⟩ := h'
  obtain ⟨rfl, rfl⟩ := child_inj hp
  obtain rfl := habove.unique habove'
  rw [hd] at hd'
  cases hd'
  rw [hl] at hl'
  cases hl'
  rw [ht] at ht'
  cases ht'
  exact hreaches.unique hreaches'

theorem Denotes.linkAt_child (hwf : fs.WellFormed) {n : Name} {l : Inode} {d : Directory}
    (h : Denotes fs cwd p here) (hd : fs.directory? here = some d)
    (hl : d.entries.lookup n.text = some l)
    (hlength : (p.child n).toString.utf8ByteSize < pathLimit) :
    fs.linkAt cwd (p.child n) = .ok (fs.link? l) := by
  rw [linkAt, h.findLink_child hwf hd hl hlength]

/-- Where the target of a link below a path begins. -/
theorem Denotes.start (h : Denotes fs cwd p here) (target : String) :
    Denotes fs cwd (if target.toList.head? = some '/' then ⟨.root, []⟩ else p)
      (routeStart here target) := by
  by_cases hslash : target.toList.head? = some '/'
  · simp [routeStart, Route.ofString, hslash, Denotes, startOf]
  · simpa [routeStart, Route.ofString, hslash] using h

/-! ## Texts still to come -/

/-- How texts still to come lead from one node to another, and in how many rounds. `inner` is the
number of rounds before the first of these texts goes on. -/
inductive Pending (fs : FileSystem) (cwd i : Inode) : Nat → Nat → Inode → List Expansion → Prop where
  | done {inner : Nat} : Pending fs cwd i inner 0 i []
  | text {inner rest rounds : Nat} {here j : Inode} {parts : List String} {link : Option Path}
      {outer : List Expansion} :
      Reaches fs rest here parts j →
        (∀ p, link = some p → ∃ whole, LinkTo fs cwd whole p j ∧ inner + rest ≤ whole) →
          Pending fs cwd i (inner + rest + 1) rounds j outer →
            Pending fs cwd i inner (rest + 1 + rounds) here (⟨parts, link⟩ :: outer)

namespace Pending

variable {inner inner' : Nat} {outer : List Expansion}

theorem mono (h : Pending fs cwd i inner rounds here outer) (hle : inner' ≤ inner) :
    Pending fs cwd i inner' rounds here outer := by
  induction h generalizing inner' with
  | done => exact .done
  | text hreaches hlink _ ih =>
    refine .text hreaches (fun p hp => ?_) (ih (by omega))
    obtain ⟨whole, hwhole, hrest⟩ := hlink p hp
    exact ⟨whole, hwhole, by omega⟩

theorem eq_of_zero (h : Pending fs cwd i inner rounds here outer) (hrounds : rounds = 0) :
    here = i := by
  cases h with
  | done => rfl
  | text => omega

/-- A link that is being expanded takes more rounds than what comes before. -/
theorem le_of_mem (h : Pending fs cwd i inner rounds here outer) {e : Expansion} (he : e ∈ outer)
    (hp : e.link = some p) : ∃ whole k, LinkTo fs cwd whole p k ∧ inner ≤ whole := by
  induction h with
  | done => simp at he
  | text _ hlink _ ih =>
    rcases List.mem_cons.1 he with rfl | he
    · obtain ⟨whole, hwhole, hrest⟩ := hlink p hp
      exact ⟨whole, _, hwhole, by omega⟩
    · obtain ⟨whole, k, hwhole, hrest⟩ := ih he
      exact ⟨whole, k, hwhole, by omega⟩

/-- What is left of the innermost text may take fewer rounds, also when another text is put in
front of it. -/
theorem inner_text {parts : List String} {link : Option Path}
    (h : Pending fs cwd i 0 rounds here (⟨parts, link⟩ :: outer)) :
    ∃ r j, Reaches fs r here parts j ∧
      (∀ e ∈ (⟨parts, link⟩ :: outer : List Expansion), ∀ p, e.link = some p →
        ∃ whole k, LinkTo fs cwd whole p k ∧ r ≤ whole) ∧
      ∀ inner r' here' left, Reaches fs r' here' left j → inner + r' < r →
        ∃ rounds', Pending fs cwd i inner rounds' here' (⟨left, link⟩ :: outer) ∧
          inner + rounds' < rounds := by
  cases h with
  | @text _ r rest _ j _ _ _ hreaches hlink hrest =>
    refine ⟨r, j, hreaches, fun e he p hp => ?_, fun inner r' here' left hleft hlt => ?_⟩
    · rcases List.mem_cons.1 he with rfl | he
      · obtain ⟨whole, hwhole, hle⟩ := hlink p hp
        exact ⟨whole, j, hwhole, by omega⟩
      · obtain ⟨whole, k, hwhole, hle⟩ := hrest.le_of_mem he hp
        exact ⟨whole, k, hwhole, by omega⟩
    · refine ⟨r' + 1 + rest, .text hleft (fun p hp => ?_) (hrest.mono (by omega)), by omega⟩
      obtain ⟨whole, hwhole, hle⟩ := hlink p hp
      exact ⟨whole, hwhole, by omega⟩

end Pending

/-! ## Rounds -/

section

variable {seen : List (Path × Option Path)} {part : String} {parts : List String}
  {link : Option Path} {outer : List Expansion} {n : Name}

theorem advance_of_none (hpart : Name.ofString? part = none) :
    fs.advance cwd ⟨p, seen, ⟨part :: parts, link⟩ :: outer⟩ =
      .ok ⟨p, seen, ⟨parts, link⟩ :: outer⟩ := by
  simp [advance, hpart]

theorem advance_up (hpart : Name.ofString? part = some Name.up) :
    fs.advance cwd ⟨p, seen, ⟨part :: parts, link⟩ :: outer⟩ =
      .ok ⟨p.upFrom, seen, ⟨parts, link⟩ :: outer⟩ := by
  simp [advance, hpart]

theorem advance_meet (hpart : Name.ofString? part = some n) (hup : n ≠ Name.up) :
    fs.advance cwd ⟨p, seen, ⟨part :: parts, link⟩ :: outer⟩ =
      fs.meet cwd ⟨p, seen, ⟨part :: parts, link⟩ :: outer⟩ n (⟨parts, link⟩ :: outer) := by
  simp [advance, hpart, hup]

theorem looked?_eq (hpart : Name.ofString? part = some n) (hup : n ≠ Name.up) :
    Tracing.looked? ⟨p, seen, ⟨part :: parts, link⟩ :: outer⟩ = some (p.child n) := by
  simp [Tracing.looked?, Tracing.nextName?, hpart, hup]

end

/-- What is so of a path on its way to its canonical form, if it leads to a node. -/
structure Tracks (fs : FileSystem) (cwd : Inode) (t : Tracing) (here : Inode) (rounds : Nat)
    (i : Inode) : Prop where
  denotes : Denotes fs cwd t.here here
  pending : Pending fs cwd i 0 rounds here t.outer
  expanding {p : Path} : t.seen.lookup p = some none → ∃ e ∈ t.outer, e.link = some p
  known {p q : Path} : t.seen.lookup p = some (some q) →
    ∃ r k, LinkTo fs cwd r p k ∧ Denotes fs cwd q k

namespace Tracks

variable {seen : List (Path × Option Path)} {outer : List Expansion}

/-- A text that is not that of a link comes to its end. -/
theorem pop_text (h : Tracks fs cwd ⟨p, seen, ⟨[], none⟩ :: outer⟩ here rounds i) :
    ∃ rounds', Tracks fs cwd ⟨p, seen, outer⟩ here rounds' i ∧ rounds' < rounds := by
  obtain ⟨hdenotes, hpending, hexpanding, hknown⟩ := h
  cases hpending with
  | text hreaches _ hrest =>
    cases hreaches
    refine ⟨_, ⟨hdenotes, hrest.mono (Nat.zero_le _), fun {x} hx => ?_, hknown⟩, by omega⟩
    obtain ⟨e, he, hlink⟩ := hexpanding hx
    rcases List.mem_cons.1 he with rfl | he
    · cases hlink
    · exact ⟨e, he, hlink⟩

/-- The text of a link comes to its end, and what the link leads to is known. -/
theorem pop_link (h : Tracks fs cwd ⟨p, seen, ⟨[], some q⟩ :: outer⟩ here rounds i) :
    ∃ rounds', Tracks fs cwd ⟨p, (q, some p) :: seen, outer⟩ here rounds' i ∧
      rounds' < rounds := by
  obtain ⟨hdenotes, hpending, hexpanding, hknown⟩ := h
  cases hpending with
  | text hreaches hlink hrest =>
    cases hreaches
    obtain ⟨whole, hwhole, -⟩ := hlink q rfl
    refine ⟨_, ⟨hdenotes, hrest.mono (Nat.zero_le _), fun {x} hx => ?_, fun {x y} hx => ?_⟩,
      by omega⟩
    · rw [List.lookup_cons] at hx
      split at hx
      · cases hx
      · next hne =>
        obtain ⟨e, he, hel⟩ := hexpanding hx
        rcases List.mem_cons.1 he with rfl | he
        · cases hel
          simp at hne
        · exact ⟨e, he, hel⟩
    · rw [List.lookup_cons] at hx
      split at hx
      · next heq =>
        cases hx
        obtain rfl : x = q := by simpa using heq
        exact ⟨whole, _, hwhole, hdenotes⟩
      · exact hknown hx

section

variable {parts left : List String} {link : Option Path}

/-- The innermost text goes on. -/
theorem go_on (h : Tracks fs cwd ⟨p, seen, ⟨parts, link⟩ :: outer⟩ here rounds i)
    (hq : Denotes fs cwd q j) (hpending : Pending fs cwd i 0 rounds' j (⟨left, link⟩ :: outer)) :
    Tracks fs cwd ⟨q, seen, ⟨left, link⟩ :: outer⟩ j rounds' i := by
  refine ⟨hq, hpending, fun {x} hx => ?_, h.known⟩
  obtain ⟨e, he, hlink⟩ := h.expanding hx
  rcases List.mem_cons.1 he with rfl | he
  · exact ⟨_, List.mem_cons_self, hlink⟩
  · exact ⟨e, List.mem_cons_of_mem _ he, hlink⟩

/-- A link inside its own expansion would take fewer rounds than itself. -/
theorem lookup_ne_expanding {inside r k : Nat} (h : Tracks fs cwd ⟨p, seen, outer⟩ here rounds i)
    (hlink : LinkTo fs cwd inside q k) (hlt : inside < r)
    (hmem : ∀ e ∈ outer, ∀ p, e.link = some p → ∃ whole k, LinkTo fs cwd whole p k ∧ r ≤ whole) :
    seen.lookup q ≠ some none := by
  intro hseen
  obtain ⟨e, he, hq⟩ := h.expanding hseen
  obtain ⟨whole, k', hwhole, hle⟩ := hmem e he q hq
  obtain ⟨rfl, -⟩ := hlink.unique hwhole
  omega

/-- The target of a link that is met for the first time comes next. -/
theorem push {next start : Path} {inside k : Nat} {target : String}
    (h : Tracks fs cwd ⟨p, seen, ⟨parts, link⟩ :: outer⟩ here rounds i)
    (hlink : LinkTo fs cwd inside next k) (hstart : Denotes fs cwd start j)
    (hinside : Reaches fs inside j (textParts target) k)
    (hpending : Pending fs cwd i (inside + 1) rounds' k (⟨left, link⟩ :: outer)) :
    Tracks fs cwd
      ⟨start, (next, none) :: seen, ⟨textParts target, some next⟩ :: ⟨left, link⟩ :: outer⟩ j
      (inside + 1 + rounds') i := by
  refine ⟨hstart, .text hinside (fun x hx => ?_) (by simpa using hpending), fun {x} hx => ?_,
    fun {x y} hx => ?_⟩
  · cases hx
    exact ⟨inside, hlink, by omega⟩
  · rw [List.lookup_cons] at hx
    split at hx
    · next heq =>
      obtain rfl : x = next := by simpa using heq
      exact ⟨_, List.mem_cons_self, rfl⟩
    · obtain ⟨e, he, hel⟩ := h.expanding hx
      rcases List.mem_cons.1 he with rfl | he
      · exact ⟨⟨left, link⟩, by simp, hel⟩
      · exact ⟨e, by simp [he], hel⟩
  · rw [List.lookup_cons] at hx
    split at hx
    · cases hx
    · exact h.known hx

end

/-- A round keeps to the way, unless the path that it looks at is too long. -/
theorem advance {t : Tracing} (hwf : fs.WellFormed) (h : Tracks fs cwd t here rounds i)
    (houter : t.outer ≠ [])
    (hlength : ∀ p, t.looked? = some p → p.toString.utf8ByteSize < pathLimit) :
    ∃ t' here' rounds', fs.advance cwd t = .ok t' ∧ Tracks fs cwd t' here' rounds' i ∧
      rounds' < rounds := by
  obtain ⟨p, seen, outer⟩ := t
  obtain ⟨⟨parts, link⟩, outer, rfl⟩ := List.exists_cons_of_ne_nil houter
  cases parts with
  | nil =>
    cases link with
    | none =>
      obtain ⟨rounds', h', hlt⟩ := h.pop_text
      exact ⟨_, here, rounds', rfl, h', hlt⟩
    | some q =>
      obtain ⟨rounds', h', hlt⟩ := h.pop_link
      exact ⟨_, here, rounds', rfl, h', hlt⟩
  | cons part parts =>
    obtain ⟨r, k, hreaches, hmem, hgo⟩ := h.pending.inner_text
    cases hreaches with
    | skip hpart hrest =>
      obtain ⟨rounds', hpending, hlt⟩ := hgo 0 _ _ _ hrest (by omega)
      exact ⟨_, here, rounds', advance_of_none hpart, h.go_on h.denotes hpending, by omega⟩
    | @step _ _ j _ _ _ n hpart hnext hrest =>
      obtain ⟨rounds', hpending, hlt⟩ := hgo 0 _ _ _ hrest (by omega)
      by_cases hup : n = Name.up
      · subst hup
        obtain ⟨d, hd, rfl⟩ := next?_up_eq_some_iff.1 hnext
        exact ⟨_, d.parent, rounds', advance_up hpart,
          h.go_on (h.denotes.upFrom hwf hd) hpending, by omega⟩
      · obtain ⟨d, hd, hl, hj⟩ := (next?_eq_some_iff hup).1 hnext
        have hlinkAt := h.denotes.linkAt_child hwf hd hl (hlength _ (looked?_eq hpart hup))
        refine ⟨_, j, rounds', ?_, h.go_on (h.denotes.child hnext) hpending, by omega⟩
        rw [advance_meet hpart hup]
        simp [meet, hlinkAt, hj]
    | @follow inside rest _ l _ _ d _ target _ n hpart hup hd hl ht hinside hrest =>
      have hlink : LinkTo fs cwd inside (p.child n) _ := ⟨rfl, h.denotes, hd, hl, ht, hinside⟩
      have hlinkAt := h.denotes.linkAt_child hwf hd hl (hlength _ (looked?_eq hpart hup))
      rw [ht] at hlinkAt
      rw [advance_meet hpart hup]
      cases hseen : seen.lookup (p.child n) with
      | none =>
        obtain ⟨rounds', hpending, hlt⟩ := hgo (inside + 1) _ _ _ hrest (by omega)
        exact ⟨_, _, inside + 1 + rounds', by simp [meet, hlinkAt, hseen],
          h.push hlink (h.denotes.start target) hinside hpending, by omega⟩
      | some value =>
        cases value with
        | none => exact absurd hseen (h.lookup_ne_expanding hlink (by omega) hmem)
        | some q =>
          obtain ⟨r', k', hlink', hq⟩ := h.known hseen
          obtain ⟨-, rfl⟩ := hlink.unique hlink'
          obtain ⟨rounds', hpending, hlt⟩ := hgo 0 _ _ _ hrest (by omega)
          exact ⟨_, _, rounds', by simp [meet, hlinkAt, hseen], h.go_on hq hpending, by omega⟩

/-- A path that leads somewhere comes to a path without links that leads to the same node. -/
theorem expand {t : Tracing} {fuel : Nat} (hwf : fs.WellFormed)
    (h : Tracks fs cwd t here rounds i) (hfuel : rounds ≤ fuel)
    (hlooks : ∀ p ∈ fs.looks cwd fuel t, p.toString.utf8ByteSize < pathLimit) :
    ∃ q, fs.expand cwd fuel t = .ok q ∧ Denotes fs cwd q i := by
  induction fuel generalizing t here rounds with
  | zero =>
    obtain rfl := h.pending.eq_of_zero (Nat.le_zero.1 hfuel)
    exact ⟨t.here, rfl, h.denotes⟩
  | succ fuel ih =>
    by_cases houter : t.outer = []
    · have hpending := h.pending
      rw [houter] at hpending
      cases hpending
      exact ⟨t.here, by simp [FileSystem.expand, houter], h.denotes⟩
    · obtain ⟨t', here', rounds', hadvance, h', hlt⟩ := h.advance hwf houter fun p hp =>
        hlooks p (by simp [looks, hp])
      obtain ⟨q, hq, hdenotes⟩ := ih h' (by omega) fun p hp =>
        hlooks p (by simp [looks, hadvance, hp])
      exact ⟨q, by simp [FileSystem.expand, houter, hadvance, hq], hdenotes⟩

end Tracks

/-! ## Paths from the root -/

/-- Whether a path on its way is seen from the root, and will be. -/
structure Anchored (t : Tracing) : Prop where
  here : t.here.anchor ≠ .relative
  known {p q : Path} : t.seen.lookup p = some (some q) → q.anchor ≠ .relative

theorem anchor_upFrom (h : p.anchor ≠ .relative) : p.upFrom.anchor ≠ .relative := by
  unfold Path.upFrom
  split
  · split <;> exact h
  · exact h
  · exact h

theorem anchor_joinRest (h : p.anchor ≠ .relative) (parts : List String) :
    (p.joinRest parts).anchor ≠ .relative := by
  unfold Path.joinRest Path.join
  split
  · exact h
  · assumption

theorem anchor_foldl_joinRest (h : p.anchor ≠ .relative) (outer : List Expansion) :
    (outer.foldl (fun p e => p.joinRest e.parts) p).anchor ≠ .relative := by
  induction outer generalizing p with
  | nil => exact h
  | cons e outer ih => exact ih (anchor_joinRest h e.parts)

theorem Anchored.meet {t t' : Tracing} {n : Name} {rest : List Expansion} (h : Anchored t)
    (ht : fs.meet cwd t n rest = .ok t') : Anchored t' := by
  unfold FileSystem.meet at ht
  simp only at ht
  split at ht
  · cases ht
  · cases ht
    exact ⟨h.here, h.known⟩
  · split at ht
    · next hseen =>
      cases ht
      exact ⟨h.known hseen, h.known⟩
    · cases ht
      have hnext : (t.here.child n).anchor ≠ .relative := h.here
      exact ⟨anchor_foldl_joinRest hnext rest, h.known⟩
    · cases ht
      refine ⟨?_, fun {p q} hq => ?_⟩
      · simp only
        split
        · simp
        · exact h.here
      · rw [List.lookup_cons] at hq
        split at hq
        · cases hq
        · exact h.known hq

/-- What is seen from the root goes on to be. -/
theorem Anchored.advance {t t' : Tracing} (h : Anchored t) (ht : fs.advance cwd t = .ok t') :
    Anchored t' := by
  unfold FileSystem.advance at ht
  split at ht
  · cases ht
    exact h
  · cases ht
    exact ⟨h.here, h.known⟩
  · next q rest houter =>
    cases ht
    refine ⟨h.here, fun {p q} hq => ?_⟩
    rw [List.lookup_cons] at hq
    split at hq
    · cases hq
      exact h.here
    · exact h.known hq
  · split at ht
    · cases ht
      exact ⟨h.here, h.known⟩
    · next n hn =>
      split at ht
      · cases ht
        exact ⟨anchor_upFrom h.here, h.known⟩
      · exact h.meet ht

theorem Anchored.expand {t : Tracing} {fuel : Nat} (h : Anchored t)
    (hq : fs.expand cwd fuel t = .ok q) : q.anchor ≠ .relative := by
  induction fuel generalizing t with
  | zero =>
    cases hq
    exact h.here
  | succ fuel ih =>
    unfold FileSystem.expand at hq
    split at hq
    · cases hq
      exact h.here
    · split at hq
      · next t' ht => exact ih (h.advance ht) hq
      · cases hq

theorem Anchored.start (h : p.anchor ≠ .relative) : Anchored (.start p) := by
  refine ⟨?_, fun {x y} hx => ?_⟩
  · simp [Tracing.start, h]
  · simp [Tracing.start] at hx

/-! ## The canonical path -/

/-- Whether all that is looked at on the way of a path is short enough, and there is a path to begin
with. -/
structure Traceable (fs : FileSystem) (cwd : Inode) (p : Path) : Prop where
  hasPath : p.anchor = .relative → (fs.pathOf? cwd).isSome
  looks (q : Path) : q ∈ fs.looks cwd (fs.expandFuel p) (.start p) →
    q.toString.utf8ByteSize < pathLimit

theorem looks_succ {t t' : Tracing} (h : fs.advance cwd t = .ok t') (fuel : Nat) :
    fs.looks cwd (fuel + 1) t = t.looked?.toList ++ fs.looks cwd fuel t' := by
  rw [looks, h]

/-- Where no part is left nothing is looked at. -/
theorem looks_of_done {t : Tracing} (h : t.outer = []) (fuel : Nat) :
    fs.looks cwd fuel t = [] := by
  obtain ⟨p, seen, outer⟩ := t
  cases h
  induction fuel with
  | zero => rfl
  | succ fuel ih =>
    rw [looks_succ rfl, ih]
    rfl

/-- One name is all that is looked at, if it is no link. -/
theorem looks_of_name {n : Name} (hn : n ≠ Name.up) (hlink : fs.linkAt cwd (p.child n) = .ok none)
    (fuel : Nat) :
    fs.looks cwd (fuel + 2) ⟨p, [], [⟨[n.text], none⟩]⟩ = [p.child n] := by
  have hmeet : fs.advance cwd ⟨p, [], [⟨[n.text], none⟩]⟩ =
      .ok ⟨p.child n, [], [⟨[], none⟩]⟩ := by
    rw [advance_meet (Name.ofString?_text n) hn]
    simp [meet, hlink]
  rw [looks_succ hmeet, looks_succ rfl, looks_of_done rfl, looked?_eq (Name.ofString?_text n) hn]
  rfl

theorem exists_expandFuel (fs : FileSystem) (p : Path) :
    ∃ fuel, fs.expandFuel p = fuel + 3 := by
  refine Nat.exists_eq_add_of_le' ?_
  show 3 ≤ _ + 2 + (_ + pathLimit) * (_ + 2)
  have hmany : 1 ≤ pathLimit := by decide
  nlinarith

/-- A name in the root is all that is looked at, if it is no link. -/
theorem Traceable.of_root {n : Name} (hn : n ≠ Name.up)
    (hlink : fs.linkAt cwd ⟨.root, [n]⟩ = .ok none)
    (hlength : (⟨.root, [n]⟩ : Path).toString.utf8ByteSize < pathLimit) :
    Traceable fs cwd ⟨.root, [n]⟩ := by
  refine ⟨fun ha => absurd ha (by simp), fun q hq => ?_⟩
  have hparts : textParts (⟨.root, [n]⟩ : Path).toString = ["", n.text] := by
    rw [Path.toString_eq _ (by simp [Path.here])]
    show textParts ("/" ++ nameText [n]) = _
    rw [textParts_slash_append, textParts_nameText (by simp)]
    rfl
  have hstart : Tracing.start ⟨.root, [n]⟩ =
      ⟨⟨.root, []⟩, [], [⟨["", n.text], none⟩]⟩ := by
    simp [Tracing.start, hparts]
  obtain ⟨fuel, hfuel⟩ := exists_expandFuel fs ⟨.root, [n]⟩
  rw [hfuel, hstart, looks_succ (advance_of_none rfl),
    looks_of_name (p := ⟨.root, []⟩) hn hlink] at hq
  obtain rfl : q = ⟨.root, [n]⟩ := by
    simpa [Tracing.looked?, Tracing.nextName?, Name.ofString?, Path.child] using hq
  exact hlength

/-- So is a name in the working directory. -/
theorem Traceable.of_relative {n : Name} (hn : n ≠ Name.up) (hcwd : (fs.pathOf? cwd).isSome)
    (hlink : fs.linkAt cwd ⟨.relative, [n]⟩ = .ok none)
    (hlength : (⟨.relative, [n]⟩ : Path).toString.utf8ByteSize < pathLimit) :
    Traceable fs cwd ⟨.relative, [n]⟩ := by
  refine ⟨fun _ => hcwd, fun q hq => ?_⟩
  have hparts : textParts (⟨.relative, [n]⟩ : Path).toString = [n.text] := by
    rw [Path.toString_eq _ (by simp [Path.here])]
    show textParts ("" ++ nameText [n]) = _
    rw [String.empty_append, textParts_nameText (by simp)]
    rfl
  have hstart : Tracing.start ⟨.relative, [n]⟩ = ⟨Path.here, [], [⟨[n.text], none⟩]⟩ := by
    simp [Tracing.start, hparts]
  obtain ⟨fuel, hfuel⟩ := exists_expandFuel fs ⟨.relative, [n]⟩
  rw [hfuel, hstart, looks_of_name (p := Path.here) hn hlink] at hq
  obtain rfl : q = ⟨.relative, [n]⟩ := by simpa [Path.child, Path.here] using hq
  exact hlength

theorem tracks_start (hwf : fs.WellFormed) (h : fs.find cwd p.toString = .ok i) :
    ∃ rounds, Tracks fs cwd (.start p) (startOf cwd p) rounds i ∧ rounds ≤ fs.expandFuel p := by
  obtain ⟨rounds, hreaches, hle⟩ := exists_reaches_of_find hwf h
  have hstart : Denotes fs cwd (Tracing.start p).here (startOf cwd p) := by
    by_cases ha : p.anchor = .relative <;> simp [Tracing.start, startOf, ha, Denotes, Path.here]
  refine ⟨rounds + 1 + 0, ⟨hstart, .text hreaches (fun q hq => by cases hq) .done, ?_, ?_⟩, hle⟩
  · simp [Tracing.start]
  · simp [Tracing.start]

theorem canonical_eq_ok_iff : fs.canonical cwd p = .ok q ↔
    ∃ e, fs.expand cwd (fs.expandFuel p) (.start p) = .ok e ∧ fs.absolute cwd e = .ok q ∧
      fs.find cwd q.toString ≠ .error (.errno .linkLoop) := by
  unfold canonical
  cases fs.expand cwd (fs.expandFuel p) (.start p) with
  | error u => simp [bind, Except.bind]
  | ok e =>
    cases habsolute : fs.absolute cwd e with
    | error u => simp [bind, Except.bind, habsolute]
    | ok result =>
      simp only [bind, Except.bind, habsolute]
      split
      · next hloop =>
        simp only [throw, throwThe, MonadExceptOf.throw, reduceCtorEq, false_iff]
        rintro ⟨e', he, hq, hfind⟩
        cases he
        rw [habsolute] at hq
        cases hq
        exact hfind hloop
      · next hloop =>
        simp only [pure, Except.pure, Except.ok.injEq]
        constructor
        · rintro rfl
          exact ⟨e, rfl, habsolute, hloop⟩
        · rintro ⟨e', he, hq, -⟩
          cases he
          rw [habsolute] at hq
          cases hq
          rfl

/-- The canonical path of what is found denotes it. -/
theorem canonical_of_find (hwf : fs.WellFormed) (h : fs.find cwd p.toString = .ok i)
    (ht : Traceable fs cwd p) :
    ∃ q, fs.canonical cwd p = .ok q ∧ Denotes fs cwd q i := by
  obtain ⟨rounds, htracks, hle⟩ := tracks_start hwf h
  obtain ⟨e, he, hi⟩ := htracks.expand hwf hle ht.looks
  have hcwd : e.anchor = .relative → (fs.pathOf? cwd).isSome := fun ha =>
    ht.hasPath (Decidable.byContradiction fun hp => (Anchored.start hp).expand he ha)
  obtain ⟨q, hq, hanchor, hdenotes⟩ := hi.absolute hwf hcwd
  have hq' : Denotes fs cwd q i := by
    rwa [Denotes, startOf, if_neg hanchor]
  exact ⟨q, canonical_eq_ok_iff.2 ⟨e, he, hq, hq'.find_ne_linkLoop hwf hanchor⟩, hq'⟩

/-! ## Files that are written -/

namespace Rewritten

variable {before after : FileSystem} {written : Inode → Prop}

theorem linkAt (h : Rewritten written before after) (cwd : Inode) (p : Path) :
    after.linkAt cwd p = before.linkAt cwd p := by
  simp only [FileSystem.linkAt, h.findLink, h.link?]

theorem advance (h : Rewritten written before after) (cwd : Inode) (t : Tracing) :
    after.advance cwd t = before.advance cwd t := by
  simp only [FileSystem.advance, FileSystem.meet, h.linkAt]

theorem expand (h : Rewritten written before after) (cwd : Inode) (fuel : Nat) (t : Tracing) :
    after.expand cwd fuel t = before.expand cwd fuel t := by
  induction fuel generalizing t with
  | zero => rfl
  | succ fuel ih => simp only [FileSystem.expand, h.advance, ih]

theorem looks (h : Rewritten written before after) (cwd : Inode) (fuel : Nat) (t : Tracing) :
    after.looks cwd fuel t = before.looks cwd fuel t := by
  induction fuel generalizing t with
  | zero => rfl
  | succ fuel ih => simp only [FileSystem.looks, h.advance, ih]

theorem expandFuel (h : Rewritten written before after) (p : Path) :
    after.expandFuel p = before.expandFuel p := by
  have hl : after.link? = before.link? := funext h.link?
  simp only [FileSystem.expandFuel, FileSystem.linkTargets, h.size_eq, hl]

theorem pathOf? (h : Rewritten written before after) (i : Inode) :
    after.pathOf? i = before.pathOf? i := by
  have hnames (fuel : Nat) (i : Inode) (below : List String) :
      after.namesTo fuel i below = before.namesTo fuel i below := by
    induction fuel generalizing i below with
    | zero => rfl
    | succ fuel ih => simp only [namesTo, h.directory?, ih]
  simp only [FileSystem.pathOf?, h.size_eq, hnames]

theorem canonical (h : Rewritten written before after) (cwd : Inode) (p : Path) :
    after.canonical cwd p = before.canonical cwd p := by
  simp only [FileSystem.canonical, absolute, h.expand, h.expandFuel, h.pathOf?, h.find]

end Rewritten

end DeviceLauncher.FileSystem
