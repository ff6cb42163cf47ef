import DeviceLauncher.Proofs.FileSystem.Descend

/-!
# How a text is resolved part by part

`Reaches fs rounds here parts i` gives the rules by which the parts of a text lead to a node, each
link followed where it is met, and counts the rounds that this takes. What the system finds at a
path is reached by the parts of its text (`exists_reaches_of_find`), in fewer rounds than
`expandFuel` allows.
-/

namespace DeviceLauncher.FileSystem

/-- How parts of a text lead from a directory to a node, and in how many rounds: one for a part,
and for a link those of its target and one more to come back from it. -/
inductive Reaches (fs : FileSystem) : Nat → Inode → List String → Inode → Prop where
  | done {here : Inode} : Reaches fs 0 here [] here
  | skip {rounds : Nat} {here i : Inode} {part : String} {rest : List String} :
      Name.ofString? part = none → Reaches fs rounds here rest i →
        Reaches fs (rounds + 1) here (part :: rest) i
  | step {rounds : Nat} {here i j : Inode} {part : String} {rest : List String} {n : Name} :
      Name.ofString? part = some n → fs.next? here n = some i → Reaches fs rounds i rest j →
        Reaches fs (rounds + 1) here (part :: rest) j
  | follow {inside rounds : Nat} {here l i j : Inode} {d : Directory} {part target : String}
      {rest : List String} {n : Name} :
      Name.ofString? part = some n → n ≠ Name.up → fs.directory? here = some d →
        d.entries.lookup n.text = some l → fs.link? l = some target →
          Reaches fs inside (routeStart here target) (textParts target) i →
            Reaches fs rounds i rest j →
              Reaches fs (inside + rounds + 2) here (part :: rest) j

variable {fs : FileSystem} {rounds rounds' : Nat} {here i j : Inode} {first rest parts : List String}
  {part text : String}

namespace Reaches

/-- Resolving takes one way only. -/
theorem unique (h : Reaches fs rounds here parts i) (h' : Reaches fs rounds' here parts j) :
    rounds = rounds' ∧ i = j := by
  induction h generalizing rounds' j with
  | done => cases h'; exact ⟨rfl, rfl⟩
  | skip hpart _ ih =>
    cases h' with
    | skip _ h' =>
      obtain ⟨rfl, rfl⟩ := ih h'
      exact ⟨rfl, rfl⟩
    | step hpart' | follow hpart' => rw [hpart] at hpart'; cases hpart'
  | step hpart hnext _ ih =>
    cases h' with
    | skip hpart' => rw [hpart] at hpart'; cases hpart'
    | step hpart' hnext' h' =>
      rw [hpart] at hpart'
      cases hpart'
      rw [hnext] at hnext'
      cases hnext'
      obtain ⟨rfl, rfl⟩ := ih h'
      exact ⟨rfl, rfl⟩
    | follow hpart' hup hd hl ht =>
      rw [hpart] at hpart'
      cases hpart'
      rw [next?_of_link hup hd hl ht] at hnext
      cases hnext
  | follow hpart hup hd hl ht _ _ ihinside ih =>
    cases h' with
    | skip hpart' => rw [hpart] at hpart'; cases hpart'
    | step hpart' hnext' h' =>
      rw [hpart] at hpart'
      cases hpart'
      rw [next?_of_link hup hd hl ht] at hnext'
      cases hnext'
    | follow hpart' _ hd' hl' ht' hinside' h' =>
      rw [hpart] at hpart'
      cases hpart'
      rw [hd] at hd'
      cases hd'
      rw [hl] at hl'
      cases hl'
      rw [ht] at ht'
      cases ht'
      obtain ⟨rfl, rfl⟩ := ihinside hinside'
      obtain ⟨rfl, rfl⟩ := ih h'
      exact ⟨rfl, rfl⟩

/-- What several parts reach, the last ones reach from where the first ones do. -/
theorem of_append (h : Reaches fs rounds here (first ++ rest) j) :
    ∃ r r' i, Reaches fs r here first i ∧ Reaches fs r' i rest j ∧ rounds = r + r' := by
  induction first generalizing rounds here with
  | nil => exact ⟨0, rounds, here, .done, h, by omega⟩
  | cons part first ih =>
    cases h with
    | skip hpart h =>
      obtain ⟨r, r', i, hfirst, hrest, rfl⟩ := ih h
      exact ⟨r + 1, r', i, .skip hpart hfirst, hrest, by omega⟩
    | step hpart hnext h =>
      obtain ⟨r, r', i, hfirst, hrest, rfl⟩ := ih h
      exact ⟨r + 1, r', i, .step hpart hnext hfirst, hrest, by omega⟩
    | follow hpart hup hd hl ht hinside h =>
      obtain ⟨r, r', i, hfirst, hrest, rfl⟩ := ih h
      exact ⟨_, r', i, .follow hpart hup hd hl ht hinside hfirst, hrest, by omega⟩

/-- Empty parts take a round each and do nothing else. -/
theorem of_filter (h : Reaches fs rounds here (parts.filter (· != "")) i) :
    ∃ r, Reaches fs r here parts i ∧
      r + (parts.filter (· != "")).length = rounds + parts.length := by
  induction parts generalizing rounds here with
  | nil => exact ⟨rounds, h, rfl⟩
  | cons part rest ih =>
    by_cases hpart : part = ""
    · subst hpart
      rw [List.filter_cons_of_neg (by simp)] at h ⊢
      obtain ⟨r, hr, hcount⟩ := ih h
      exact ⟨r + 1, .skip rfl hr, by rw [List.length_cons]; omega⟩
    · rw [List.filter_cons_of_pos (by simpa using hpart)] at h ⊢
      simp only [List.length_cons]
      cases h with
      | skip hnone h =>
        obtain ⟨r, hr, hcount⟩ := ih h
        exact ⟨r + 1, .skip hnone hr, by omega⟩
      | step hsome hnext h =>
        obtain ⟨r, hr, hcount⟩ := ih h
        exact ⟨r + 1, .step hsome hnext hr, by omega⟩
      | follow hsome hup hd hl ht hinside h =>
        obtain ⟨r, hr, hcount⟩ := ih h
        exact ⟨_, .follow hsome hup hd hl ht hinside hr, by omega⟩

/-- The names of a route and the parts of its text lead to the same node. -/
theorem of_route (h : Reaches fs rounds here (Route.ofString text).names i) :
    ∃ r, Reaches fs r here (textParts text) i ∧
      r + (Route.ofString text).names.length = rounds + (textParts text).length := by
  rcases Route.names_cases text with hnames | hnames
  · rw [hnames] at h ⊢
    exact of_filter h
  · rw [hnames] at h ⊢
    obtain ⟨r, r', j, hfirst, hlast, rfl⟩ := of_append h
    obtain ⟨r₁, hr₁, hcount⟩ := of_filter hfirst
    cases hlast with
    | skip _ hdone =>
      cases hdone
      refine ⟨r₁, hr₁, ?_⟩
      rw [List.length_append, List.length_singleton]
      omega
    | step hpart => cases hpart
    | follow hpart => cases hpart

end Reaches

/-! ## What the system finds -/

theorem exists_ofString?_of_isEntryName {name : String} (h : IsEntryName name) :
    ∃ n, Name.ofString? name = some n ∧ n.text = name ∧ n ≠ Name.up := by
  let n : Name := ⟨name, h.ne_empty, h.ne_dot, h.no_slash⟩
  exact ⟨n, Name.ofString?_text n, rfl, fun hup => h.ne_up (congrArg Name.text hup)⟩

/-- What the system finds is reached, in a number of rounds that is bounded by the number of links
and the most parts that a target has. -/
theorem Leads.exists_reaches (hwf : fs.WellFormed) {most links : Nat} {names : List String}
    (hmost : ∀ l target, fs.link? l = some target → (textParts target).length ≤ most)
    (h : Leads fs .find links here names (.node i)) :
    ∃ rounds, Reaches fs rounds here names i ∧
      rounds ≤ names.length + links * (most + 2) := by
  generalize hplace : Place.node i = place at h
  induction h with
  | done =>
    cases hplace
    exact ⟨0, .done, Nat.zero_le _⟩
  | stay _ hname _ ih =>
    obtain ⟨rounds, hr, hle⟩ := ih hplace
    have hskip : ∀ name, name = "" ∨ name = "." → Name.ofString? name = none := by
      rintro name (rfl | rfl) <;> rfl
    exact ⟨rounds + 1, .skip (hskip _ hname) hr, by rw [List.length_cons]; omega⟩
  | up hd _ ih =>
    obtain ⟨rounds, hr, hle⟩ := ih hplace
    have hup : Name.ofString? ".." = some Name.up := rfl
    exact ⟨rounds + 1, .step hup (next?_up hd) hr, by rw [List.length_cons]; omega⟩
  | free => cases hplace
  | enter hd _ _ hl hi _ ih =>
    obtain ⟨rounds, hr, hle⟩ := ih hplace
    obtain ⟨n, hn, rfl, hup⟩ :=
      exists_ofString?_of_isEntryName (hwf.isEntryName hd (WellFormed.mem_of_lookup hl))
    have hnext := (next?_eq_some_iff hup).2 ⟨_, hd, hl, hi⟩
    exact ⟨rounds + 1, .step hn hnext hr, by rw [List.length_cons]; omega⟩
  | link _ _ _ _ hlast => cases hlast
  | @follow links here l d name target rest place hd _ _ hl ht _ _ ih =>
    obtain ⟨rounds, hr, hle⟩ := ih hplace
    obtain ⟨n, hn, rfl, hup⟩ :=
      exists_ofString?_of_isEntryName (hwf.isEntryName hd (WellFormed.mem_of_lookup hl))
    obtain ⟨r, r', j, hinside, hrest, rfl⟩ := hr.of_append
    obtain ⟨inside, hinside, hcount⟩ := hinside.of_route
    refine ⟨inside + r' + 2, .follow hn hup hd hl ht hinside hrest, ?_⟩
    have hparts := hmost l target ht
    rw [List.length_append] at hle
    rw [List.length_cons, Nat.succ_mul]
    omega

theorem length_textParts_le (text : String) : (textParts text).length ≤ text.length + 1 := by
  have hsplit (chars : List Char) : (chars.splitOn '/').length ≤ chars.length + 1 := by
    induction chars with
    | nil => simp
    | cons c rest ih =>
      rw [List.splitOn_cons_eq_if_modifyHead]
      split
      · simpa using ih
      · rw [List.length_modifyHead, List.length_cons]
        omega
  simpa only [textParts, List.length_map, String.length_toList] using hsplit text.toList

theorem length_le_of_link? {l : Inode} {target : String} (h : fs.link? l = some target) :
    target.length ≤ (fs.linkTargets.map String.length).foldl (· + ·) 0 := by
  have hmem : target ∈ fs.linkTargets := by
    refine List.mem_filterMap.2 ⟨l, List.mem_range.2 ?_, h⟩
    exact lt_size_of_node? (link?_eq_some_iff.1 h)
  rw [← List.sum_eq_foldl]
  exact List.le_sum_of_mem (List.mem_map_of_mem hmem)

/-- What is found at a path is reached in the rounds that there are. -/
theorem exists_reaches_of_find (hwf : fs.WellFormed) {cwd : Inode} {p : Path}
    (h : fs.find cwd p.toString = .ok i) :
    ∃ rounds, Reaches fs rounds (startOf cwd p) (textParts p.toString) i ∧
      rounds + 1 ≤ fs.expandFuel p := by
  obtain ⟨-, hleads⟩ := locate_eq_ok_iff.1 (find_eq_ok_iff.1 h)
  have hmost (l : Inode) (target : String) (ht : fs.link? l = some target) :
      (textParts target).length ≤ (fs.linkTargets.map String.length).foldl (· + ·) 0 + 1 :=
    Nat.le_trans (length_textParts_le target) (Nat.succ_le_succ (length_le_of_link? ht))
  obtain ⟨r, hr, hle⟩ := hleads.exists_reaches hwf hmost
  obtain ⟨rounds, hrounds, hcount⟩ := hr.of_route
  rw [routeStart_toString] at hrounds
  refine ⟨rounds, hrounds, ?_⟩
  have hparts := length_textParts_le p.toString
  show _ ≤ _ + 2 + (_ + pathLimit) * (_ + 2)
  generalize (fs.linkTargets.map String.length).foldl (· + ·) 0 = targets at hle ⊢
  have hlinks : mostLinks * (targets + 1 + 2) ≤
      ((fs.linkTargets.map String.length).length + pathLimit) * (targets + 2) := by
    rw [Nat.add_mul, mostLinks, pathLimit]
    omega
  omega

end DeviceLauncher.FileSystem
