import DeviceLauncher.FileSystem.Change
import Mathlib

/-!
# Well-formed file systems

An array of nodes says more than a file system on a disk can: a name could lead nowhere, or `..`
to a directory in which there is no such name. `FileSystem.WellFormed` rules that out.

* `WellFormed.empty`, `WellFormed.rewritten`, `WellFormed.add`, `WellFormed.enter`: the file system
  with the root alone is well formed, and writing files, adding files and directories and giving a
  file a second name keep it so.
* `Rewritten W before after`: the two differ in the files with an inode in `W` only, and in those
  by their bytes, permission bits and time.
-/

namespace DeviceLauncher

/-- Whether a text can be a name in a directory. -/
structure IsEntryName (name : String) : Prop where
  ne_empty : name ≠ ""
  ne_dot : name ≠ "."
  ne_up : name ≠ ".."
  no_slash : '/' ∉ name.toList
  no_nul : '\x00' ∉ name.toList
  length_le : name.utf8ByteSize ≤ FileSystem.longestName

namespace FileSystem

variable {fs before after : FileSystem} {written : Inode → Prop}

/-- What holds of every file system on a disk. -/
structure WellFormed (fs : FileSystem) : Prop where
  /-- The root is a directory, and lies above itself. -/
  root : ∃ d, fs.directory? root = some d ∧ d.parent = FileSystem.root
  parent {i : Inode} {d : Directory} :
    fs.directory? i = some d → (fs.directory? d.parent).isSome
  isEntryName {i : Inode} {d : Directory} {e : String × Inode} :
    fs.directory? i = some d → e ∈ d.entries → IsEntryName e.1
  lt_size {i : Inode} {d : Directory} {e : String × Inode} :
    fs.directory? i = some d → e ∈ d.entries → e.2 < fs.nodes.size
  /-- A directory lies below the one that names it. -/
  parent_eq {i : Inode} {d below : Directory} {e : String × Inode} :
    fs.directory? i = some d → e ∈ d.entries → fs.directory? e.2 = some below → below.parent = i
  nodup {i : Inode} {d : Directory} : fs.directory? i = some d → (d.entries.map Prod.fst).Nodup
  no_nul {i : Inode} {target : String} : fs.link? i = some target → '\x00' ∉ target.toList

theorem WellFormed.empty : empty.WellFormed := by
  have h {i : Inode} {d : Directory} (h : FileSystem.empty.directory? i = some d) :
      i = FileSystem.root ∧ d = ⟨FileSystem.root, [], false⟩ := by
    rw [directory?_eq_some_iff, node?, FileSystem.empty, Array.getElem?_eq_some_iff] at h
    obtain ⟨hi, h⟩ := h
    obtain rfl : i = 0 := by simpa using hi
    exact ⟨rfl, by simpa using h.symm⟩
  refine ⟨⟨_, rfl, rfl⟩, ?_, ?_, ?_, ?_, ?_, ?_⟩
  · intro i d hd
    obtain ⟨-, rfl⟩ := h hd
    rfl
  · intro i d e hd he
    obtain ⟨-, rfl⟩ := h hd
    simp at he
  · intro i d e hd he
    obtain ⟨-, rfl⟩ := h hd
    simp at he
  · intro i d b e hd he
    obtain ⟨-, rfl⟩ := h hd
    simp at he
  · intro i d hd
    obtain ⟨-, rfl⟩ := h hd
    simp
  · intro i target ht
    rw [link?_eq_some_iff, node?, FileSystem.empty, Array.getElem?_eq_some_iff] at ht
    obtain ⟨hi, ht⟩ := ht
    obtain rfl : i = 0 := by simpa using hi
    simp at ht

theorem WellFormed.root_lt_size (hwf : fs.WellFormed) : FileSystem.root < fs.nodes.size := by
  obtain ⟨d, hd, -⟩ := hwf.root
  exact lt_size_of_node? (directory?_eq_some_iff.1 hd)

/-- Above the root lies the root. -/
theorem WellFormed.parent_root (hwf : fs.WellFormed) {d : Directory}
    (hd : fs.directory? FileSystem.root = some d) : d.parent = FileSystem.root := by
  obtain ⟨r, hr, hparent⟩ := hwf.root
  rw [hr] at hd
  cases hd
  exact hparent

/-- The entry that looking up a name gives. -/
theorem WellFormed.mem_of_lookup {d : Directory} {name : String} {j : Inode}
    (h : d.entries.lookup name = some j) : (name, j) ∈ d.entries := by
  obtain ⟨l, r, hd, -⟩ := List.lookup_eq_some_iff.1 h
  rw [hd]
  simp

theorem WellFormed.lookup_of_mem (hwf : fs.WellFormed) {i : Inode} {d : Directory} {name : String}
    {j : Inode} (hd : fs.directory? i = some d) (h : (name, j) ∈ d.entries) :
    d.entries.lookup name = some j := by
  have hnodup := hwf.nodup hd
  generalize d.entries = entries at h hnodup
  induction entries with
  | nil => simp at h
  | cons e rest ih =>
    rw [List.map_cons, List.nodup_cons] at hnodup
    rcases List.mem_cons.1 h with rfl | h
    · simp
    · have hne : name ≠ e.1 := fun he => hnodup.1 (he ▸ List.mem_map_of_mem h)
      rw [List.lookup_cons, beq_false_of_ne hne]
      exact ih h hnodup.2

/-! ## Files written in place -/

/-- Of the nodes, only files with an inode in `written` differ, and they are files in both. -/
structure Rewritten (written : Inode → Prop) (before after : FileSystem) : Prop where
  size_eq : after.nodes.size = before.nodes.size
  node? (i : Inode) : after.node? i = before.node? i ∨
    written i ∧ ∃ f g, before.node? i = some (.file f) ∧ after.node? i = some (.file g)

namespace Rewritten

theorem refl (written : Inode → Prop) (fs : FileSystem) : Rewritten written fs fs :=
  ⟨rfl, fun _ => .inl rfl⟩

theorem mono {written' : Inode → Prop} (h : Rewritten written before after)
    (hw : ∀ i, written i → written' i) : Rewritten written' before after :=
  ⟨h.size_eq, fun i => (h.node? i).imp_right fun ⟨hi, f⟩ => ⟨hw i hi, f⟩⟩

theorem symm (h : Rewritten written before after) : Rewritten written after before :=
  ⟨h.size_eq.symm, fun i => (h.node? i).imp Eq.symm fun ⟨hi, f, g, hf, hg⟩ => ⟨hi, g, f, hg, hf⟩⟩

theorem trans {last : FileSystem} (h : Rewritten written before after)
    (h' : Rewritten written after last) : Rewritten written before last := by
  refine ⟨h'.size_eq.trans h.size_eq, fun i => ?_⟩
  rcases h'.node? i with he | ⟨hi, f, g, hf, hg⟩
  · rw [he]
    exact h.node? i
  · rcases h.node? i with he | ⟨-, f', -, hf', -⟩
    · exact .inr ⟨hi, f, g, he ▸ hf, hg⟩
    · exact .inr ⟨hi, f', g, hf', hg⟩

theorem directory? (h : Rewritten written before after) (i : Inode) :
    after.directory? i = before.directory? i := by
  rcases h.node? i with he | ⟨-, f, g, hf, hg⟩
  · rw [FileSystem.directory?, FileSystem.directory?, he]
  · rw [FileSystem.directory?, FileSystem.directory?, hf, hg]

theorem link? (h : Rewritten written before after) (i : Inode) :
    after.link? i = before.link? i := by
  rcases h.node? i with he | ⟨-, f, g, hf, hg⟩
  · rw [FileSystem.link?, FileSystem.link?, he]
  · rw [FileSystem.link?, FileSystem.link?, hf, hg]

theorem isSome_file? (h : Rewritten written before after) (i : Inode) :
    (after.file? i).isSome = (before.file? i).isSome := by
  rcases h.node? i with he | ⟨-, f, g, hf, hg⟩
  · rw [FileSystem.file?, FileSystem.file?, he]
  · rw [FileSystem.file?, FileSystem.file?, hf, hg]
    rfl

theorem node?_of_not (h : Rewritten written before after) {i : Inode} (hi : ¬ written i) :
    after.node? i = before.node? i := (h.node? i).resolve_right fun h' => hi h'.1

theorem file?_of_not (h : Rewritten written before after) {i : Inode} (hi : ¬ written i) :
    after.file? i = before.file? i := by
  rw [FileSystem.file?, FileSystem.file?, h.node?_of_not hi]

/-- Where no file may be written, nothing is. -/
theorem eq_of_forall_not (h : Rewritten written before after) (hw : ∀ i, ¬ written i) :
    after = before := by
  have hn : after.nodes = before.nodes := Array.ext_getElem? fun i => h.node?_of_not (hw i)
  cases after
  cases before
  exact congrArg FileSystem.mk hn

/-- Changing a file writes it in place. -/
theorem modifyFile (fs : FileSystem) (i : Inode) (change : File → File) :
    Rewritten (· = i) fs (fs.modifyFile i change) := by
  cases hf : fs.file? i with
  | none =>
    rw [modifyFile_of_not_file change hf]
    exact refl _ fs
  | some f =>
    have hn := node?_of_file? hf
    rw [modifyFile_of_file? change hf]
    refine ⟨size_set fs i _, fun j => ?_⟩
    by_cases hj : j = i
    · subst hj
      exact .inr ⟨rfl, f, change f, hn, node?_set_self fs _ (lt_size_of_node? hn)⟩
    · exact .inl (node?_set_of_ne fs _ hj)

/-- A file that is written back is as it was. -/
theorem modifyFile_back {i : Inode} {f : File}
    (h : Rewritten (fun k => k = i ∨ written k) before after)
    (hi : written i ∨ ∀ g, before.file? i = some g → g = f) :
    Rewritten written before (after.modifyFile i fun _ => f) := by
  refine ⟨(modifyFile after i fun _ => f).size_eq.trans h.size_eq, fun k => ?_⟩
  by_cases hk : k = i
  · subst hk
    cases hb : before.file? k with
    | none =>
      have ha : after.file? k = none := by
        rw [← Option.not_isSome_iff_eq_none, h.isSome_file?, hb]
        simp
      rw [modifyFile_of_not_file _ ha]
      refine .inl ((h.node? k).resolve_right ?_)
      rintro ⟨-, g, -, hg, -⟩
      rw [file?_eq_some_iff.2 hg] at hb
      cases hb
    | some g =>
      obtain ⟨g', ha⟩ : ∃ g', after.file? k = some g' := by
        rw [← Option.isSome_iff_exists, h.isSome_file?, hb]
        rfl
      rw [modifyFile_of_file? _ ha, node?_set_self _ _ (lt_size_of_node? (node?_of_file? ha))]
      rcases hi with hw | hsame
      · exact .inr ⟨hw, g, f, node?_of_file? hb, rfl⟩
      · rw [← hsame g hb]
        exact .inl (node?_of_file? hb).symm
  · rw [node?_modifyFile_of_ne after _ hk]
    exact (h.node? k).imp_right fun ⟨hw, hfile⟩ => ⟨hw.resolve_left hk, hfile⟩

end Rewritten

theorem WellFormed.rewritten (hwf : before.WellFormed) (h : Rewritten written before after) :
    after.WellFormed := by
  refine ⟨?_, ?_, ?_, ?_, ?_, ?_, ?_⟩
  · rw [h.directory?]
    exact hwf.root
  · intro i d hd
    rw [h.directory?] at hd ⊢
    exact hwf.parent hd
  · intro i d e hd he
    rw [h.directory?] at hd
    exact hwf.isEntryName hd he
  · intro i d e hd he
    rw [h.directory?] at hd
    rw [h.size_eq]
    exact hwf.lt_size hd he
  · intro i d b e hd he hb
    rw [h.directory?] at hd hb
    exact hwf.parent_eq hd he hb
  · intro i d hd
    rw [h.directory?] at hd
    exact hwf.nodup hd
  · intro i target ht
    rw [h.link?] at ht
    exact hwf.no_nul ht

/-! ## Nodes that are added -/

section Add

variable {directory : Inode} {d : Directory} {name : String} {n : Node}

/-- What a new node may be: a file, or a directory with no names yet, below the one that names
it. -/
inductive IsFresh (directory : Inode) : Node → Prop where
  | file (f : File) : IsFresh directory (.file f)
  | directory : IsFresh directory (.directory ⟨directory, [], false⟩)

/-- The directories after a node is added: the one with the new name, the new one, the old ones. -/
theorem directory?_add (hd : fs.directory? directory = some d) (hn : IsFresh directory n)
    {i : Inode} {e : Directory} (h : (fs.add directory name n).directory? i = some e) :
    (i = directory ∧ e = { d with entries := d.entries ++ [(name, fs.nodes.size)] }) ∨
      (i = fs.nodes.size ∧ e = ⟨directory, [], false⟩) ∨
      (i ≠ directory ∧ i < fs.nodes.size ∧ fs.directory? i = some e) := by
  rw [directory?_eq_some_iff] at h
  by_cases hi : i = directory
  · subst hi
    rw [node?_add_directory name n hd] at h
    simp only [Option.some.injEq, Node.directory.injEq] at h
    exact .inl ⟨rfl, h.symm⟩
  · by_cases hs : i = fs.nodes.size
    · subst hs
      rw [node?_add_size name n hd] at h
      cases hn with
      | file f => simp at h
      | directory =>
        simp only [Option.some.injEq, Node.directory.injEq] at h
        exact .inr (.inl ⟨rfl, h.symm⟩)
    · rw [node?_add_of_ne name n hd hi hs] at h
      exact .inr (.inr ⟨hi, lt_size_of_node? h, directory?_eq_some_iff.2 h⟩)

theorem exists_directory?_add (name : String) (n : Node) (hd : fs.directory? directory = some d)
    {i : Inode} {e : Directory} (he : fs.directory? i = some e) :
    ∃ e', (fs.add directory name n).directory? i = some e' ∧ e'.parent = e.parent := by
  by_cases hi : i = directory
  · subst hi
    obtain rfl : d = e := by simpa [hd] using he
    exact ⟨_, directory?_eq_some_iff.2 (node?_add_directory name n hd), rfl⟩
  · have hn := directory?_eq_some_iff.1 he
    have hs := Nat.ne_of_lt (lt_size_of_node? hn)
    exact ⟨e, directory?_eq_some_iff.2 ((node?_add_of_ne name n hd hi hs).trans hn), rfl⟩

/-- A name that is free comes to stand for one node. -/
theorem nodup_entries_append (hnodup : (d.entries.map Prod.fst).Nodup)
    (hfree : d.entries.lookup name = none) (i : Inode) :
    ((d.entries ++ [(name, i)]).map Prod.fst).Nodup := by
  rw [List.map_append, List.nodup_append]
  refine ⟨hnodup, by simp, fun a ha b hb => ?_⟩
  obtain rfl : b = name := by simpa using hb
  rintro rfl
  obtain ⟨x, hx, rfl⟩ := List.mem_map.1 ha
  rw [List.lookup_eq_none_iff] at hfree
  simpa using hfree x hx

theorem WellFormed.add (hwf : fs.WellFormed) (hd : fs.directory? directory = some d)
    (hname : IsEntryName name) (hfree : d.entries.lookup name = none)
    (hn : IsFresh directory n) : (fs.add directory name n).WellFormed := by
  have hsize := size_add name n hd
  refine ⟨?_, ?_, ?_, ?_, ?_, ?_, ?_⟩
  · obtain ⟨r, hr, hp⟩ := hwf.root
    obtain ⟨r', hr', hp'⟩ := exists_directory?_add name n hd hr
    exact ⟨r', hr', hp'.trans hp⟩
  · intro i e he
    have hold {p : Inode} (hp : (fs.directory? p).isSome) :
        ((fs.add directory name n).directory? p).isSome := by
      obtain ⟨q, hq⟩ := Option.isSome_iff_exists.1 hp
      obtain ⟨q', hq', -⟩ := exists_directory?_add name n hd hq
      simp [hq']
    rcases directory?_add hd hn he with ⟨-, rfl⟩ | ⟨-, rfl⟩ | ⟨-, -, he⟩
    · exact hold (show (fs.directory? d.parent).isSome from hwf.parent hd)
    · exact hold (by simp [hd])
    · exact hold (hwf.parent he)
  · intro i e x he hx
    rcases directory?_add hd hn he with ⟨-, rfl⟩ | ⟨-, rfl⟩ | ⟨-, -, he⟩
    · rcases List.mem_append.1 hx with hx | hx
      · exact hwf.isEntryName hd hx
      · rw [List.mem_singleton.1 hx]
        exact hname
    · simp at hx
    · exact hwf.isEntryName he hx
  · intro i e x he hx
    rw [hsize]
    rcases directory?_add hd hn he with ⟨-, rfl⟩ | ⟨-, rfl⟩ | ⟨-, -, he⟩
    · rcases List.mem_append.1 hx with hx | hx
      · exact Nat.lt_succ_of_lt (hwf.lt_size hd hx)
      · rw [List.mem_singleton.1 hx]
        exact Nat.lt_succ_self _
    · simp at hx
    · exact Nat.lt_succ_of_lt (hwf.lt_size he hx)
  · intro i e b x he hx hb
    -- An old entry names an old node, so the directory there was one before.
    have hold {e₀ : Directory} (he₀ : fs.directory? i = some e₀) (hx₀ : x ∈ e₀.entries) :
        b.parent = i := by
      rcases directory?_add hd hn hb with ⟨hxd, rfl⟩ | ⟨hxs, -⟩ | ⟨-, -, hb⟩
      · have hparent : d.parent = i := hwf.parent_eq he₀ hx₀ (hxd ▸ hd)
        exact hparent
      · exact absurd hxs (Nat.ne_of_lt (hwf.lt_size he₀ hx₀))
      · exact hwf.parent_eq he₀ hx₀ hb
    rcases directory?_add hd hn he with ⟨rfl, rfl⟩ | ⟨-, rfl⟩ | ⟨-, -, he⟩
    · rcases List.mem_append.1 hx with hx | hx
      · exact hold hd hx
      · obtain rfl := List.mem_singleton.1 hx
        rw [directory?_eq_some_iff, node?_add_size name n hd] at hb
        cases hn with
        | file f => simp at hb
        | directory =>
          simp only [Option.some.injEq, Node.directory.injEq] at hb
          rw [← hb]
    · simp at hx
    · exact hold he hx
  · intro i e he
    rcases directory?_add hd hn he with ⟨-, rfl⟩ | ⟨-, rfl⟩ | ⟨-, -, he⟩
    · exact nodup_entries_append (hwf.nodup hd) hfree _
    · simp
    · exact hwf.nodup he
  · intro i target ht
    rw [link?_eq_some_iff] at ht
    have hlt := lt_size_of_node? ht
    rw [hsize] at hlt
    by_cases hi : i = directory
    · subst hi
      rw [node?_add_directory name n hd] at ht
      simp at ht
    · by_cases hs : i = fs.nodes.size
      · subst hs
        rw [node?_add_size name n hd] at ht
        cases hn <;> simp at ht
      · rw [node?_add_of_ne name n hd hi hs] at ht
        exact hwf.no_nul (link?_eq_some_iff.2 ht)

/-! ## Second names -/

theorem size_enter {i : Inode} : (fs.enter directory name i).nodes.size = fs.nodes.size := by
  unfold enter
  split <;> simp

theorem directory?_enter_self (i : Inode) (hd : fs.directory? directory = some d) :
    (fs.enter directory name i).directory? directory =
      some { d with entries := d.entries ++ [(name, i)] } := by
  rw [directory?_eq_some_iff, enter, hd]
  exact node?_set_self fs _ (lt_size_of_node? (directory?_eq_some_iff.1 hd))

/-- A name in a directory leaves the other nodes as they are. -/
theorem node?_enter_of_ne {i j : Inode} (hj : j ≠ directory) :
    (fs.enter directory name i).node? j = fs.node? j := by
  unfold enter
  split
  · exact node?_set_of_ne fs _ hj
  · rfl

theorem directory?_enter_of_ne {i j : Inode} (hj : j ≠ directory) :
    (fs.enter directory name i).directory? j = fs.directory? j := by
  rw [directory?, directory?, node?_enter_of_ne hj]

/-- A file may have a second name. -/
theorem WellFormed.enter {i : Inode} (hwf : fs.WellFormed) (hd : fs.directory? directory = some d)
    (hname : IsEntryName name) (hfree : d.entries.lookup name = none) (hi : i < fs.nodes.size)
    (hfile : fs.directory? i = none) : (fs.enter directory name i).WellFormed := by
  have hself : (fs.enter directory name i).directory? directory =
      some { d with entries := d.entries ++ [(name, i)] } := directory?_enter_self i hd
  -- What was a directory still is one with the same parent, and nothing else has become one.
  have hsome {j : Inode} {e : Directory} (he : fs.directory? j = some e) :
      ∃ e', (fs.enter directory name i).directory? j = some e' ∧ e'.parent = e.parent := by
    by_cases hj : j = directory
    · subst hj
      rw [hd] at he
      cases he
      exact ⟨_, hself, rfl⟩
    · exact ⟨e, by rwa [directory?_enter_of_ne hj], rfl⟩
  have hcases {j : Inode} {e : Directory} (he : (fs.enter directory name i).directory? j = some e) :
      ∃ e₀, fs.directory? j = some e₀ ∧ e.parent = e₀.parent ∧ (e.entries = e₀.entries ∨
        e₀ = d ∧ e.entries = d.entries ++ [(name, i)]) := by
    by_cases hj : j = directory
    · subst hj
      rw [hself] at he
      cases he
      exact ⟨d, hd, rfl, .inr ⟨rfl, rfl⟩⟩
    · rw [directory?_enter_of_ne hj] at he
      exact ⟨e, he, rfl, .inl rfl⟩
  have hmem {j : Inode} {e : Directory} {x : String × Inode}
      (he : (fs.enter directory name i).directory? j = some e) (hx : x ∈ e.entries) :
      (∃ e₀, fs.directory? j = some e₀ ∧ x ∈ e₀.entries) ∨ x = (name, i) := by
    obtain ⟨e₀, he₀, -, hsame | ⟨rfl, hmore⟩⟩ := hcases he
    · exact .inl ⟨e₀, he₀, hsame ▸ hx⟩
    · rw [hmore, List.mem_append, List.mem_singleton] at hx
      exact hx.imp_left fun hx => ⟨e₀, he₀, hx⟩
  refine ⟨?_, ?_, ?_, ?_, ?_, ?_, ?_⟩
  · obtain ⟨r, hr, hp⟩ := hwf.root
    obtain ⟨r', hr', hp'⟩ := hsome hr
    exact ⟨r', hr', hp'.trans hp⟩
  · intro j e he
    obtain ⟨e₀, he₀, hp, -⟩ := hcases he
    obtain ⟨q, hq⟩ := Option.isSome_iff_exists.1 (hwf.parent he₀)
    obtain ⟨q', hq', -⟩ := hsome hq
    rw [hp, hq']
    rfl
  · intro j e x he hx
    rcases hmem he hx with ⟨e₀, he₀, hx⟩ | rfl
    · exact hwf.isEntryName he₀ hx
    · exact hname
  · intro j e x he hx
    rw [size_enter]
    rcases hmem he hx with ⟨e₀, he₀, hx⟩ | rfl
    · exact hwf.lt_size he₀ hx
    · exact hi
  · intro j e b x he hx hb
    obtain ⟨b₀, hb₀, hp, -⟩ := hcases hb
    rw [hp]
    rcases hmem he hx with ⟨e₀, he₀, hx⟩ | rfl
    · exact hwf.parent_eq he₀ hx hb₀
    · rw [hfile] at hb₀
      cases hb₀
  · intro j e he
    obtain ⟨e₀, he₀, -, hsame | ⟨rfl, hmore⟩⟩ := hcases he
    · rw [hsame]
      exact hwf.nodup he₀
    · rw [hmore]
      exact nodup_entries_append (hwf.nodup hd) hfree i
  · intro j target ht
    by_cases hj : j = directory
    · subst hj
      rw [link?, directory?_eq_some_iff.1 hself] at ht
      cases ht
    · rw [link?, node?_enter_of_ne hj] at ht
      exact hwf.no_nul ht

end Add

end FileSystem

end DeviceLauncher
