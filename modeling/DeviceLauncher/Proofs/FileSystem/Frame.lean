import DeviceLauncher.Proofs.FileSystem.WellFormed

/-!
# What a change leaves alone

`Frame written created made before after` says how a file system may have become another one:

* a file with an inode in `written` may have been written;
* a node that was not there is a file with an inode in `created`, or a directory with an inode in
  `made`; it has one name, in a directory that has not been removed;
* everything else is as it was: no name is lost, and each leads to the inode that it led to.

Frames compose (`Frame.trans`). The single changes have one: `Frame.of_rewritten` for files written
in place, `Frame.add` for what is added.
-/

namespace DeviceLauncher

/-- What may become of a node, given whether a file may be written and which inodes are new. -/
inductive Node.Keeps (rewritable : Prop) (isNew : Inode → Prop) : Node → Node → Prop where
  | same (n : Node) : Keeps rewritable isNew n n
  | file (f g : File) : rewritable → Keeps rewritable isNew (.file f) (.file g)
  | directory (d : Directory) (more : List (String × Inode)) :
      (∀ e ∈ more, isNew e.2) → d.removed = false →
        Keeps rewritable isNew (.directory d) (.directory { d with entries := d.entries ++ more })

namespace FileSystem

/-- The inodes that a file system has and an earlier one had not. -/
def IsNew (before after : FileSystem) (i : Inode) : Prop :=
  before.nodes.size ≤ i ∧ i < after.nodes.size

/-- How `after` may differ from `before`. -/
structure Frame (written created made : Inode → Prop) (before after : FileSystem) : Prop where
  old {i : Inode} {n : Node} : before.node? i = some n →
    ∃ n', after.node? i = some n' ∧ n.Keeps (written i) (IsNew before after) n'
  new {i : Inode} {n : Node} : before.nodes.size ≤ i → after.node? i = some n →
    (∃ f, n = .file f ∧ created i) ∨
      ∃ d, n = .directory d ∧ made i ∧ d.removed = false ∧ ∀ e ∈ d.entries, IsNew before after e.2
  /-- A new node has one name. -/
  name_unique {i j k : Inode} {d e : Directory} {x y : String} : IsNew before after k →
    after.directory? i = some d → (x, k) ∈ d.entries →
      after.directory? j = some e → (y, k) ∈ e.entries → i = j ∧ x = y

/-- A frame that says nothing of the files and directories that changed. -/
abbrev Grows : FileSystem → FileSystem → Prop :=
  Frame (fun _ => True) (fun _ => True) (fun _ => True)

namespace Frame

variable {before after last : FileSystem} {written created made : Inode → Prop}
  {written' created' made' : Inode → Prop}

theorem size_le (h : Frame written created made before after) :
    before.nodes.size ≤ after.nodes.size := by
  refine Nat.le_of_not_lt fun hlt => ?_
  obtain ⟨n, hn⟩ := exists_node?_iff.2 hlt
  obtain ⟨n', hn', -⟩ := h.old hn
  exact Nat.lt_irrefl _ (lt_size_of_node? hn')

theorem mono (h : Frame written created made before after) (hw : ∀ i, written i → written' i)
    (hc : ∀ i, created i → created' i) (hm : ∀ i, made i → made' i) :
    Frame written' created' made' before after := by
  refine ⟨fun {i n} hn => ?_, fun {i n} hi hn => ?_, h.name_unique⟩
  · obtain ⟨n', hn', hk⟩ := h.old hn
    refine ⟨n', hn', ?_⟩
    cases hk with
    | same => exact .same _
    | file f g hwi => exact .file f g (hw i hwi)
    | directory d more hnew hr => exact .directory d more hnew hr
  · rcases h.new hi hn with ⟨f, rfl, hci⟩ | ⟨d, rfl, hmi, hd⟩
    · exact .inl ⟨f, rfl, hc i hci⟩
    · exact .inr ⟨d, rfl, hm i hmi, hd⟩

theorem grows (h : Frame written created made before after) : Grows before after :=
  h.mono (fun _ _ => trivial) (fun _ _ => trivial) (fun _ _ => trivial)

/-! ## What is still there -/

theorem directory? (h : Frame written created made before after) {i : Inode} {d : Directory}
    (hd : before.directory? i = some d) :
    ∃ more, after.directory? i = some { d with entries := d.entries ++ more } ∧
      ∀ e ∈ more, IsNew before after e.2 := by
  obtain ⟨n', hn', hk⟩ := h.old (directory?_eq_some_iff.1 hd)
  cases hk with
  | same => exact ⟨[], by simpa using directory?_eq_some_iff.2 hn', by simp⟩
  | directory d more hnew hr => exact ⟨more, directory?_eq_some_iff.2 hn', hnew⟩

/-- What was no directory is none. -/
theorem directory?_eq_none (h : Frame written created made before after) {i : Inode}
    (hi : i < before.nodes.size) (hd : before.directory? i = none) :
    after.directory? i = none := by
  obtain ⟨n, hn⟩ := exists_node?_iff.2 hi
  obtain ⟨n', hn', hk⟩ := h.old hn
  cases hk with
  | same => rw [FileSystem.directory?, hn', ← hn, ← FileSystem.directory?, hd]
  | file f g hw => rw [FileSystem.directory?, hn']
  | directory d more hnew hr => rw [directory?_eq_some_iff.2 hn] at hd; cases hd

theorem isSome_directory? (h : Frame written created made before after) {i : Inode}
    (hi : i < before.nodes.size) :
    (after.directory? i).isSome = (before.directory? i).isSome := by
  cases hd : before.directory? i with
  | none => rw [h.directory?_eq_none hi hd]
  | some d =>
    obtain ⟨more, hd', -⟩ := h.directory? hd
    rw [hd']
    rfl

theorem link? (h : Frame written created made before after) {i : Inode}
    (hi : i < before.nodes.size) : after.link? i = before.link? i := by
  obtain ⟨n, hn⟩ := exists_node?_iff.2 hi
  obtain ⟨n', hn', hk⟩ := h.old hn
  rw [FileSystem.link?, FileSystem.link?, hn, hn']
  cases hk <;> rfl

/-- No link is new. -/
theorem link?_eq_none (h : Frame written created made before after) {i : Inode}
    (hi : before.nodes.size ≤ i) : after.link? i = none := by
  cases ht : after.link? i with
  | none => rfl
  | some target =>
    rcases h.new hi (link?_eq_some_iff.1 ht) with ⟨f, hf, -⟩ | ⟨d, hd, -⟩
    · cases hf
    · cases hd

theorem exists_file? (h : Frame written created made before after) {i : Inode} {f : File}
    (hf : before.file? i = some f) : ∃ g, after.file? i = some g := by
  obtain ⟨n', hn', hk⟩ := h.old (node?_of_file? hf)
  cases hk with
  | same => exact ⟨f, file?_eq_some_iff.2 hn'⟩
  | file f g hw => exact ⟨g, file?_eq_some_iff.2 hn'⟩

/-- What was no file is none. -/
theorem file?_eq_none (h : Frame written created made before after) {i : Inode}
    (hi : i < before.nodes.size) (hf : before.file? i = none) : after.file? i = none := by
  obtain ⟨n, hn⟩ := exists_node?_iff.2 hi
  obtain ⟨n', hn', hk⟩ := h.old hn
  cases hk with
  | same => rw [FileSystem.file?, hn', ← hn, ← FileSystem.file?, hf]
  | file f g hw => rw [file?_eq_some_iff.2 hn] at hf; cases hf
  | directory d more hnew hr => rw [FileSystem.file?, hn']

/-- A file that may not be written is as it was. -/
theorem file?_of_not (h : Frame written created made before after) {i : Inode} {f : File}
    (hf : before.file? i = some f) (hi : ¬ written i) : after.file? i = some f := by
  obtain ⟨n', hn', hk⟩ := h.old (node?_of_file? hf)
  cases hk with
  | same => exact file?_eq_some_iff.2 hn'
  | file f g hw => exact absurd hw hi

/-- Where no file may be written, all files but those that may be created are the same. -/
theorem file?_eq (h : Frame (fun _ => False) created made before after) {i : Inode}
    (hi : ¬ created i) : after.file? i = before.file? i := by
  cases hf : before.file? i with
  | some f => exact h.file?_of_not hf id
  | none =>
    by_cases hlt : i < before.nodes.size
    · exact h.file?_eq_none hlt hf
    · cases hn : after.node? i with
      | none => simp [FileSystem.file?, hn]
      | some n =>
        obtain ⟨f, -, hc⟩ | ⟨d, rfl, -⟩ := h.new (Nat.not_lt.1 hlt) hn
        · exact absurd hc hi
        · simp [FileSystem.file?, hn]

/-- A name leads to a new node, or it was there before. -/
theorem mem_entries (h : Frame written created made before after) {i : Inode} {d : Directory}
    {e : String × Inode} (hd : after.directory? i = some d) (he : e ∈ d.entries) :
    IsNew before after e.2 ∨ ∃ d₀, before.directory? i = some d₀ ∧ e ∈ d₀.entries := by
  have hn := directory?_eq_some_iff.1 hd
  by_cases hi : i < before.nodes.size
  · obtain ⟨n, hn₀⟩ := exists_node?_iff.2 hi
    obtain ⟨n', hn', hk⟩ := h.old hn₀
    rw [hn] at hn'
    cases hn'
    cases hk with
    | same => exact .inr ⟨d, directory?_eq_some_iff.2 hn₀, he⟩
    | directory d₀ more hnew hr =>
      rcases List.mem_append.1 he with he | he
      · exact .inr ⟨d₀, directory?_eq_some_iff.2 hn₀, he⟩
      · exact .inl (hnew e he)
  · rcases h.new (Nat.not_lt.1 hi) hn with ⟨f, hf, -⟩ | ⟨d', hd', -, -, hnew⟩
    · cases hf
    · cases hd'
      exact .inl (hnew e he)

/-! ## Frames of changes -/

theorem of_rewritten (h : Rewritten written before after) :
    Frame written created made before after := by
  refine ⟨fun {i n} hn => ?_, fun {i n} hi hn => ?_, fun {i j k d e x y} hk => ?_⟩
  · rcases h.node? i with he | ⟨hi, f, g, hf, hg⟩
    · exact ⟨n, he.trans hn, .same n⟩
    · obtain rfl : n = .file f := by simpa [hn] using hf
      exact ⟨.file g, hg, .file f g hi⟩
  · have := lt_size_of_node? hn
    rw [h.size_eq] at this
    exact absurd this (Nat.not_lt.2 hi)
  · exact absurd (h.size_eq ▸ hk.2) (Nat.not_lt.2 hk.1)

theorem refl (fs : FileSystem) : Frame written created made fs fs :=
  of_rewritten (.refl written fs)

/-- One frame after another. -/
theorem trans (h : Frame written created made before after)
    (h' : Frame written created made after last) : Frame written created made before last := by
  have hle := h.size_le
  have hle' := h'.size_le
  have hnew {k : Inode} (hk : IsNew before after k) : IsNew before last k :=
    ⟨hk.1, Nat.lt_of_lt_of_le hk.2 hle'⟩
  have hnew' {k : Inode} (hk : IsNew after last k) : IsNew before last k :=
    ⟨Nat.le_trans hle hk.1, hk.2⟩
  refine ⟨fun {i n} hn => ?_, fun {i n} hi hn => ?_, fun {i j k d e x y} hk hd hx he hy => ?_⟩
  · obtain ⟨n', hn', hk⟩ := h.old hn
    obtain ⟨n'', hn'', hk'⟩ := h'.old hn'
    refine ⟨n'', hn'', ?_⟩
    cases hk with
    | same =>
      cases hk' with
      | same => exact .same n
      | file f g hw => exact .file f g hw
      | directory d more hm hr => exact .directory d more (fun e he => hnew' (hm e he)) hr
    | file f g hw =>
      cases hk' with
      | same => exact .file f g hw
      | file _ g' hw' => exact .file f g' hw'
    | directory d more hm hr =>
      cases hk' with
      | same => exact .directory d more (fun e he => hnew (hm e he)) hr
      | directory _ more' hm' hr' =>
        rw [List.append_assoc]
        refine .directory d (more ++ more') (fun e he => ?_) hr
        rcases List.mem_append.1 he with he | he
        · exact hnew (hm e he)
        · exact hnew' (hm' e he)
  · by_cases hi' : after.nodes.size ≤ i
    · rcases h'.new hi' hn with hf | ⟨d, rfl, hmade, hr, hent⟩
      · exact .inl hf
      · exact .inr ⟨d, rfl, hmade, hr, fun e he => hnew' (hent e he)⟩
    · obtain ⟨n₀, hn₀⟩ := exists_node?_iff.2 (Nat.not_le.1 hi')
      obtain ⟨n', hn', hk⟩ := h'.old hn₀
      rw [hn] at hn'
      cases hn'
      rcases h.new hi hn₀ with ⟨f, rfl, hc⟩ | ⟨d, rfl, hmade, hr, hent⟩
      · cases hk with
        | same => exact .inl ⟨f, rfl, hc⟩
        | file _ g hw => exact .inl ⟨g, rfl, hc⟩
      · cases hk with
        | same => exact .inr ⟨d, rfl, hmade, hr, fun e he => hnew (hent e he)⟩
        | directory _ more hm _ =>
          refine .inr ⟨_, rfl, hmade, hr, fun e he => ?_⟩
          rcases List.mem_append.1 he with he | he
          · exact hnew (hent e he)
          · exact hnew' (hm e he)
  · by_cases hk' : after.nodes.size ≤ k
    · exact h'.name_unique ⟨hk', hk.2⟩ hd hx he hy
    · have hlt := Nat.not_le.1 hk'
      rcases h'.mem_entries hd hx with hbad | ⟨d₀, hd₀, hx₀⟩
      · exact absurd hbad.1 hk'
      rcases h'.mem_entries he hy with hbad | ⟨e₀, he₀, hy₀⟩
      · exact absurd hbad.1 hk'
      exact h.name_unique ⟨hk.1, hlt⟩ hd₀ hx₀ he₀ hy₀

/-- The frame of adding a node. -/
theorem add {fs : FileSystem} {directory : Inode} {d : Directory} {name : String} {n : Node}
    (hwf : fs.WellFormed) (hd : fs.directory? directory = some d) (hr : d.removed = false)
    (hn : IsFresh directory n)
    (hkind : (∃ f, n = .file f ∧ created fs.nodes.size) ∨
      n = .directory ⟨directory, [], false⟩ ∧ made fs.nodes.size) :
    Frame written created made fs (fs.add directory name n) := by
  have hsize := size_add name n hd
  have hnew : IsNew fs (fs.add directory name n) fs.nodes.size :=
    ⟨Nat.le_refl _, hsize ▸ Nat.lt_succ_self _⟩
  refine ⟨fun {i m} hm => ?_, fun {i m} hi hm => ?_, fun {i j k a b x y} hk ha hx hb hy => ?_⟩
  · by_cases hi : i = directory
    · subst hi
      rw [directory?_eq_some_iff.1 hd] at hm
      cases hm
      refine ⟨_, node?_add_directory name n hd, .directory d _ (fun e he => ?_) hr⟩
      rw [List.mem_singleton.1 he]
      exact hnew
    · have hs := Nat.ne_of_lt (lt_size_of_node? hm)
      exact ⟨m, (node?_add_of_ne name n hd hi hs).trans hm, .same m⟩
  · have hlt := lt_size_of_node? hm
    rw [hsize] at hlt
    obtain rfl : i = fs.nodes.size := Nat.le_antisymm (Nat.le_of_lt_succ hlt) hi
    rw [node?_add_size name n hd] at hm
    cases hm
    rcases hkind with ⟨f, rfl, hc⟩ | ⟨rfl, hmade⟩
    · exact .inl ⟨f, rfl, hc⟩
    · exact .inr ⟨_, rfl, hmade, rfl, by simp⟩
  · -- The one name of the new node is the one that it was added under.
    have hone {i : Inode} {a : Directory} {x : String}
        (ha : (fs.add directory name n).directory? i = some a) (hx : (x, k) ∈ a.entries) :
        i = directory ∧ x = name := by
      rcases directory?_add hd hn ha with ⟨rfl, rfl⟩ | ⟨-, rfl⟩ | ⟨-, -, ha⟩
      · rcases List.mem_append.1 hx with hx | hx
        · exact absurd (hwf.lt_size hd hx) (Nat.not_lt.2 hk.1)
        · exact ⟨rfl, congrArg Prod.fst (List.mem_singleton.1 hx)⟩
      · simp at hx
      · exact absurd (hwf.lt_size ha hx) (Nat.not_lt.2 hk.1)
    obtain ⟨rfl, rfl⟩ := hone ha hx
    obtain ⟨rfl, rfl⟩ := hone hb hy
    exact ⟨rfl, rfl⟩

end Frame

end FileSystem

end DeviceLauncher
