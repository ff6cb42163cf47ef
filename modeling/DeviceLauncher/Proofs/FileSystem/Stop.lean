import DeviceLauncher.Proofs.FileSystem.Walk

/-!
# Where a path is refused

`Stops fs purpose links here names e` gives the rules by which `walk` stops (`walk_eq_error_iff`),
as `Leads` gives those by which it gets to a place. With what the system will not look at in the
first place, they are all the ways in which a path is refused: `Refuses fs cwd path purpose r`
(`locate_eq_error_iff`).

What is to be written is refused for one of two reasons:

* `LacksDirectory`: links followed, the path does not lie in a directory that is there. A slash after
  the last name asks for a directory of that name.
* `IsRejected`: the path holds NUL, it or a name on its way is too long, or there are too many links
  on its way.

A path that is only looked at is refused if it or a name on its way is too long
(`look_eq_error_iff`); all else counts as nothing there.
-/

namespace DeviceLauncher.FileSystem

/-- How following names comes to nothing, with `links` links to follow at most. -/
inductive Stops (fs : FileSystem) (purpose : Purpose) :
    Nat → Inode → List String → Errno → Prop where
  | noDirectory {links : Nat} {here : Inode} {name : String} {rest : List String} :
      fs.directory? here = none → Stops fs purpose links here (name :: rest) .notDirectory
  | stay {links : Nat} {here : Inode} {d : Directory} {name : String} {rest : List String}
      {e : Errno} :
      fs.directory? here = some d → name = "" ∨ name = "." →
        Stops fs purpose links here rest e → Stops fs purpose links here (name :: rest) e
  | up {links : Nat} {here : Inode} {d : Directory} {rest : List String} {e : Errno} :
      fs.directory? here = some d → Stops fs purpose links d.parent rest e →
        Stops fs purpose links here (".." :: rest) e
  | slash {links : Nat} {here : Inode} {d : Directory} {name : String} :
      fs.directory? here = some d → ¬ (name = "" ∨ name = ".") → name ≠ ".." →
        purpose = .create → Stops fs purpose links here [name, ""] .isDirectory
  | tooLong {links : Nat} {here : Inode} {d : Directory} {name : String} {rest : List String} :
      fs.directory? here = some d → ¬ (name = "" ∨ name = ".") → name ≠ ".." →
        ¬ (purpose = .create ∧ rest = [""]) → longestName < name.utf8ByteSize →
          Stops fs purpose links here (name :: rest) .nameTooLong
  | missing {links : Nat} {here : Inode} {d : Directory} {name : String} {rest : List String} :
      fs.directory? here = some d → IsPlain name → ¬ (purpose = .create ∧ rest = [""]) →
        d.entries.lookup name = none → rest ≠ [] →
          Stops fs purpose links here (name :: rest) .notFound
  | enter {links : Nat} {here i : Inode} {d : Directory} {name : String} {rest : List String}
      {e : Errno} :
      fs.directory? here = some d → IsPlain name → ¬ (purpose = .create ∧ rest = [""]) →
        d.entries.lookup name = some i → fs.link? i = none →
          Stops fs purpose links i rest e → Stops fs purpose links here (name :: rest) e
  | loop {here i : Inode} {d : Directory} {name target : String} {rest : List String} :
      fs.directory? here = some d → IsPlain name → ¬ (purpose = .create ∧ rest = [""]) →
        d.entries.lookup name = some i → fs.link? i = some target →
          ¬ (rest = [] ∧ purpose = .findLink) → Stops fs purpose 0 here (name :: rest) .linkLoop
  | follow {links : Nat} {here i : Inode} {d : Directory} {name target : String}
      {rest : List String} {e : Errno} :
      fs.directory? here = some d → IsPlain name → ¬ (purpose = .create ∧ rest = [""]) →
        d.entries.lookup name = some i → fs.link? i = some target →
          ¬ (rest = [] ∧ purpose = .findLink) →
            Stops fs purpose links (routeStart here target)
              ((Route.ofString target).names ++ rest) e →
              Stops fs purpose (links + 1) here (name :: rest) e

/-- Why a path is refused that is followed for some purpose. -/
inductive Refuses (fs : FileSystem) (cwd : Inode) (path : String) (purpose : Purpose) :
    Refusal → Prop where
  | nul : '\x00' ∈ path.toList → Refuses fs cwd path purpose .nul
  | empty : path = "" → Refuses fs cwd path purpose (.errno .notFound)
  | tooLong : '\x00' ∉ path.toList → pathLimit ≤ path.utf8ByteSize →
      Refuses fs cwd path purpose (.errno .nameTooLong)
  | stop {e : Errno} : IsAdmissible path →
      Stops fs purpose mostLinks (routeStart cwd path) (Route.ofString path).names e →
        Refuses fs cwd path purpose (.errno e)

/-- Whether what is to be written would not lie in a directory that is there. -/
def LacksDirectory (fs : FileSystem) (cwd : Inode) (path : String) : Prop :=
  Refuses fs cwd path .create (.errno .notFound) ∨
    Refuses fs cwd path .create (.errno .notDirectory) ∨
    Refuses fs cwd path .create (.errno .isDirectory) ∨
    ∃ i name, fs.locate cwd path .create = .ok (.free i name) ∧
      (fs.directory? i).any Directory.removed = true

/-- Whether the system does not follow a path at which something is to be written. -/
def IsRejected (fs : FileSystem) (cwd : Inode) (path : String) : Prop :=
  Refuses fs cwd path .create .nul ∨ Refuses fs cwd path .create (.errno .nameTooLong) ∨
    Refuses fs cwd path .create (.errno .linkLoop)

variable {fs before after : FileSystem} {written : Inode → Prop} {purpose : Purpose} {links : Nat}
  {here cwd : Inode} {names : List String} {path : String} {e : Errno} {r : Refusal}

/-! ## Following names -/

/-- The rules are those of `walk`. -/
theorem walk_eq_error_iff :
    fs.walk purpose links here names = .error e ↔ Stops fs purpose links here names e := by
  constructor
  · intro h
    fun_induction fs.walk purpose links here names with
    | case1 | case7 | case10 => cases h
    | case2 links here name rest hd => cases h; exact .noDirectory hd
    | case3 links here name rest d hd hname ih => exact .stay hd hname (ih h)
    | case4 links here rest d hd _ ih => exact .up hd (ih h)
    | case5 links here name rest d hd hn hup hc =>
      cases h
      obtain ⟨hp, rfl⟩ := hc
      exact .slash hd hn hup hp
    | case6 links here name rest d hd hn hup hc hlen => cases h; exact .tooLong hd hn hup hc hlen
    | case8 links here name rest d hd hn hup hc hlen hl hrest =>
      cases h
      exact .missing hd (.of_not hn hup hlen) hc hl fun hnil => hrest (by rw [hnil]; rfl)
    | case9 links here name rest d hd hn hup hc hlen i hl hi ih =>
      exact .enter hd (.of_not hn hup hlen) hc hl hi (ih h)
    | case11 here name rest d hd hn hup hc hlen i hl target hi hlast =>
      cases h
      exact .loop hd (.of_not hn hup hlen) hc hl hi fun hl => hlast ⟨by simp [hl.1], hl.2⟩
    | case12 here name rest d hd hn hup hc hlen i hl target hi hlast links route start ih =>
      exact .follow hd (.of_not hn hup hlen) hc hl hi (fun hl => hlast ⟨by simp [hl.1], hl.2⟩)
        (ih h)
  · intro h
    induction h with
    | noDirectory hd => rw [walk]; simp [hd]
    | stay hd hname _ ih => rw [walk]; simp [hd, hname, ih]
    | up hd _ ih => rw [walk]; simp [hd, ih]
    | slash hd hn hup hp => rw [walk]; simp [hd, hn, hup, hp]
    | tooLong hd hn hup hc hlen => rw [walk]; simp [hd, hn, hup, hc, hlen]
    | missing hd hn hc hl hrest =>
      rw [walk]
      simp [hd, hn.ne_empty, hn.ne_dot, hn.ne_up, Nat.not_lt.2 hn.length_le, hc, hl, hrest]
    | enter hd hn hc hl hi _ ih =>
      rw [walk]
      simp [hd, hn.ne_empty, hn.ne_dot, hn.ne_up, Nat.not_lt.2 hn.length_le, hc, hl, hi, ih]
    | loop hd hn hc hl hi hlast =>
      rw [walk]
      simp [hd, hn.ne_empty, hn.ne_dot, hn.ne_up, Nat.not_lt.2 hn.length_le, hc, hl, hi, hlast]
    | follow hd hn hc hl hi hlast _ ih =>
      rw [walk]
      simp only [hd, hn.ne_empty, hn.ne_dot, hn.ne_up, Nat.not_lt.2 hn.length_le, hc, hl, hi,
        or_self, if_false, List.isEmpty_iff, hlast]
      exact ih

/-- There are few ways to stop, and one of them is kept for what is to be written. -/
theorem Stops.errno_cases (h : Stops fs purpose links here names e) :
    e = .notFound ∨ e = .notDirectory ∨ e = .nameTooLong ∨ e = .linkLoop ∨
      e = .isDirectory ∧ purpose = .create := by
  induction h with
  | noDirectory | tooLong | missing | loop => simp
  | slash _ _ _ hp => simp [hp]
  | stay _ _ _ ih | up _ _ ih | enter _ _ _ _ _ _ ih | follow _ _ _ _ _ _ _ ih => exact ih

/-! ## Paths -/

/-- The reasons to refuse a path are those of `locate`. -/
theorem locate_eq_error_iff :
    fs.locate cwd path purpose = .error r ↔ Refuses fs cwd path purpose r := by
  rw [locate]
  constructor
  · intro h
    split at h
    · next hnul =>
      cases h
      exact .nul (by simpa using hnul)
    next hnul =>
    replace hnul : '\x00' ∉ path.toList := by simpa using hnul
    split at h
    · next hempty =>
      cases h
      exact .empty (by simpa using hempty)
    next hempty =>
    split at h
    · next hlong =>
      cases h
      exact .tooLong hnul hlong
    next hlong =>
    have hp : IsAdmissible path := ⟨hnul, by simpa using hempty, Nat.not_le.1 hlong⟩
    cases hw : fs.walk purpose mostLinks (routeStart cwd path) (Route.ofString path).names with
    | error e =>
      rw [routeStart] at hw
      simp only [hw, Except.mapError, Except.error.injEq] at h
      subst h
      exact .stop hp (walk_eq_error_iff.1 hw)
    | ok place =>
      rw [routeStart] at hw
      simp [hw, Except.mapError] at h
  · intro h
    cases h with
    | nul hnul => simp [hnul]
    | empty hempty => simp [hempty]
    | tooLong hnul hlong =>
      have hempty : path ≠ "" := by
        rintro rfl
        simp [pathLimit] at hlong
      simp [hnul, hempty, hlong]
    | stop hp hs =>
      have hw := walk_eq_error_iff.2 hs
      rw [routeStart] at hw
      simp [hp.no_nul, hp.ne_empty, Nat.not_le.2 hp.length_lt, hw, Except.mapError]

theorem Refuses.cases (h : Refuses fs cwd path purpose r) :
    r = .nul ∨ r = .errno .notFound ∨ r = .errno .notDirectory ∨ r = .errno .nameTooLong ∨
      r = .errno .linkLoop ∨ r = .errno .isDirectory ∧ purpose = .create := by
  cases h with
  | nul => simp
  | empty => simp
  | tooLong => simp
  | stop _ hs => simpa using hs.errno_cases

/-- Nothing can be written at a path that is refused, nor at a new name in a directory that has been
removed. -/
theorem lacksDirectory_or_isRejected_iff :
    fs.LacksDirectory cwd path ∨ fs.IsRejected cwd path ↔
      (∃ r, Refuses fs cwd path .create r) ∨
        ∃ i name, fs.locate cwd path .create = .ok (.free i name) ∧
          (fs.directory? i).any Directory.removed = true := by
  constructor
  · rintro ((h | h | h | h) | h | h | h)
    · exact .inl ⟨_, h⟩
    · exact .inl ⟨_, h⟩
    · exact .inl ⟨_, h⟩
    · exact .inr h
    · exact .inl ⟨_, h⟩
    · exact .inl ⟨_, h⟩
    · exact .inl ⟨_, h⟩
  · rintro (⟨r, h⟩ | h)
    · rcases h.cases with rfl | rfl | rfl | rfl | rfl | ⟨rfl, -⟩
      · exact .inr (.inl h)
      · exact .inl (.inl h)
      · exact .inl (.inr (.inl h))
      · exact .inr (.inr (.inl h))
      · exact .inr (.inr (.inr h))
      · exact .inl (.inr (.inr (.inl h)))
    · exact .inl (.inr (.inr (.inr h)))

theorem find_eq_error_iff : fs.find cwd path = .error r ↔
    Refuses fs cwd path .find r ∨
      r = .errno .notFound ∧ ∃ d name, fs.locate cwd path .find = .ok (.free d name) := by
  rw [← locate_eq_error_iff, find]
  cases fs.locate cwd path .find with
  | error r' => simp [bind, Except.bind]
  | ok place => cases place <;> simp [bind, Except.bind, Place.inode, eq_comm]

/-- Looking at a path is refused only for its length or that of a name on its way. -/
theorem look_eq_error_iff :
    fs.look cwd path = .error e ↔
      e = .nameTooLong ∧ Refuses fs cwd path .find (.errno .nameTooLong) := by
  constructor
  · intro h
    rw [look] at h
    split at h
    · cases h
    · cases h
    · next e' hf =>
      split at h
      · cases h
      next hpresent =>
      cases h
      rcases find_eq_error_iff.1 hf with hr | ⟨he, -⟩
      · -- Of the answers to a path that is looked at, only this one does not mean absence.
        rcases hr.cases with he | he | he | he | he | ⟨-, he⟩ <;> cases he
        exacts [absurd rfl hpresent, absurd rfl hpresent, ⟨rfl, hr⟩, absurd rfl hpresent]
      · cases he
        exact absurd rfl hpresent
  · rintro ⟨rfl, hr⟩
    simp [look, find_eq_error_iff.2 (.inl hr), Errno.meansAbsent]

/-! ## Files that are written in place -/

theorem Rewritten.refuses (h : Rewritten written before after) :
    Refuses after cwd path purpose r ↔ Refuses before cwd path purpose r := by
  rw [← locate_eq_error_iff, h.locate, locate_eq_error_iff]

theorem Rewritten.lacksDirectory (h : Rewritten written before after) :
    after.LacksDirectory cwd path ↔ before.LacksDirectory cwd path := by
  simp only [LacksDirectory, h.refuses, h.locate, h.directory?]

theorem Rewritten.isRejected (h : Rewritten written before after) :
    after.IsRejected cwd path ↔ before.IsRejected cwd path := by
  simp only [IsRejected, h.refuses]

end DeviceLauncher.FileSystem
