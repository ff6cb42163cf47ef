/-!
# Paths as texts

A path is an anchor (none, `/` or `//`) and names. Reading a path drops empty names and `.`,
and keeps `..`: what lies above a name is for the file system to say. Because the type admits no
other names, a path has one text, and reading that text gives the path again.

* `Path.ofString`, `Path.toString`: reading and writing. No path is written as the empty text:
  the path without anchor and names is `.`.
* `Path.join`: an anchored path replaces what it is joined to; another extends it.
* `Path.parent`, `Path.name`, `Path.suffix`: by the last name only.
* `Path.collapse`: the path with `..` taken textually, as the user reads it.
-/

namespace DeviceLauncher

/-- A name in a path: not empty, not `.`, and without a slash. -/
structure Name where
  text : String
  ne_empty : text ≠ ""
  ne_dot : text ≠ "."
  no_slash : '/' ∉ text.toList
  deriving DecidableEq

namespace Name

/-- The name with this text, if it can be one. -/
def ofString? (text : String) : Option Name :=
  if h : text ≠ "" ∧ text ≠ "." ∧ '/' ∉ text.toList then some ⟨text, h.1, h.2.1, h.2.2⟩ else none

@[simp]
theorem ofString?_text (n : Name) : ofString? n.text = some n := by
  simp [ofString?, n.ne_empty, n.ne_dot, n.no_slash]

/-- The name of the directory above. -/
def up : Name := ⟨"..", by decide, by decide, by decide⟩

end Name

/-- Where a path starts. Two slashes are kept apart from one; three or more are one. -/
inductive Anchor where
  | relative
  | root
  | doubleRoot
  deriving DecidableEq

namespace Anchor

def toString : Anchor → String
  | relative => ""
  | root => "/"
  | doubleRoot => "//"

/-- The anchor of a path's text, by the slashes that it starts with. -/
def ofChars (text : List Char) : Anchor :=
  match (text.takeWhile (· == '/')).length with
  | 0 => relative
  | 2 => doubleRoot
  | _ => root

end Anchor

/-- A path: where it starts, and the names from there. -/
structure Path where
  anchor : Anchor
  names : List Name
  deriving DecidableEq

namespace Path

/-- The path without anchor and names, `.`. -/
def here : Path := ⟨.relative, []⟩

/-- The path that a text denotes. -/
def ofString (text : String) : Path :=
  { anchor := Anchor.ofChars text.toList
    names := (text.toList.splitOn '/').filterMap fun part => Name.ofString? (String.ofList part) }

/-- The text of a path. -/
def toString (p : Path) : String :=
  if p.anchor = .relative ∧ p.names = [] then "."
  else p.anchor.toString ++ "/".intercalate (p.names.map Name.text)

/-- The path `q` as seen from `p`. -/
def join (p q : Path) : Path :=
  if q.anchor = .relative then { p with names := p.names ++ q.names } else q

/-- An anchored path says on its own where it leads. -/
theorem join_of_anchored (p : Path) {q : Path} (h : q.anchor ≠ .relative) : p.join q = q := by
  simp [join, h]

theorem join_assoc (p q r : Path) : (p.join q).join r = p.join (q.join r) := by
  by_cases hr : r.anchor = .relative <;> by_cases hq : q.anchor = .relative <;>
    simp [join, hr, hq]

/-- The path without its last name; a path without names is its own parent. -/
def parent (p : Path) : Path := { p with names := p.names.dropLast }

/-- The text of the last name, empty if there is none. -/
def name (p : Path) : String := (p.names.getLast?.map Name.text).getD ""

/-- The ending of the last name from its last dot on, if that dot is neither the first nor the
last character; else empty. -/
def suffix (p : Path) : String :=
  let reversed := p.name.toList.reverse
  let ending := reversed.takeWhile (· != '.')
  let stem := (reversed.dropWhile (· != '.')).drop 1
  if ending.isEmpty || stem.isEmpty then "" else String.ofList ('.' :: ending.reverse)

/-- Takes `..` textually in front of names that are collapsed already, the last one first. It
stays where there is nothing to take away, except right below an anchor. -/
def collapseOnto (anchor : Anchor) : List Name → List Name → List Name
  | done, [] => done.reverse
  | done, n :: rest =>
    if n ≠ Name.up then collapseOnto anchor (n :: done) rest
    else match done with
      | [] => collapseOnto anchor (if anchor = .relative then [n] else []) rest
      | last :: above =>
        if last = Name.up then collapseOnto anchor (n :: done) rest
        else collapseOnto anchor above rest

/-- The path with every name followed by `..` taken away, without asking the file system. -/
def collapse (p : Path) : Path := { p with names := collapseOnto p.anchor [] p.names }

end Path

end DeviceLauncher
