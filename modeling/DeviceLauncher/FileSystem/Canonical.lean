import DeviceLauncher.FileSystem.Basic
import DeviceLauncher.Path

/-!
# Canonical paths

`canonical` gives the path without symbolic links that leads where a path leads. Names that are
not there are kept, and `..` after one of them just takes it away again. Two paths of one existing
file have the same canonical path, unless the file has two names.

A `Tracing` is a path on the way to its canonical form, and `advance` takes it one part further.
A link is expanded once and remembered. One that comes up inside its own expansion begins a loop,
and a path through a loop has no canonical path, unless `..` leads out of it again.

* `expand` advances until no part is left.
* `looks` lists the paths that are looked at on the way. One that is too long to be looked at
  counts as a path without a link.
-/

namespace DeviceLauncher

/-- Why a path has no canonical path. -/
inductive Unresolved where
  | nul
  /-- The working directory has been removed. -/
  | lost
  | loop (path : Path)
  deriving DecidableEq

/-- A text on the way to a canonical path: the parts still to come, and the link whose target it
is, if it is not the path asked for. -/
structure Expansion where
  parts : List String
  link : Option Path

/-- A path on the way to its canonical form. -/
structure Tracing where
  /-- What has been reached so far. -/
  here : Path
  /-- The links met so far, with what they lead to, or nothing while they are being expanded. -/
  seen : List (Path × Option Path)
  /-- The texts still to come, the innermost first. -/
  outer : List Expansion

namespace Path

/-- The path of a name below a path. -/
def child (p : Path) (name : Name) : Path := { p with names := p.names ++ [name] }

/-- The path without its last name, where `..` after `..` goes up further. -/
def upFrom (p : Path) : Path :=
  match p.names.getLast?, p.anchor with
  | some last, _ => if last = Name.up then p.child Name.up else p.parent
  | none, .relative => p.child Name.up
  | none, _ => p

/-- The path extended by parts of a text that are left over. -/
def joinRest (p : Path) (parts : List String) : Path := p.join (ofString ("/".intercalate parts))

end Path

namespace Tracing

/-- The beginning of the way of a path. -/
def start (p : Path) : Tracing :=
  ⟨if p.anchor = .relative then Path.here else ⟨.root, []⟩, [], [⟨textParts p.toString, none⟩]⟩

/-- The name that comes next, if it is one below the path reached so far. -/
def nextName? (t : Tracing) : Option Name :=
  match t.outer with
  | ⟨part :: _, _⟩ :: _ => (Name.ofString? part).filter (· ≠ Name.up)
  | _ => none

/-- The path that is looked at next. -/
def looked? (t : Tracing) : Option Path := t.nextName?.map t.here.child

end Tracing

namespace FileSystem

/-- Whether a path is a symbolic link, and to what. -/
def linkAt (fs : FileSystem) (cwd : Inode) (p : Path) : Except Unresolved (Option String) :=
  match fs.findLink cwd p.toString with
  | .ok i => .ok (fs.link? i)
  | .error .nul => .error .nul
  | .error (.errno _) => .ok none

/-- Goes on below the path reached so far, at a name that is followed by the texts `rest`. -/
def meet (fs : FileSystem) (cwd : Inode) (t : Tracing) (name : Name) (rest : List Expansion) :
    Except Unresolved Tracing :=
  let next := t.here.child name
  match fs.linkAt cwd next with
  | .error e => .error e
  | .ok none => .ok { t with here := next, outer := rest }
  | .ok (some target) =>
    match t.seen.lookup next with
    | some (some known) => .ok { t with here := known, outer := rest }
    | some none =>
      .ok { t with here := rest.foldl (fun p e => p.joinRest e.parts) next, outer := [] }
    | none =>
      let here := if target.toList.head? = some '/' then ⟨.root, []⟩ else t.here
      .ok ⟨here, (next, none) :: t.seen, ⟨textParts target, some next⟩ :: rest⟩

/-- Goes on by one part. -/
def advance (fs : FileSystem) (cwd : Inode) (t : Tracing) : Except Unresolved Tracing :=
  match t.outer with
  | [] => .ok t
  | ⟨[], none⟩ :: rest => .ok { t with outer := rest }
  | ⟨[], some link⟩ :: rest => .ok { t with seen := (link, some t.here) :: t.seen, outer := rest }
  | ⟨part :: parts, link⟩ :: rest =>
    match Name.ofString? part with
    | none => .ok { t with outer := ⟨parts, link⟩ :: rest }
    | some name =>
      if name = Name.up then .ok { t with here := t.here.upFrom, outer := ⟨parts, link⟩ :: rest }
      else fs.meet cwd t name (⟨parts, link⟩ :: rest)

/-- Goes on until no part is left. -/
def expand (fs : FileSystem) (cwd : Inode) : Nat → Tracing → Except Unresolved Path
  | 0, t => .ok t.here
  | fuel + 1, t =>
    if t.outer.isEmpty then .ok t.here
    else
      match fs.advance cwd t with
      | .ok t => expand fs cwd fuel t
      | .error e => .error e

/-- The paths that are looked at until no part is left. -/
def looks (fs : FileSystem) (cwd : Inode) : Nat → Tracing → List Path
  | 0, _ => []
  | fuel + 1, t =>
    t.looked?.toList ++
      match fs.advance cwd t with
      | .ok t => looks fs cwd fuel t
      | .error _ => []

/-- The targets of all symbolic links. -/
def linkTargets (fs : FileSystem) : List String := (List.range fs.nodes.size).filterMap fs.link?

/-- More rounds than expanding a path can take. -/
def expandFuel (fs : FileSystem) (p : Path) : Nat :=
  let lengths := fs.linkTargets.map String.length
  p.toString.length + 2 + (lengths.length + pathLimit) * (lengths.foldl (· + ·) 0 + 2)

/-- A path as seen from the root, with `..` taken textually. -/
def absolute (fs : FileSystem) (cwd : Inode) (p : Path) : Except Unresolved Path :=
  if p.anchor ≠ .relative then .ok p.collapse
  else match fs.pathOf? cwd with
    | some here => .ok ((Path.ofString here).join p).collapse
    | none => .error .lost

/-- The canonical path of a path. -/
def canonical (fs : FileSystem) (cwd : Inode) (p : Path) : Except Unresolved Path := do
  let expanded ← fs.expand cwd (fs.expandFuel p) (.start p)
  let result ← fs.absolute cwd expanded
  match fs.find cwd result.toString with
  | .error (.errno .linkLoop) => throw (.loop result)
  | _ => return result

end FileSystem

end DeviceLauncher
