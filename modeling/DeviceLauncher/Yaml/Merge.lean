import DeviceLauncher.Yaml.Graph

/-!
# Mappings that take in others

Under a key `<<` a mapping names another one, or a sequence of them, whose entries it takes in.
They stand in front of its own entries, and of a sequence the entries of the last mapping stand
first, so that what a mapping says itself counts most, and then what the first of the others says.

`Graph.merged` gives the graph in which a mapping has taken in all that it names. The mappings
that it names have done so as well, and all of their keys `=` have become texts.
-/

namespace DeviceLauncher.Yaml.Graph

/-- The entries around the first key `<<`, and the node under that key. -/
def splitMerge (g : Graph) : List (Nat × Nat) → Option (List (Nat × Nat) × Nat × List (Nat × Nat))
  | [] => none
  | (k, v) :: rest =>
    if g.kind k = .merge then some ([], v, rest)
    else (g.splitMerge rest).map fun (before, named, after) => ((k, v) :: before, named, after)

/-- The graph in which the keys `=` of some entries are texts. -/
def nameDefaults (g : Graph) (entries : List (Nat × Nat)) : Graph :=
  entries.foldl (fun g (k, _) => if g.kind k = .default then g.setKind k .text else g) g

/-- The number of keys `<<` in all mappings. -/
def mergeCount (g : Graph) : Nat :=
  (List.range g.size).foldl (fun m n =>
    m + ((g.entries n).filter fun (k, _) => g.kind k = .merge).length) 0

/-- The entries that are taken in from a node, given how a mapping takes in what it names. -/
def taken (merge : Graph → Nat → Except Fault Graph) (g : Graph) (v : Nat) :
    Except Fault (List (Nat × Nat) × Graph) :=
  match g.content v with
  | .scalar _ => .error .malformed
  | .mapping _ => do
    let g ← merge g v
    return (g.entries v, g)
  | .sequence items =>
    items.foldlM (fun (entries, g) item =>
      match g.content item with
      | .mapping _ => do
        let g ← merge g item
        return (g.entries item ++ entries, g)
      | _ => .error .malformed) ([], g)

/-- Lets a mapping take in what it names, in so many steps. Each step does away with a key `<<`. -/
def mergeFrom : Nat → Graph → Nat → Except Fault Graph
  | 0, g, _ => .ok g
  | steps + 1, g, n =>
    match g.splitMerge (g.entries n) with
    | none => .ok (g.nameDefaults (g.entries n))
    | some (before, v, after) => do
      let (entries, g) ← taken (mergeFrom steps) (g.setEntries n (before ++ after)) v
      let g ← mergeFrom steps g n
      return g.setEntries n (entries ++ g.entries n)

/-- The graph in which a mapping has taken in what it names. -/
def merged (g : Graph) (n : Nat) : Except Fault Graph :=
  let names := (g.entries n).any fun (k, _) => g.kind k = .merge
  g.mergeFrom (if names then g.mergeCount + 1 else 1) n

end DeviceLauncher.Yaml.Graph
