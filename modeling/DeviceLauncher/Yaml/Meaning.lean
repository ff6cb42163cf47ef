import DeviceLauncher.Yaml.Merge
import DeviceLauncher.Yaml.Scalar

/-!
# What the nodes of a YAML document mean

A scalar means a value, a collection means a collection of what its nodes mean. Kinds say which:
a mapping may be meant as a set or, by its key `=`, as a scalar, and a sequence as a list of pairs.

Collections are opened before they are filled, in the order in which they are met, so of several
faults of a document the one that is reported lies in the outermost collection. Before a mapping
is filled it takes in the mappings that it names.
-/

namespace DeviceLauncher.Yaml

/-- What a node means. Collections hold nodes. -/
inductive Meaning where
  /-- A value, and the key that it is. One without key is the same key as no other node. -/
  | value (v : Value) (key : Option Key)
  | list (items : List Nat)
  | pairs (items : List (Nat × Nat))
  | map (entries : List (Nat × Nat))
  | set (items : List Nat)

/-- Whether values of the kind are collections. -/
def Kind.isCollection : Kind → Bool
  | .sequence | .mapping | .orderedMap | .pairs | .set => true
  | _ => false

/-- The value of a node that is meant as a scalar of a kind. -/
def Graph.scalarAt (g : Graph) (kind : Kind) (n : Nat) : Except Fault Meaning := do
  if kind = .unknown ∨ kind = .merge ∨ kind = .default then throw .malformed
  let text ← g.textOf n
  match kind, g.content n with
  | .time, .mapping _ => throw .timeOfMapping
  | _, _ =>
    let v ← kind.read text
    let key := match v with
      | .float x => if x.isNaN && !isNamedNaN text then none else v.key?
      | v => v.key?
    return .value v key

/-- A document of which some nodes have a meaning. -/
structure Draft where
  graph : Graph
  /-- What the nodes mean, each in its place. -/
  meanings : Array (Option Meaning)
  /-- The collections that are open and not filled, the last one first. -/
  waiting : List Nat

namespace Draft

/-- A document of which nothing is known yet. -/
def ofGraph (g : Graph) : Draft := ⟨g, Array.replicate g.size none, []⟩

def meaning? (d : Draft) (n : Nat) : Option Meaning := (d.meanings[n]?).join

def setMeaning (d : Draft) (n : Nat) (m : Meaning) : Draft :=
  { d with meanings := d.meanings.set! n (some m) }

/-- Gives a node its meaning, unless it has one. A collection is opened, and waits to be filled. -/
def visit (d : Draft) (n : Nat) : Except Fault Draft :=
  match d.meaning? n with
  | some _ => .ok d
  | none =>
    let kind := d.graph.kind n
    if kind.isCollection then
      .ok { d with meanings := d.meanings.set! n (some (.list [])), waiting := n :: d.waiting }
    else (d.graph.scalarAt kind n).map (d.setMeaning n)

/-- Whether two nodes are the same key. -/
def sameKey (d : Draft) (a b : Nat) : Bool :=
  a = b || match d.meaning? a, d.meaning? b with
    | some (.value _ (some x)), some (.value _ (some y)) => x = y
    | _, _ => false

/-- Writes an entry. A key that is there keeps its place and its form, and gets the new value. -/
def insert (d : Draft) (key value : Nat) : List (Nat × Nat) → List (Nat × Nat)
  | [] => [(key, value)]
  | (k, v) :: rest =>
    if d.sameKey k key then (k, value) :: rest else (k, v) :: d.insert key value rest

/-- Gives the items of a list their meanings. -/
def visitAll (d : Draft) (items : List Nat) : Except Fault Draft := items.foldlM visit d

/-- Gives the parts of some entries their meanings. Keys are scalars, and each one counts once,
with its last value. -/
def visitEntries (d : Draft) (entries : List (Nat × Nat)) :
    Except Fault (Draft × List (Nat × Nat)) :=
  entries.foldlM (fun (d, done) (k, v) => do
    let d ← d.visit k
    if (d.graph.kind k).isCollection then throw .malformed
    let d ← d.visit v
    return (d, d.insert k v done)) (d, [])

/-- Gives the parts of mappings of one entry each their meanings. -/
def visitPairs (d : Draft) (items : List Nat) : Except Fault (Draft × List (Nat × Nat)) :=
  items.foldlM (fun (d, done) item => do
    match d.graph.content item with
    | .mapping [(k, v)] =>
      let d ← (← d.visit k).visit v
      return (d, done ++ [(k, v)])
    | _ => throw .malformed) (d, [])

/-- Fills a collection. -/
def fill (d : Draft) (n : Nat) : Except Fault Draft :=
  match d.graph.kind n, d.graph.content n with
  | .sequence, .sequence items => do
    let d ← d.visitAll items
    return d.setMeaning n (.list items)
  | .orderedMap, .sequence items | .pairs, .sequence items => do
    let (d, items) ← d.visitPairs items
    return d.setMeaning n (.pairs items)
  | .mapping, .mapping _ => do
    let graph ← d.graph.merged n
    let (d, entries) ← { d with graph }.visitEntries (graph.entries n)
    return d.setMeaning n (.map entries)
  | .set, .mapping _ => do
    let graph ← d.graph.merged n
    let (d, entries) ← { d with graph }.visitEntries (graph.entries n)
    return d.setMeaning n (.set (entries.map Prod.fst))
  | _, _ => .error .malformed

/-- Fills the collections that wait, and in further rounds those that are opened by that. -/
def fillAll : Nat → Draft → Except Fault Draft
  | 0, d => .ok d
  | rounds + 1, d =>
    if d.waiting.isEmpty then .ok d
    else do
      let d ← d.waiting.reverse.foldlM fill { d with waiting := [] }
      fillAll rounds d

end Draft

/-- What the nodes of a document mean, as far as its root leads to them. Each round fills other
collections, so there are no more rounds than nodes. -/
def Graph.meanings (g : Graph) (root : Nat) : Except Fault (List (Option Meaning)) := do
  let d ← (Draft.ofGraph g).visit root
  let d ← d.fillAll g.size
  return d.meanings.toList

end DeviceLauncher.Yaml
