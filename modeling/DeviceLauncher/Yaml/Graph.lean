import DeviceLauncher.Yaml.Kind
import DeviceLauncher.Yaml.Tree

/-!
# The nodes of a YAML document

A document is a graph: an alias stands for the node that an anchor has named before, and that may
be a collection which has not ended yet. Nodes have numbers, a collection one that is larger than
those of the nodes written in it, so that only an alias to a collection around it leads to a
number that is not smaller.

* `Graph.ofTree`: the graph of a document, with the kinds that tags and forms give.
* `Graph.textOf`: the text of a node that is meant as a scalar.
-/

namespace DeviceLauncher.Yaml

/-- What a node holds: a text, or other nodes. -/
inductive Content where
  | scalar (text : String)
  | sequence (items : List Nat)
  | mapping (entries : List (Nat × Nat))
  deriving DecidableEq

namespace Content

/-- The nodes that a collection holds. -/
def children : Content → List Nat
  | scalar _ => []
  | sequence items => items
  | mapping entries => entries.flatMap fun (k, v) => [k, v]

end Content

/-- A scalar or collection with its kind. -/
structure Node where
  kind : Kind
  content : Content
  deriving DecidableEq

/-- The nodes of a document. The number of a node is its place. -/
structure Graph where
  nodes : Array Node

namespace Graph

def empty : Graph := ⟨#[]⟩

/-- The number of nodes, which is also the number that the next one gets. -/
def size (g : Graph) : Nat := g.nodes.size

/-- Adds a node. -/
def push (g : Graph) (node : Node) : Graph := ⟨g.nodes.push node⟩

def kind (g : Graph) (n : Nat) : Kind := (g.nodes[n]?.map Node.kind).getD .unknown

def content (g : Graph) (n : Nat) : Content := (g.nodes[n]?.map Node.content).getD (.scalar "")

/-- The entries of a mapping. -/
def entries (g : Graph) (n : Nat) : List (Nat × Nat) :=
  match g.content n with
  | .mapping entries => entries
  | _ => []

def setKind (g : Graph) (n : Nat) (kind : Kind) : Graph :=
  ⟨g.nodes.modify n fun node => { node with kind }⟩

def setEntries (g : Graph) (n : Nat) (entries : List (Nat × Nat)) : Graph :=
  ⟨g.nodes.modify n fun node => { node with content := .mapping entries }⟩

/-- Whether some collection holds one that it is written in. -/
def isCyclic (g : Graph) : Bool :=
  g.nodes.toList.zipIdx.any fun (node, n) => node.content.children.any (n ≤ ·)

/-! ## Texts -/

/-- The text of a node that is meant as a scalar: its own, or that under its key `=`. Each step
leads to another node, so a way that is longer than the graph has nodes does not end. -/
def textFrom (g : Graph) : Nat → Nat → Except Fault String
  | 0, _ => .error .tooDeep
  | steps + 1, n =>
    match g.content n with
    | .scalar text => .ok text
    | .sequence _ => .error .malformed
    | .mapping entries =>
      match entries.find? fun (k, _) => g.kind k = .default with
      | some (_, v) => g.textFrom steps v
      | none => .error .malformed

def textOf (g : Graph) (n : Nat) : Except Fault String := g.textFrom (g.size + 1) n

/-! ## The graph of a document -/

/-- The kind that a tag gives; `!`, like no tag, leaves it to the form. -/
def kindOf (tag : Option String) (byForm : Kind) : Kind :=
  match tag with
  | none | some "!" => byForm
  | some tag => Kind.ofTag tag

/-- The kind of a scalar. Without a tag, only plain scalars are told apart by form. -/
def scalarKind (tag : Option String) (text : String) (plain : Bool) : Kind :=
  if tag.isNone && !plain then .text else kindOf tag (Kind.ofForm text)

/-- The part of a document that has been read: its nodes, and those that anchors have named. -/
structure Reading where
  graph : Graph
  anchors : List (String × Nat)

namespace Reading

/-- Gives a name to the node that will have a number. A name is given once. -/
def named (r : Reading) (name : Option String) (n : Nat) : Except Fault Reading :=
  match name with
  | none => .ok r
  | some name =>
    if (r.anchors.lookup name).isSome then .error .malformed
    else .ok { r with anchors := (name, n) :: r.anchors }

/-- Adds a node, and gives its number. -/
def add (r : Reading) (node : Node) : Nat × Reading :=
  (r.graph.size, { r with graph := r.graph.push node })

mutual

/-- Adds the nodes of a tree, and gives the number of the node that it stands for. -/
def addTree (r : Reading) : Tree → Except Fault (Nat × Reading)
  | .alias name =>
    match r.anchors.lookup name with
    | some n => .ok (n, r)
    | none => .error .malformed
  | .scalar p text plain => do
    let r ← r.named p.anchor r.graph.size
    return r.add ⟨scalarKind p.tag text plain, .scalar text⟩
  | .sequence p items => do
    let r ← r.named p.anchor (r.graph.size + Tree.countAll items)
    let (items, r) ← r.addTrees items
    return r.add ⟨kindOf p.tag .sequence, .sequence items⟩
  | .mapping p entries => do
    let r ← r.named p.anchor (r.graph.size + Tree.countEntries entries)
    let (entries, r) ← r.addEntries entries
    return r.add ⟨kindOf p.tag .mapping, .mapping entries⟩

def addTrees (r : Reading) : List Tree → Except Fault (List Nat × Reading)
  | [] => .ok ([], r)
  | tree :: rest => do
    let (n, r) ← r.addTree tree
    let (ns, r) ← r.addTrees rest
    return (n :: ns, r)

def addEntries (r : Reading) : List (Tree × Tree) → Except Fault (List (Nat × Nat) × Reading)
  | [] => .ok ([], r)
  | (k, v) :: rest => do
    let (k, r) ← r.addTree k
    let (v, r) ← r.addTree v
    let (entries, r) ← r.addEntries rest
    return ((k, v) :: entries, r)

end

end Reading

/-- The graph of a document, and the number of its root. -/
def ofTree (tree : Tree) : Except Fault (Nat × Graph) := do
  let (root, r) ← Reading.addTree ⟨.empty, []⟩ tree
  return (root, r.graph)

end Graph

end DeviceLauncher.Yaml
