import DeviceLauncher.Yaml.Meaning
import DeviceLauncher.Yaml.Reader
import DeviceLauncher.Yaml.Token.Scanner

/-!
# The value of a YAML document

`Document.ofText` reads a text as one document and gives its value, null for a text without a
document. If no collection holds one that it is written in, each collection is a value that is
made of those before it. Otherwise all collections are knots. The items of a set come in the order
of the text.

This is the reader of the command line, made of the modules next to it. Where a configuration is
loaded any `Yaml.Reader` will do, and no theorem rests on this one.
-/

namespace DeviceLauncher.Yaml

namespace Meaning

/-- The value that a meaning makes of the values of nodes. -/
def toValue (valueOf : Nat → Value) : Meaning → Value
  | value v _ => v
  | list items => .list (items.map valueOf)
  | pairs items => .list (items.map fun (a, b) => .pair (valueOf a) (valueOf b))
  | map entries => .map (entries.map fun (k, v) => (valueOf k, valueOf v))
  | set items => .set (items.map valueOf)

end Meaning

namespace Document

/-- The values of nodes in their order, where each node is made of those before it. -/
def values (meanings : List (Option Meaning)) : Array Value :=
  meanings.foldl (fun done m =>
    done.push ((m.map (Meaning.toValue fun n => (done[n]?).getD .null)).getD .null)) #[]

/-- The value of a node, where collections are knots. -/
def knotted (meanings : List (Option Meaning)) (n : Nat) : Value :=
  match meanings[n]? with
  | some (some (.value v _)) => v
  | _ => .knot n

/-- The number of a pair, by the number of its list and its place there. Pairs have numbers beyond
those of the nodes. -/
def pairNumber (size n place : Nat) : Nat := size * (place + 1) + n

/-- The collections that a node brings in: itself, and the pairs in it. -/
def knotsOf (meanings : List (Option Meaning)) (n : Nat) : Meaning → Knots
  | .value _ _ => []
  | .pairs items =>
    let number (place : Nat) := pairNumber meanings.length n place
    let valueOf := knotted meanings
    (n, .list ((List.range items.length).map fun place => .knot (number place))) ::
      items.mapIdx fun place (a, b) => (number place, .pair (valueOf a) (valueOf b))
  | m => [(n, m.toValue (knotted meanings))]

/-- The collections of a document by number. -/
def allKnots (meanings : List (Option Meaning)) : Knots :=
  (meanings.zipIdx.map fun (m, n) => (m.map (knotsOf meanings n)).getD []).flatten

/-- The document with a root in a graph. -/
def ofGraph (root : Nat) (g : Graph) : Except Fault Document := do
  let meanings ← g.meanings root
  if g.isCyclic then return ⟨knotted meanings root, allKnots meanings⟩
  else return ⟨((values meanings)[root]?).getD .null, []⟩

/-- The document in a text. -/
def ofText (text : String) : Except Fault Document := do
  let (tokens, fault) := Token.ofText text.toList
  match ← Tree.ofTokens tokens fault with
  | none => return ⟨.null, []⟩
  | some tree =>
    if Tree.mostNested < tree.depth then throw .tooDeep
    let (root, g) ← Graph.ofTree tree
    ofGraph root g

end Document

end DeviceLauncher.Yaml
