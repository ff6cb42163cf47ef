import DeviceLauncher.Yaml.Fault
import DeviceLauncher.Yaml.Token

/-!
# The structure of a YAML document

`Tree.ofTokens` finds the scalars and collections of a document from its tokens, with the anchors
and tags that they carry. A text may hold no document at all; it may not hold two.

The readers take an amount of fuel that bounds how deep they go. Every second step consumes a
token, so three times the number of tokens is more than enough.
-/

namespace DeviceLauncher.Yaml

/-- What may stand before a scalar or collection: a name for it, and a tag in full. -/
structure Properties where
  anchor : Option String
  tag : Option String
  deriving DecidableEq

namespace Properties

def none : Properties := ⟨.none, .none⟩

def isNone (p : Properties) : Bool := p.anchor.isNone && p.tag.isNone

end Properties

/-- A document, or a part of it. -/
inductive Tree where
  | alias (name : String)
  | scalar (properties : Properties) (text : String) (plain : Bool)
  | sequence (properties : Properties) (items : List Tree)
  | mapping (properties : Properties) (entries : List (Tree × Tree))

namespace Tree

mutual

/-- The number of scalars and collections. An alias is none of its own. -/
def count : Tree → Nat
  | .alias _ => 0
  | .scalar _ _ _ => 1
  | .sequence _ items => countAll items + 1
  | .mapping _ entries => countEntries entries + 1

def countAll : List Tree → Nat
  | [] => 0
  | tree :: rest => count tree + countAll rest

def countEntries : List (Tree × Tree) → Nat
  | [] => 0
  | (k, v) :: rest => count k + count v + countEntries rest

end

mutual

/-- How many collections are inside each other. -/
def depth : Tree → Nat
  | .alias _ => 0
  | .scalar _ _ _ => 0
  | .sequence _ items => depthOfAll items + 1
  | .mapping _ entries => depthOfEntries entries + 1

def depthOfAll : List Tree → Nat
  | [] => 0
  | tree :: rest => max (depth tree) (depthOfAll rest)

def depthOfEntries : List (Tree × Tree) → Nat
  | [] => 0
  | (k, v) :: rest => max (max (depth k) (depth v)) (depthOfEntries rest)

end

/-- How many collections can be inside each other. -/
def mostNested : Nat := 485

/-- What stands where a value is left out. -/
def absent : Tree := scalar .none "" true

/-- The handles of tags that every document knows. -/
def standardHandles : List (String × String) := [("!", "!"), ("!!", "tag:yaml.org,2002:")]

/-- What a reader needs besides the tokens: the handles of tags, and the fault to report if the
tokens end too soon. -/
structure Setting where
  handles : List (String × String)
  atEnd : Fault

/-- The fault of finding the wrong token. -/
def Setting.unexpected (s : Setting) : List Token → Fault
  | [] => s.atEnd
  | _ => .malformed

/-- A tag in full. -/
def Setting.fullTag (s : Setting) (handle : Option String) (suffix : String) :
    Except Fault String :=
  match handle with
  | none => .ok suffix
  | some handle =>
    match s.handles.lookup handle with
    | some leading => .ok (leading ++ suffix)
    | none => .error .malformed

/-- The properties at the front of the tokens, in either order. -/
def properties (s : Setting) : List Token → Except Fault (Properties × List Token)
  | .anchor a :: .tag h t :: ts | .tag h t :: .anchor a :: ts =>
    (s.fullTag h t).map fun tag => (⟨some a, some tag⟩, ts)
  | .anchor a :: ts => .ok (⟨some a, none⟩, ts)
  | .tag h t :: ts => (s.fullTag h t).map fun tag => (⟨none, some tag⟩, ts)
  | ts => .ok (.none, ts)

/-- Whether the next token is one of some. -/
def nextIn (tokens : List Token) (ts : List Token) : Bool :=
  match ts with
  | [] => false
  | t :: _ => tokens.contains t

/-- A scalar that is left out after its properties, which stand for it. -/
def leftOut (s : Setting) (p : Properties) (ts : List Token) : Except Fault (Tree × List Token) :=
  if p.isNone then .error (s.unexpected ts) else .ok (.scalar p "" true, ts)

/-- The tokens after the comma that has to stand between two items. -/
def afterComma (s : Setting) (first : Bool) (ts : List Token) : Except Fault (List Token) :=
  if first then .ok ts
  else match ts with
    | .comma :: ts => .ok ts
    | ts => .error (s.unexpected ts)

mutual

/-- A scalar or collection. Block collections begin only where `block` says so, and a sequence
that is not indented only where `indentless` does. -/
def node (s : Setting) (block indentless : Bool) :
    Nat → List Token → Except Fault (Tree × List Token)
  | 0, _ => .error .malformed
  | _ + 1, .alias name :: ts => .ok (.alias name, ts)
  | fuel + 1, ts => do
    let (p, ts) ← properties s ts
    match ts with
    | .scalar text plain :: ts => return (.scalar p text plain, ts)
    | .flowSequence :: ts => do
      let (items, ts) ← flowItems s true fuel ts
      return (.sequence p items, ts)
    | .flowMapping :: ts => do
      let (entries, ts) ← flowEntries s true fuel ts
      return (.mapping p entries, ts)
    | .blockSequence :: rest =>
      if block then do
        let (items, ts) ← blockItems s fuel rest
        return (.sequence p items, ts)
      else leftOut s p ts
    | .blockMapping :: rest =>
      if block then do
        let (entries, ts) ← blockEntries s fuel rest
        return (.mapping p entries, ts)
      else leftOut s p ts
    | .dash :: _ =>
      if indentless then do
        let (items, ts) ← indentlessItems s fuel ts
        return (.sequence p items, ts)
      else leftOut s p ts
    | ts => leftOut s p ts

/-- A node, or nothing if one of some tokens comes next. -/
def optional (s : Setting) (block indentless : Bool) (stops : List Token) :
    Nat → List Token → Except Fault (Tree × List Token)
  | 0, _ => .error .malformed
  | fuel + 1, ts =>
    if nextIn stops ts then .ok (absent, ts) else node s block indentless fuel ts

/-- A value after its sign, or nothing. -/
def optionalValue (s : Setting) (block indentless : Bool) (stops : List Token) :
    Nat → List Token → Except Fault (Tree × List Token)
  | 0, _ => .error .malformed
  | fuel + 1, .value :: ts => optional s block indentless stops fuel ts
  | _ + 1, ts => .ok (absent, ts)

/-- The items of an indented sequence, to its end. -/
def blockItems (s : Setting) : Nat → List Token → Except Fault (List Tree × List Token)
  | 0, _ => .error .malformed
  | fuel + 1, .dash :: ts => do
    let (item, ts) ← optional s true false [.dash, .blockEnd] fuel ts
    let (items, ts) ← blockItems s fuel ts
    return (item :: items, ts)
  | _ + 1, .blockEnd :: ts => .ok ([], ts)
  | _ + 1, ts => .error (s.unexpected ts)

/-- The items of a sequence at the column of the mapping around it. -/
def indentlessItems (s : Setting) : Nat → List Token → Except Fault (List Tree × List Token)
  | 0, _ => .error .malformed
  | fuel + 1, .dash :: ts => do
    let (item, ts) ← optional s true false [.dash, .key, .value, .blockEnd] fuel ts
    let (items, ts) ← indentlessItems s fuel ts
    return (item :: items, ts)
  | _ + 1, ts => .ok ([], ts)

/-- The entries of an indented mapping, to its end. -/
def blockEntries (s : Setting) : Nat → List Token → Except Fault (List (Tree × Tree) × List Token)
  | 0, _ => .error .malformed
  | fuel + 1, .key :: ts => do
    let (k, ts) ← optional s true true [.key, .value, .blockEnd] fuel ts
    let (v, ts) ← optionalValue s true true [.key, .value, .blockEnd] fuel ts
    let (entries, ts) ← blockEntries s fuel ts
    return ((k, v) :: entries, ts)
  | _ + 1, .blockEnd :: ts => .ok ([], ts)
  | _ + 1, ts => .error (s.unexpected ts)

/-- The items of a sequence in brackets, to its end. A single entry is a mapping of its own. -/
def flowItems (s : Setting) (first : Bool) :
    Nat → List Token → Except Fault (List Tree × List Token)
  | 0, _ => .error .malformed
  | _ + 1, .flowSequenceEnd :: ts => .ok ([], ts)
  | fuel + 1, ts => do
    let ts ← afterComma s first ts
    match ts with
    | .flowSequenceEnd :: ts => return ([], ts)
    | .key :: ts =>
      let (k, ts) ← optional s false false [.value, .comma, .flowSequenceEnd] fuel ts
      let (v, ts) ← optionalValue s false false [.comma, .flowSequenceEnd] fuel ts
      let (items, ts) ← flowItems s false fuel ts
      return (.mapping .none [(k, v)] :: items, ts)
    | ts =>
      let (item, ts) ← node s false false fuel ts
      let (items, ts) ← flowItems s false fuel ts
      return (item :: items, ts)

/-- The entries of a mapping in braces, to its end. A node alone is a key without value. -/
def flowEntries (s : Setting) (first : Bool) :
    Nat → List Token → Except Fault (List (Tree × Tree) × List Token)
  | 0, _ => .error .malformed
  | _ + 1, .flowMappingEnd :: ts => .ok ([], ts)
  | fuel + 1, ts => do
    let ts ← afterComma s first ts
    match ts with
    | .flowMappingEnd :: ts => return ([], ts)
    | .key :: ts =>
      let (k, ts) ← optional s false false [.value, .comma, .flowMappingEnd] fuel ts
      let (v, ts) ← optionalValue s false false [.comma, .flowMappingEnd] fuel ts
      let (entries, ts) ← flowEntries s false fuel ts
      return ((k, v) :: entries, ts)
    | ts =>
      let (k, ts) ← node s false false fuel ts
      let (entries, ts) ← flowEntries s false fuel ts
      return ((k, absent) :: entries, ts)

end

/-- What the directives before a document say so far. -/
structure Preamble where
  version : Bool
  handles : List (String × String)

/-- The directives at the front of the tokens. Each handle, and the version, is said once. -/
def preamble (p : Preamble) : List Token → Except Fault (Preamble × List Token)
  | .directive d :: ts =>
    match d with
    | .version major _ =>
      if p.version || major != 1 then .error .malformed
      else preamble { p with version := true } ts
    | .tag handle leading =>
      if (p.handles.lookup handle).isSome then .error .malformed
      else preamble { p with handles := (handle, leading) :: p.handles } ts
    | .unknown => preamble p ts
  | ts => .ok (p, ts)

/-- Whether the document ends before it has any content. -/
def isBare : List Token → Bool
  | [] | .directive _ :: _ | .documentStart :: _ | .documentEnd :: _ => true
  | _ => false

/-- The document that the tokens make up, if they hold one. -/
def ofTokens (tokens : List Token) (fault : Option Fault) : Except Fault (Option Tree) := do
  let fuel := 3 * tokens.length + 3
  let atEnd := fault.getD .malformed
  let (tree, rest) ← (
    match tokens with
    | [] => return (none, [])
    | .directive _ :: _ | .documentStart :: _ => do
      let (p, ts) ← preamble ⟨false, []⟩ tokens
      let s : Setting := ⟨p.handles ++ standardHandles, atEnd⟩
      match ts with
      | .documentStart :: ts =>
        if isBare ts then
          if ts.isEmpty && fault.isSome then throw atEnd else return (some absent, ts)
        else do
          let (tree, ts) ← node s true false fuel ts
          return (some tree, ts)
      | ts => throw (s.unexpected ts)
    | ts => do
      let (tree, ts) ← node ⟨standardHandles, atEnd⟩ true false fuel ts
      return (some tree, ts))
  match rest.dropWhile (· == .documentEnd), fault with
  | [], none => return tree
  | [], some fault => throw fault
  | _, _ => throw .malformed

end Tree

end DeviceLauncher.Yaml
