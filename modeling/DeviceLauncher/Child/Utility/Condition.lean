import DeviceLauncher.Child.Process

/-!
# Conditions

What the program `test`, also called `[`, finds true of its words: facts about texts, whole numbers
and files.
-/

namespace DeviceLauncher.Child.Utility

/-- Whether a fact that is named by a letter holds of a word. -/
def holdsOf (p : Process) (letter : String) (word : String) : Option Bool :=
  let file (f : Node → Bool) : Bool :=
    match p.find word with
    | .ok i => (p.files.node? i).any f
    | .error _ => false
  match letter with
  | "-n" => some (!word.isEmpty)
  | "-z" => some word.isEmpty
  | "-e" | "-r" | "-w" => some (file fun _ => true)
  | "-f" => some (file fun n => match n with | .file _ => true | _ => false)
  | "-d" => some (file fun n => match n with | .directory _ => true | _ => false)
  | "-s" => some (file fun n => match n with
    | .file f => !f.content.isEmpty
    | .directory _ => true
    | _ => false)
  | "-x" => some (file fun n => match n with
    | .file f => f.mode &&& 0o111 != 0
    | .directory _ => true
    | _ => false)
  | "-L" | "-h" => some (match p.files.findLink p.site.cwd word with
    | .ok i => (p.files.link? i).isSome
    | .error _ => false)
  | _ => none

/-- Whether two words stand in a relation. -/
def holdsBetween (a relation b : String) : Option Bool :=
  match relation with
  | "=" => some (a == b)
  | "!=" => some (a != b)
  | _ => do
    let compare ← [("-eq", fun (x y : Int) => decide (x = y)), ("-ne", fun x y => decide (x ≠ y)),
      ("-lt", fun x y => decide (x < y)), ("-le", fun x y => decide (x ≤ y)),
      ("-gt", fun x y => decide (y < x)), ("-ge", fun x y => decide (y ≤ x))].lookup relation
    return compare (← a.toInt?) (← b.toInt?)

/-- Whether a condition holds, if it is one. -/
def condition (p : Process) : List String → Option Bool
  | [] => some false
  | [word] => some (!word.isEmpty)
  | ["!", word] => some word.isEmpty
  | [letter, word] => holdsOf p letter word
  | ["!", letter, word] => (holdsOf p letter word).map (!·)
  | [a, relation, b] => holdsBetween a relation b
  | ["!", a, relation, b] => (holdsBetween a relation b).map (!·)
  | _ => none

end DeviceLauncher.Child.Utility
