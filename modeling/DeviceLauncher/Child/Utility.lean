import DeviceLauncher.Child.Utility.Condition
import DeviceLauncher.Child.Utility.File
import DeviceLauncher.Child.Utility.Print

/-!
# Programs of the system

The small programs that scripts call, by name. The shell is not among them. They stand in for those
of the system in `Child.system`, and no theorem rests on them.
-/

namespace DeviceLauncher.Child.Utility

def echo (escapes : Bool) : Body := fun words p => (p.write (echoText escapes words), 0)

def printf : Body := fun words p =>
  match words with
  | "--" :: format :: words | format :: words => (p.write (printfText format words), 0)
  | [] => (p.complain "printf: missing operand\n", 1)

def test : Body := fun words p =>
  match condition p words with
  | some good => (p, if good then 0 else 1)
  | none => (p, 2)

/-- The program `[`, whose last word is a bracket. -/
def bracket : Body := fun words p =>
  if words.getLast? = some "]" then test words.dropLast p
  else (p.complain "[: missing ]\n", 2)

/-- The path of the working directory. -/
def pwd : Body := fun _ p =>
  match p.files.pathOf? p.site.cwd with
  | some path => (p.write (path ++ "\n"), 0)
  | none => (p.complain "pwd: cannot get current directory\n", 1)

/-- The variables of the environment, or the values of some. -/
def printenv : Body := fun words p =>
  match words with
  | [] =>
    let lines := p.environment.entries.map fun (name, value) => name ++ "=" ++ value ++ "\n"
    (p.write (String.join lines), 0)
  | names =>
    forEach names (fun name p =>
      match p.environment.get? name with
      | some value => (p.write (value ++ "\n"), true)
      | none => (p, false)) p

/-- Counts the lines or the bytes of what can be read. -/
def wc : Body := fun words p =>
  let (options, words) := letters words
  let word := words.head?.getD "-"
  match bytesOf p word with
  | .error e => (refuse "wc" "" word e p, 1)
  | .ok (bytes, p) =>
    let n := if options.contains 'l' then bytes.toList.count 0x0a else bytes.size
    (p.write (toString n ++ (if word == "-" then "" else " " ++ word) ++ "\n"), 0)

/-- The first lines of what can be read. -/
def head : Body := fun words p =>
  let (options, words) := letters words
  let n := (options.filter Char.isDigit).foldl (fun n d => 10 * n + (d.toNat - '0'.toNat)) 0
  let (n, words) := match options, words with
    | ['n'], count :: words => (count.toNat?.getD 10, words)
    | _, words => (if n = 0 then 10 else n, words)
  let word := words.head?.getD "-"
  match bytesOf p word with
  | .error e =>
    (p.complain s!"head: cannot open {shown word} for reading: {e.text}\n", 1)
  | .ok (bytes, p) =>
    let lines := (bytes.toList.splitOn 0x0a).take n
    let whole := (bytes.toList.splitOn 0x0a).length ≤ n
    let text := [0x0a].intercalate lines ++ (if whole || n = 0 then [] else [0x0a])
    (p.deliver ⟨text.toArray⟩ p.out, 0)

/-- The path without its last name. -/
def directoryOf (path : String) : String :=
  let cs := (path.toList.reverse.dropWhile (· == '/')).dropWhile (· != '/')
  match (cs.dropWhile (· == '/')).reverse with
  | [] => if cs.isEmpty then (if path.toList.head? = some '/' then "/" else ".") else "/"
  | kept => String.ofList kept

def basename : Body := fun words p => (p.write (lastName (words.head?.getD "") ++ "\n"), 0)

def dirname : Body := fun words p => (p.write (directoryOf (words.head?.getD "") ++ "\n"), 0)

/-- The programs of the system, by name. -/
def programs : List (String × Body) := [
  ("true", fun _ p => (p, 0)),
  ("false", fun _ p => (p, 1)),
  ("sleep", fun _ p => (p, 0)),
  ("echo", echo false),
  ("printf", printf),
  ("test", test),
  ("[", bracket),
  ("pwd", pwd),
  ("env", printenv),
  ("printenv", printenv),
  ("cat", cat),
  ("head", head),
  ("wc", wc),
  ("basename", basename),
  ("dirname", dirname),
  ("ls", ls),
  ("rm", rm),
  ("mkdir", mkdir),
  ("touch", touch),
  ("cp", cp),
  ("mv", mv),
  ("ln", ln),
  ("chmod", chmod)]

def find? (name : String) : Option Body := programs.lookup name

/-- The names under which programs of the system are installed. -/
def names : List String := "sh" :: programs.map Prod.fst

end DeviceLauncher.Child.Utility
