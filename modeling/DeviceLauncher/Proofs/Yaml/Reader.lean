import DeviceLauncher.Yaml.Reader

/-!
# What is expected of a reader

In general nothing is assumed of a reader. Where an example needs to know what some text stands for,
`Reader.ReadsSamples` says it for a few short texts. `sampleReader` reads these as it says, and takes
all others for malformed.
-/

namespace DeviceLauncher.Yaml

/-- Whether a reader gives some short texts the values that they have in YAML. -/
structure Reader.ReadsSamples (reader : Reader) : Prop where
  /-- A text without a document stands for null. -/
  nothing : reader "" = .ok ⟨.null, []⟩
  noItems : reader "[]\n" = .ok ⟨.list [], []⟩
  oneItem : reader "- a\n" = .ok ⟨.list [.text "a"], []⟩
  /-- A list has to be closed. -/
  openList : reader "[\n" = .error .malformed
  logPath : reader "logging: \x7bpath: /l\x7d\n" =
    .ok ⟨.map [(.text "logging", .map [(.text "path", .text "/l")])], []⟩

/-- Some short texts with their values. -/
def samples : List (String × Value) :=
  [("", .null), ("[]\n", .list []), ("- a\n", .list [.text "a"]),
    ("logging: \x7bpath: /l\x7d\n", .map [(.text "logging", .map [(.text "path", .text "/l")])])]

/-- A reader that knows these texts only. -/
def sampleReader : Reader := fun text =>
  match samples.lookup text with
  | some v => .ok ⟨v, []⟩
  | none => .error .malformed

theorem readsSamples_sampleReader : sampleReader.ReadsSamples where
  nothing := rfl
  noItems := rfl
  oneItem := rfl
  openList := rfl
  logPath := rfl

end DeviceLauncher.Yaml
