import DeviceLauncher.Value.Basic
import DeviceLauncher.Yaml.Fault

/-!
# Readers of YAML

How the text of a configuration is read is left open: a `Yaml.Reader` gives the value of a text as a
document, or says what is wrong with it. What is proved about the launcher holds for any reader.
-/

namespace DeviceLauncher.Yaml

/-- The value of a document, and the collections that knots in it stand for. -/
structure Document where
  root : Value
  knots : Knots

/-- What texts are as documents. -/
abbrev Reader := String → Except Fault Document

end DeviceLauncher.Yaml
