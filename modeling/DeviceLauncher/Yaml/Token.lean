/-!
# Tokens of YAML

A document is a sequence of marks and scalars. Where the layout opens or closes a collection,
there is a token for it as well, so that what follows need not look at columns.
-/

namespace DeviceLauncher.Yaml

/-- A line before a document that says how to read it. -/
inductive Directive where
  | version (major minor : Nat)
  | tag (handle leading : String)
  | unknown
  deriving DecidableEq

/-- A token of a YAML text. -/
inductive Token where
  | directive (d : Directive)
  | documentStart
  | documentEnd
  | blockSequence
  | blockMapping
  | blockEnd
  | flowSequence
  | flowMapping
  | flowSequenceEnd
  | flowMappingEnd
  | dash
  | comma
  | key
  | value
  | alias (name : String)
  | anchor (name : String)
  /-- A tag, by its handle and the rest; no handle if it is written in full. -/
  | tag (handle : Option String) (suffix : String)
  | scalar (text : String) (plain : Bool)
  deriving DecidableEq

end DeviceLauncher.Yaml
