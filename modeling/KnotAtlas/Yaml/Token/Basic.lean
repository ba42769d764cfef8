import KnotAtlas.Yaml.Fault

/-!
Tokens of YAML text. Where blocks start and end is told by columns and becomes tokens of its own.
-/

namespace KnotAtlas.Yaml

inductive Token where
  | documentStart
  | documentEnd
  | blockSequence
  | blockMapping
  | blockEnd
  | flowSequence
  | flowSequenceEnd
  | flowMapping
  | flowMappingEnd
  /-- What stands before an item of a block sequence. -/
  | dash
  /-- What stands between entries of a flow collection. -/
  | comma
  /-- A key follows. -/
  | key
  /-- The value of a key follows. -/
  | colon
  | scalar (text : String) (plain : Bool)
  /-- The text cannot be read on. -/
  | fault (f : Fault)
  deriving DecidableEq, Repr

end KnotAtlas.Yaml
