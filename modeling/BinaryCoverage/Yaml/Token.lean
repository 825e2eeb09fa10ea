/-!
# Tokens of YAML

A text is a sequence of tokens.  Blocks, which have no marks of their own, begin and end with
tokens too.
-/

namespace BinaryCoverage.Yaml

/-- How a scalar is written. -/
inductive ScalarStyle where
  | plain
  | single
  | double
  | literal
  | folded
  deriving DecidableEq, Repr

inductive Token where
  | version (major minor : Nat)
  | tagHandle (handle expansion : String)
  | documentStart
  | documentEnd
  | blockSequence
  | blockMapping
  | blockEnd
  | flowSequence
  | flowSequenceEnd
  | flowMapping
  | flowMappingEnd
  | flowEntry
  | blockEntry
  | key
  | value
  | alias (name : String)
  | anchor (name : String)
  | tag (handle ending : String)
  | scalar (style : ScalarStyle) (text : String)
  deriving DecidableEq, Repr

end BinaryCoverage.Yaml
