import Workflow.Yaml.Tag

/-!
# Tokens of YAML texts

The tokens make the structure of a text explicit: the indentation of lines becomes starts and
ends of block collections, and every key of a mapping is announced before its node.
-/

namespace Workflow.Yaml

/-- How a scalar is written. -/
inductive ScalarStyle where
  | plain
  | singleQuoted
  | doubleQuoted
  | literal
  | folded
  deriving DecidableEq, Repr, Inhabited

/-- A token of a YAML text. -/
inductive Token where
  | directive (directive : Directive)
  | documentStart
  | documentEnd
  | blockSequenceStart
  | blockMappingStart
  | blockEnd
  | flowSequenceStart
  | flowSequenceEnd
  | flowMappingStart
  | flowMappingEnd
  /-- The hyphen before an item of a block sequence. -/
  | blockEntry
  /-- The comma between the entries of a flow collection. -/
  | flowEntry
  | key
  | value
  | anchor (name : String)
  | alias (name : String)
  | tag (tag : Tag)
  | scalar (style : ScalarStyle) (text : String)
  /-- The end of the text, behind which there are no tokens. -/
  | textEnd
  deriving DecidableEq, Repr

/-- The tokens of a text in order, up to its end or to an error in its form. -/
structure Tokens where
  found : List (Located Token)
  ending : Except SyntaxError Mark

end Workflow.Yaml
