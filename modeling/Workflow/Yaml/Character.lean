import Workflow.Text.Search

/-!
# Characters of YAML texts

Blanks separate words and breaks separate lines.  A break reads as a line feed whatever it is
written as, except for the two Unicode separators, which read as themselves.
-/

namespace Workflow.Yaml

/-- Whether a character may stand in a YAML text. -/
def isAllowed (c : Char) : Bool :=
  c == '\t' || c == '\n' || c == '\r' || (' ' ≤ c && c ≤ '~') || c == '\u0085' ||
    ('\u00A0' ≤ c && c ≤ '\uFFFD') || 0x10000 ≤ c.toNat

/-- Whether a character separates words within a line. -/
def isBlank (c : Char) : Bool := c == ' ' || c == '\t'

/-- Whether a character ends a line. -/
def isBreak (c : Char) : Bool :=
  c == '\n' || c == '\r' || c == '\u0085' || c == '\u2028' || c == '\u2029'

def normalBreak (c : Char) : Char := if c == '\u2028' || c == '\u2029' then c else '\n'

def atLineEnd : List Char → Bool
  | [] => true
  | c :: _ => isBreak c

def atWordEnd : List Char → Bool
  | [] => true
  | c :: _ => isBlank c || isBreak c

/-- Whether a character may stand in the name of an anchor, a tag handle or a directive. -/
def isNameCharacter (c : Char) : Bool := Text.isAsciiAlphanumeric c || c == '-' || c == '_'

/-- Whether a character shapes collections that are written within brackets. -/
def isFlowIndicator (c : Char) : Bool :=
  c == ',' || c == '[' || c == ']' || c == '\x7b' || c == '\x7d'

/-- Whether a line starts with a mark of a document: three hyphens or three dots. -/
def isDocumentMark : List Char → Bool
  | '-' :: '-' :: '-' :: rest | '.' :: '.' :: '.' :: rest => atWordEnd rest
  | _ => false

end Workflow.Yaml
