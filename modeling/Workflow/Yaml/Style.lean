import Workflow.Text.Hexadecimal
import Workflow.Yaml.Character
import Workflow.Yaml.Resolution

/-!
# Writing scalars

A text is written so that it is read back as the same text.  Texts of several lines become
literal scalars, texts that would be read as something else get single quotes, and all other
texts are plain.  Where a style cannot hold a text, the next stricter one is taken; double quotes
can hold every text.
-/

namespace Workflow.Yaml.Style

/-- The style in which a text is written. -/
inductive Written where
  | plain
  | singleQuoted
  | literal
  | doubleQuoted
  deriving DecidableEq, Repr

/-- Whether a character may be written as itself. -/
def isPrintable (c : Char) : Bool :=
  c == '\n' || (' ' ≤ c && c ≤ '~') || ('\u00A0' ≤ c && c ≤ '\uFFFD' && c != '\uFEFF') ||
    0x10000 ≤ c.toNat

/-- Whether a plain text would not be read as a text, or looks like a number. -/
def isAmbiguous (text : String) : Bool :=
  Resolution.value text != .text || Resolution.hasSpareZero text.toList

/-- Whether the characters of a text have a neighbor with a property right behind them. -/
def hasPair (first second : Char → Bool) (text : List Char) : Bool :=
  (text.zip text.tail).any fun pair => first pair.1 && second pair.2

/-- The characters that start something other than a plain scalar. -/
def startIndicators : List Char :=
  ['#', ',', '[', ']', '\x7b', '\x7d', '&', '*', '!', '|', '>', '\'', '"', '%', '@', '\x60']

/-- Whether the first characters of a text mean something in a plain scalar. -/
def startsWithIndicator (text : List Char) : Bool :=
  match text with
  | '-' :: '-' :: '-' :: _ | '.' :: '.' :: '.' :: _ => true
  | c :: rest =>
      startIndicators.contains c || ((c == '-' || c == '?' || c == ':') && atWordEnd rest)
  | [] => false

/-- Whether a text holds a colon that ends a word or a number sign that starts one. -/
def holdsIndicator (text : List Char) : Bool :=
  let isGap (c : Char) : Bool := isBlank c || isBreak c
  hasPair (· == ':') isGap text.tail || hasPair isGap (· == '#') text ||
    (text.tail.getLast? == some ':')

def isSpace (c : Char) : Bool := c == ' '

def fitsSingleQuotes (text : List Char) : Bool :=
  text.all isPrintable && !hasPair isSpace isBreak text && !hasPair isBreak isSpace text

def fitsLiteral (text : List Char) : Bool :=
  text.all isPrintable && !hasPair isSpace isBreak text && !(text.getLast?.any isSpace)

def fitsPlain (text : List Char) : Bool :=
  text.all isPrintable && !text.any isBreak && !(text.head?.any isSpace) &&
    !(text.getLast?.any isSpace) && !startsWithIndicator text && !holdsIndicator text

def choose (text : String) : Written :=
  let content := text.toList
  if content.contains '\n' then
    if fitsLiteral content then .literal else .doubleQuoted
  else if !isAmbiguous text && fitsPlain content then .plain
  else if fitsSingleQuotes content then .singleQuoted
  else .doubleQuoted

/-- The characters with a letter of their own after a backslash. -/
def letters : List (Char × Char) :=
  [('\x00', '0'), ('\x07', 'a'), ('\x08', 'b'), ('\t', 't'), ('\n', 'n'), ('\x0B', 'v'),
   ('\x0C', 'f'), ('\r', 'r'), ('\x1B', 'e'), ('"', '"'), ('\\', '\\'), ('\u0085', 'N'),
   ('\u2028', 'L'), ('\u2029', 'P')]

/-- The number of a character in hexadecimal digits, with a letter for their count. -/
def code (c : Char) : List Char :=
  let digits (count : Nat) : List Char := (Text.hexDigits count c.toNat).map Text.upperAscii
  if c.toNat < 0x100 then 'x' :: digits 2
  else if c.toNat < 0x10000 then 'u' :: digits 4
  else 'U' :: digits 8

/-- A character within double quotes. -/
def escape (c : Char) : List Char :=
  match letters.lookup c with
  | some letter => ['\\', letter]
  | none => if isPrintable c then [c] else '\\' :: code c

def doubleQuoted (text : List Char) : List Char := '"' :: (text.flatMap escape ++ ['"'])

/-- A text whose lines after a break are indented. -/
def indentLines (indent : Nat) : (afterBreak : Bool) → List Char → List Char
  | _, [] => []
  | afterBreak, c :: rest =>
      if isBreak c then c :: indentLines indent true rest
      else
        (if afterBreak then List.replicate indent ' ' else []) ++ c :: indentLines indent false rest

def singleQuoted (indent : Nat) (text : List Char) : List Char :=
  let doubled := text.flatMap fun c => if c == '\'' then ['\'', '\''] else [c]
  let margin := if text.getLast?.any isBreak then List.replicate indent ' ' else []
  '\'' :: (indentLines indent false doubled ++ margin ++ ['\''])

/-- The header of a literal scalar, which says what becomes of the breaks at its end. -/
def literalHeader (text : List Char) : List Char :=
  let width := if text.head?.any fun c => isSpace c || isBreak c then ['2'] else []
  let chomping := match text.reverse with
    | [] => ['-']
    | last :: before =>
        if !isBreak last then ['-']
        else if before.head?.all isBreak then ['+']
        else []
  '|' :: (width ++ chomping)

def literal (indent : Nat) (text : List Char) : List Char :=
  literalHeader text ++ '\n' :: indentLines indent true text

/-- A text with the line feed that ends it.  Lines after the first are indented. -/
def write (indent : Nat) (text : String) : List Char :=
  let content := text.toList
  match choose text with
  | .plain => content ++ ['\n']
  | .singleQuoted => singleQuoted indent content ++ ['\n']
  | .doubleQuoted => doubleQuoted content ++ ['\n']
  | .literal =>
      literal indent content ++ (if content.getLast?.any isBreak then [] else ['\n'])

end Workflow.Yaml.Style
