import Workflow.Yaml.BlockScalar
import Workflow.Yaml.PlainScalar
import Workflow.Yaml.QuotedScalar
import Workflow.Yaml.Token

/-!
# Scanning YAML texts

The scanner turns a text into tokens.  It keeps the columns of the open block collections, so
that a line further left ends them and a line further right starts new ones.

Whether a node is the key of a mapping shows only at the colon behind it.  So the scanner
remembers the place of the last node that may be a key, one for every level of brackets, and
announces the key there once the colon is found.  Such a key has to end on the line where it
starts and within 1024 characters; a node where nothing but a key can stand must have a colon.
A token is certain once it cannot be the start of a key any more.  Where the form of the text is
wrong, the tokens that were certain by then are still delivered.
-/

namespace Workflow.Yaml

/-- A node that may turn out to be a key. -/
structure PossibleKey where
  /-- The number of tokens before it. -/
  place : Nat
  mark : Mark
  /-- Whether nothing but a key can stand there. -/
  required : Bool
  deriving DecidableEq, Repr

namespace PossibleKey

/-- The most characters of a key that is not announced by a question mark. -/
def maxLength : Nat := 1024

/-- Whether a key can no longer end at a place. -/
def isStale (key : PossibleKey) (mark : Mark) : Bool :=
  key.mark.line < mark.line || key.mark.index + maxLength < mark.index

/-- The key is given up at a place; it is an error if there had to be one. -/
def giveUp (key : PossibleKey) (mark : Mark) : Except SyntaxError (Option PossibleKey) :=
  if key.required then .error ⟨.noColon, mark, some (.simpleKey, key.mark)⟩ else .ok none

/-- The key, unless it can no longer end at a place. -/
def keepFresh (mark : Mark) : Option PossibleKey → Except SyntaxError (Option PossibleKey)
  | none => .ok none
  | some key => if key.isStale mark then key.giveUp mark else .ok (some key)

end PossibleKey

/-- Where the scan of a gap between tokens stands: at the start of a line, within one, or within
a comment. -/
inductive GapPlace where
  | lineStart
  | line
  | comment
  deriving DecidableEq, Repr

/-- What is left of a text after blanks, breaks and comments, and whether a key may start there.
Tabs do not count as blanks where a key may start in a block.  A line may start with a byte order
mark. -/
def skipGap (inFlow : Bool) :
    (keyAllowed : Bool) → GapPlace → Mark → List Char → Bool × Cursor
  | keyAllowed, _, mark, [] => (keyAllowed, ⟨mark, []⟩)
  | keyAllowed, _, mark, '\r' :: '\n' :: rest =>
      skipGap inFlow (keyAllowed || !inFlow) .lineStart (mark.newLine 2) rest
  | keyAllowed, place, mark, c :: rest =>
      if isBreak c then skipGap inFlow (keyAllowed || !inFlow) .lineStart (mark.newLine 1) rest
      else if place == .comment then skipGap inFlow keyAllowed .comment mark.next rest
      else if (place == .lineStart && c == '\uFEFF') || c == ' ' ||
          (c == '\t' && (inFlow || !keyAllowed)) then
        skipGap inFlow keyAllowed .line mark.next rest
      else if c == '#' then skipGap inFlow keyAllowed .comment mark.next rest
      else (keyAllowed, ⟨mark, c :: rest⟩)

/-- The state of a scan. -/
structure Scanner where
  /-- What is left of the text. -/
  text : List Char
  mark : Mark := {}
  /-- The tokens that were found, in reverse order. -/
  reversed : List (Located Token) := []
  /-- How many tokens were found. -/
  count : Nat := 0
  /-- The columns of the open block collections, the innermost first. -/
  indents : List Nat := []
  /-- The possible key within the innermost brackets. -/
  key : Option PossibleKey := none
  /-- The possible keys around each pair of open brackets, the innermost first. -/
  outerKeys : List (Option PossibleKey) := []
  /-- Whether a key may start at this place. -/
  keyAllowed : Bool := true

/-- The next state of a scan. -/
abbrev Scanned := Except SyntaxError Scanner

namespace Scanner

/-- Whether the scanner is within brackets. -/
def inFlow (scanner : Scanner) : Bool := !scanner.outerKeys.isEmpty

/-- The scanner behind a token that starts here and is followed by `rest`. -/
def emit (scanner : Scanner) (token : Token) (rest : Cursor) : Scanner :=
  { scanner with
    text := rest.text
    mark := rest.mark
    reversed := ⟨token, scanner.mark, rest.mark⟩ :: scanner.reversed
    count := scanner.count + 1 }

/-- The scanner with a token without a text of its own in front of the tokens from a place on. -/
def announce (scanner : Scanner) (place : Nat) (token : Token) (mark : Mark) : Scanner :=
  { scanner with
    reversed := scanner.reversed.insertIdx (scanner.count - place) ⟨token, mark, mark⟩
    count := scanner.count + 1 }

/-- The scanner where a key may start or not. -/
def allowKey (scanner : Scanner) (allowed : Bool) : Scanner :=
  { scanner with keyAllowed := allowed }

def refuse {α : Type} (scanner : Scanner) (problem : Problem) : Except SyntaxError α :=
  .error ⟨problem, scanner.mark, none⟩

/-- What was read from this place on. -/
def accept {α : Type} (scanner : Scanner) : Except Misreading α → Except SyntaxError α
  | .ok reading => .ok reading
  | .error misreading =>
      .error ⟨misreading.problem, misreading.mark, some (misreading.activity, scanner.mark)⟩

/-- The innermost block collections whose columns satisfy `ends` end here.  None ends within
brackets. -/
def closeBlocks (scanner : Scanner) (ends : Nat → Bool) : Scanner :=
  if scanner.inFlow then scanner
  else
    let (closed, left) := scanner.indents.span ends
    closed.foldl (fun scanner _ => scanner.announce scanner.count .blockEnd scanner.mark)
      { scanner with indents := left }

/-- The start of a block collection at a mark, unless an open one starts in its column.  The
token goes in front of those from a place on. -/
def openBlock (scanner : Scanner) (mark : Mark) (place : Nat) (token : Token) : Scanner :=
  if scanner.inFlow || scanner.indents.head?.any (mark.column ≤ ·) then scanner
  else { (scanner.announce place token mark) with indents := mark.column :: scanner.indents }

/-- The scanner without the possible keys that are stale. -/
def dropStaleKeys (scanner : Scanner) : Scanned := do
  let outerKeys ← scanner.outerKeys.reverse.mapM (PossibleKey.keepFresh scanner.mark)
  let key ← PossibleKey.keepFresh scanner.mark scanner.key
  return { scanner with key, outerKeys := outerKeys.reverse }

/-- The scanner without the possible key within the innermost brackets. -/
def dropKey (scanner : Scanner) : Scanned :=
  match scanner.key with
  | none => .ok scanner
  | some key => do return { scanner with key := ← key.giveUp scanner.mark }

/-- The scanner with the node that starts here as a possible key. -/
def saveKey (scanner : Scanner) : Scanned :=
  if !scanner.keyAllowed then .ok scanner
  else do
    let scanner ← scanner.dropKey
    let required := !scanner.inFlow && scanner.indents.head? == some scanner.mark.column
    return { scanner with key := some ⟨scanner.count, scanner.mark, required⟩ }

/-- The scanner at the next token, with the block collections closed that end before it. -/
def arrive (scanner : Scanner) : Scanned := do
  let place := if scanner.mark.column = 0 then .lineStart else .line
  let (keyAllowed, rest) :=
    skipGap scanner.inFlow scanner.keyAllowed place scanner.mark scanner.text
  let arrived : Scanner := { scanner with text := rest.text, mark := rest.mark, keyAllowed }
  let scanner ← arrived.dropStaleKeys
  return scanner.closeBlocks (scanner.mark.column < ·)

def endDocument (scanner : Scanner) : Scanned := do
  let scanner ← (scanner.closeBlocks fun _ => true).dropKey
  return scanner.allowKey false

/-- A mark of a document; `rest` follows its three characters. -/
def documentMark (scanner : Scanner) (token : Token) (rest : Cursor) : Scanned := do
  let scanner ← scanner.endDocument
  return scanner.emit token rest

/-- A directive; `rest` follows its percent sign. -/
def directive (scanner : Scanner) (rest : Cursor) : Scanned := do
  let scanner ← scanner.endDocument
  let (directive, rest) ← scanner.accept (Directive.scan rest)
  return scanner.emit (.directive directive) rest

def openFlow (scanner : Scanner) (token : Token) (rest : Cursor) : Scanned := do
  let scanner ← scanner.saveKey
  let inner := { scanner with key := none, outerKeys := scanner.key :: scanner.outerKeys }
  return (inner.allowKey true).emit token rest

def closeFlow (scanner : Scanner) (token : Token) (rest : Cursor) : Scanned := do
  let scanner ← scanner.dropKey
  let outer := match scanner.outerKeys with
    | [] => scanner
    | key :: outerKeys => { scanner with key, outerKeys }
  return (outer.allowKey false).emit token rest

/-- The comma between two entries of a flow collection. -/
def flowEntry (scanner : Scanner) (rest : Cursor) : Scanned := do
  let scanner ← scanner.dropKey
  return (scanner.allowKey true).emit .flowEntry rest

/-- The start of a block collection at an indicator.  One can start only where a key can. -/
def enterBlock (scanner : Scanner) (token : Token) (problem : Problem) : Scanned :=
  if scanner.inFlow then .ok scanner
  else if !scanner.keyAllowed then scanner.refuse problem
  else .ok (scanner.openBlock scanner.mark scanner.count token)

/-- The hyphen before an item of a block sequence. -/
def blockEntry (scanner : Scanner) (rest : Cursor) : Scanned := do
  let scanner ← scanner.enterBlock .blockSequenceStart .entryNotAllowed
  let scanner ← scanner.dropKey
  return (scanner.allowKey true).emit .blockEntry rest

/-- The question mark before a key. -/
def explicitKey (scanner : Scanner) (rest : Cursor) : Scanned := do
  let scanner ← scanner.enterBlock .blockMappingStart .keyNotAllowed
  let scanner ← scanner.dropKey
  return (scanner.allowKey !scanner.inFlow).emit .key rest

/-- The colon behind a key. -/
def valueMark (scanner : Scanner) (rest : Cursor) : Scanned :=
  match scanner.key with
  | some key =>
      let announced := (scanner.announce key.place .key key.mark).openBlock key.mark key.place
        .blockMappingStart
      .ok (({ announced with key := none }.allowKey false).emit .value rest)
  | none => do
      let scanner ← scanner.enterBlock .blockMappingStart .valueNotAllowed
      return (scanner.allowKey !scanner.inFlow).emit .value rest

/-- A token that may be the start of a key, and what follows it. -/
def node {α : Type} (scanner : Scanner) (token : α → Token)
    (reading : Except Misreading (α × Cursor)) : Scanned := do
  let scanner ← scanner.saveKey
  let (content, rest) ← scanner.accept reading
  return (scanner.allowKey false).emit (token content) rest

/-- A block scalar; `rest` follows its indicator. -/
def blockScalar (scanner : Scanner) (style : ScalarStyle) (rest : Cursor) : Scanned := do
  let scanner ← scanner.dropKey
  let (text, rest) ← scanner.accept
    (BlockScalar.read (style == .folded) scanner.indents.head? rest)
  return (scanner.allowKey true).emit (.scalar style text) rest

/-- How a plain scalar at this place is bounded. -/
def plainContext (scanner : Scanner) : PlainContext :=
  ⟨scanner.inFlow, (scanner.indents.head?.map (· + 1)).getD 0⟩

/-- A plain scalar.  Behind one that leaves lines behind a key may start. -/
def plainScalar (scanner : Scanner) : Scanned := do
  let scanner ← scanner.saveKey
  let reading ← scanner.accept
    (PlainScalar.scan scanner.plainContext [] .empty scanner.mark scanner.text)
  return (scanner.allowKey reading.brokeLine).emit (.scalar .plain reading.text) reading.rest

/-- The characters that start a plain scalar in no case. -/
def plainExceptions : List Char :=
  ['-', '?', ':', ',', '[', ']', '\x7b', '\x7d', '#', '&', '*', '!', '|', '>', '\'', '"', '%', '@',
   '\x60']

/-- Whether a plain scalar starts with `c` before `rest`. -/
def startsPlain (scanner : Scanner) (c : Char) (rest : List Char) : Bool :=
  !(isBlank c || isBreak c || plainExceptions.contains c) ||
    (c == '-' && !(rest.head?.any isBlank)) ||
    (!scanner.inFlow && (c == '?' || c == ':') && !atWordEnd rest)

/-- The token that starts with `c` before `rest`, unless it is only found at the start of a
line. -/
def indicator (scanner : Scanner) (c : Char) (rest : Cursor) : Scanned :=
  let atFlow := scanner.inFlow || atWordEnd rest.text
  if c == '[' then scanner.openFlow .flowSequenceStart rest
  else if c == '\x7b' then scanner.openFlow .flowMappingStart rest
  else if c == ']' then scanner.closeFlow .flowSequenceEnd rest
  else if c == '\x7d' then scanner.closeFlow .flowMappingEnd rest
  else if c == ',' then scanner.flowEntry rest
  else if c == '-' && atWordEnd rest.text then scanner.blockEntry rest
  else if c == '?' && atFlow then scanner.explicitKey rest
  else if c == ':' && atFlow then scanner.valueMark rest
  else if c == '*' then scanner.node .alias (Anchor.scan .aliasName rest)
  else if c == '&' then scanner.node .anchor (Anchor.scan .anchorName rest)
  else if c == '!' then scanner.node .tag (Tag.scan scanner.inFlow rest)
  else if c == '|' && !scanner.inFlow then scanner.blockScalar .literal rest
  else if c == '>' && !scanner.inFlow then scanner.blockScalar .folded rest
  else if c == '\'' then
    scanner.node (.scalar .singleQuoted) (SingleQuoted.scan [] .empty rest.mark rest.text)
  else if c == '"' then
    scanner.node (.scalar .doubleQuoted) (DoubleQuoted.scan .between [] .empty rest.mark rest.text)
  else if scanner.startsPlain c rest.text then scanner.plainScalar
  else .error ⟨.noToken, scanner.mark, some (.nextToken, scanner.mark)⟩

/-- The token at this place, where `c` stands before `rest`. -/
def fetch (scanner : Scanner) (c : Char) (rest : List Char) : Scanned :=
  let behind : Cursor := ⟨scanner.mark.next, rest⟩
  if scanner.mark.column == 0 && c == '%' then scanner.directive behind
  else if scanner.mark.column == 0 && isDocumentMark (c :: rest) then
    scanner.documentMark (if c == '-' then .documentStart else .documentEnd) behind.tail.tail
  else scanner.indicator c behind

/-- The scanner behind the next token, or behind the end of the text, which is the start of a
line. -/
def advance (scanner : Scanner) : Scanned := do
  let scanner ← scanner.arrive
  match scanner.text with
  | [] => ({ scanner with mark := scanner.mark.atLineStart } : Scanner).endDocument
  | c :: rest => scanner.fetch c rest

/-- How many of the tokens are certain. -/
def certain (scanner : Scanner) : Nat :=
  ((scanner.key :: scanner.outerKeys).filterMap id).foldl (fun count key => min count key.place)
    scanner.count

/-- The tokens of the text; `fuel` bounds the number of those that are still to be found. -/
def run : (fuel : Nat) → Scanner → Tokens
  | 0, scanner => ⟨scanner.reversed.reverse, .ok scanner.mark⟩
  | fuel + 1, scanner =>
      match scanner.advance.bind dropStaleKeys with
      | .error error => ⟨scanner.reversed.reverse.take scanner.certain, .error error⟩
      | .ok next =>
          if scanner.text = [] then ⟨next.reversed.reverse, .ok next.mark⟩ else run fuel next

end Scanner

/-- The tokens of a text.  Every token takes at least one character. -/
def Tokens.ofText (text : List Char) : Tokens := Scanner.run (text.length + 2) { text }

end Workflow.Yaml
