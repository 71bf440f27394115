import Workflow.Yaml.Folding
import Workflow.Yaml.SyntaxError

/-!
# Plain scalars

A plain scalar is a text without quotes.  It ends before a colon that ends a word, before a
comment, before the brackets and commas of the collection around it, and before a line that is
not indented far enough.
-/

namespace Workflow.Yaml

/-- Where a plain scalar stands: within brackets or not, and at least how far its lines have to
be indented. -/
structure PlainContext where
  inFlow : Bool
  indent : Nat

/-- A scalar that was read, and what follows it.  `brokeLine` tells whether lines were left
behind after its last word. -/
structure PlainReading where
  text : String
  brokeLine : Bool
  rest : Cursor

namespace PlainScalar

/-- Whether a colon stands right before an indicator. -/
def isMisplacedColon : List Char → Bool
  | ':' :: next :: _ => next == '?' || (isFlowIndicator next)
  | _ => false

/-- Whether a text starts with something that ends a plain scalar. -/
def endsAt (context : PlainContext) : List Char → Bool
  | ':' :: rest => atWordEnd rest
  | c :: _ => context.inFlow && isFlowIndicator c
  | [] => true

/-- Whether a gap ends a plain scalar, given what follows it in which column. -/
def endsAfter (context : PlainContext) (gap : Gap) (column : Nat) (text : List Char) : Bool :=
  gap != .empty &&
    ((!context.inFlow && column < context.indent) || (column == 0 && isDocumentMark text) ||
      text.head? == some '#')

/-- The rest of a plain scalar after the words in `reversed` and a gap. -/
def scan (context : PlainContext) :
    (reversed : List Char) → Gap → Mark → List Char → Except Misreading PlainReading
  | reversed, gap, mark, [] => .ok ⟨String.ofList reversed.reverse, gap.hasBreak, mark, []⟩
  | reversed, gap, mark, '\r' :: '\n' :: rest =>
      scan context reversed (gap.addBreak '\n') (mark.newLine 2) rest
  | reversed, gap, mark, c :: rest =>
      if isBreak c then scan context reversed (gap.addBreak c) (mark.newLine 1) rest
      else if isBlank c then
        if c == '\t' && gap.hasBreak && mark.column < context.indent then
          .error ⟨.plainScalar, .tabBeforeLine, mark⟩
        else scan context reversed (gap.addBlank c) mark.next rest
      else if endsAfter context gap mark.column (c :: rest) then
        .ok ⟨String.ofList reversed.reverse, gap.hasBreak, mark, c :: rest⟩
      else if context.inFlow && isMisplacedColon (c :: rest) then
        .error ⟨.plainScalar, .strayColon, mark⟩
      else if endsAt context (c :: rest) then
        .ok ⟨String.ofList reversed.reverse, gap.hasBreak, mark, c :: rest⟩
      else scan context (c :: (gap.reversed ++ reversed)) .empty mark.next rest

end PlainScalar

end Workflow.Yaml
