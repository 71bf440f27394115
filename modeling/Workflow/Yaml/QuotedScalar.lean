import Workflow.Text.Hexadecimal
import Workflow.Yaml.Folding
import Workflow.Yaml.SyntaxError

/-!
# Quoted scalars

Within single quotes only the quote itself has to be doubled.  Within double quotes a backslash
starts an escape: a letter for a character, the number of a character, or a break that is left
out.  Neither kind may hold a line that looks like the mark of a document.
-/

namespace Workflow.Yaml

/-- Whether a line within quotes looks like the mark of a document. -/
def isStrayMark (column : Nat) (text : List Char) : Bool := column == 0 && isDocumentMark text

/-- A text within quotes, and what follows it. -/
abbrev QuotedReading := Except Misreading (String × Cursor)

namespace SingleQuoted

/-- The rest of a scalar within single quotes, and what follows it. -/
def scan : (reversed : List Char) → Gap → Mark → List Char → QuotedReading
  | _, _, mark, [] => .error ⟨.quotedScalar, .endOfText, mark⟩
  | reversed, gap, mark, '\'' :: '\'' :: rest =>
      scan ('\'' :: (gap.reversed ++ reversed)) .empty mark.next.next rest
  | reversed, gap, mark, '\'' :: rest =>
      .ok (String.ofList (gap.reversed ++ reversed).reverse, ⟨mark.next, rest⟩)
  | reversed, gap, mark, '\r' :: '\n' :: rest =>
      scan reversed (gap.addBreak '\n') (mark.newLine 2) rest
  | reversed, gap, mark, c :: rest =>
      if isBreak c then scan reversed (gap.addBreak c) (mark.newLine 1) rest
      else if isBlank c then scan reversed (gap.addBlank c) mark.next rest
      else if isStrayMark mark.column (c :: rest) then
        .error ⟨.quotedScalar, .strayDocumentMark, mark⟩
      else scan (c :: (gap.reversed ++ reversed)) .empty mark.next rest

end SingleQuoted

namespace DoubleQuoted

/-- The character that a letter after a backslash stands for. -/
def escapes : List (Char × Char) :=
  [('0', '\x00'), ('a', '\x07'), ('b', '\x08'), ('t', '\t'), ('\t', '\t'), ('n', '\n'),
   ('v', '\x0B'), ('f', '\x0C'), ('r', '\r'), ('e', '\x1B'), (' ', ' '), ('"', '"'),
   ('/', '/'), ('\\', '\\'), ('N', '\u0085'), ('_', '\u00A0'), ('L', '\u2028'),
   ('P', '\u2029')]

/-- The character with a letter after a backslash. -/
def escaped? (letter : Char) : Option Char := escapes.lookup letter

/-- The number of digits after a letter that starts the number of a character. -/
def codeLength? : Char → Option Nat
  | 'x' => some 2
  | 'u' => some 4
  | 'U' => some 8
  | _ => none

/-- The character with a number, if there is one. -/
def character? (code : Nat) : Option Char :=
  if code.isValidChar then some (Char.ofNat code) else none

/-- Where the scan of a double-quoted scalar stands: between characters, after the backslash at
a mark, or within the number of a character whose first digit is at a mark, with as many digits
left after the next one. -/
inductive Place where
  | between
  | afterBackslash (backslash : Mark)
  | inCode (digits : Mark) (value more : Nat)

/-- The rest of a scalar within double quotes, and what follows it. -/
def scan : Place → (reversed : List Char) → Gap → Mark → List Char → QuotedReading
  | .between, _, _, mark, [] => .error ⟨.quotedScalar, .endOfText, mark⟩
  | .afterBackslash backslash, _, _, _, [] => .error ⟨.escape, .unknownEscape, backslash⟩
  | .inCode digits _ _, _, _, _, [] => .error ⟨.escape, .noHexadecimal, digits⟩
  | .inCode digits value more, reversed, gap, mark, c :: rest =>
      match Text.hexValue? c, more with
      | none, _ => .error ⟨.escape, .noHexadecimal, digits⟩
      | some digit, more + 1 =>
          scan (.inCode digits (value * 16 + digit) more) reversed gap mark.next rest
      | some digit, 0 =>
          match character? (value * 16 + digit) with
          | none => .error ⟨.escape, .noSuchCharacter, digits⟩
          | some code => scan .between (code :: reversed) gap mark.next rest
  | .afterBackslash _, reversed, _, mark, '\r' :: '\n' :: rest =>
      scan .between reversed .joint (mark.newLine 2) rest
  | .afterBackslash backslash, reversed, gap, mark, c :: rest =>
      if isBreak c then scan .between reversed .joint (mark.newLine 1) rest
      else
        match escaped? c, codeLength? c with
        | some meant, _ => scan .between (meant :: reversed) gap mark.next rest
        | none, some (more + 1) => scan (.inCode mark.next 0 more) reversed gap mark.next rest
        | none, _ => .error ⟨.escape, .unknownEscape, backslash⟩
  | .between, reversed, gap, mark, '"' :: rest =>
      .ok (String.ofList (gap.reversed ++ reversed).reverse, ⟨mark.next, rest⟩)
  | .between, reversed, gap, mark, '\\' :: rest =>
      scan (.afterBackslash mark) (gap.reversed ++ reversed) .empty mark.next rest
  | .between, reversed, gap, mark, '\r' :: '\n' :: rest =>
      scan .between reversed (gap.addBreak '\n') (mark.newLine 2) rest
  | .between, reversed, gap, mark, c :: rest =>
      if isBreak c then scan .between reversed (gap.addBreak c) (mark.newLine 1) rest
      else if isBlank c then scan .between reversed (gap.addBlank c) mark.next rest
      else if isStrayMark mark.column (c :: rest) then
        .error ⟨.quotedScalar, .strayDocumentMark, mark⟩
      else scan .between (c :: (gap.reversed ++ reversed)) .empty mark.next rest

end DoubleQuoted

end Workflow.Yaml
