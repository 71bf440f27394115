import Workflow.Text.Hexadecimal
import Workflow.Yaml.SyntaxError

/-!
# Tags, anchors and directives

A tag names the type of a node by a handle and a suffix, or by a whole name between angle
brackets.  Directives at the start of a document give its version and say what the handles
stand for.
-/

namespace Workflow.Yaml

/-- A tag as it is written: a handle, which is empty for a whole name, and a suffix. -/
structure Tag where
  handle : String
  suffix : String
  deriving DecidableEq, Repr, Inhabited

/-- A directive at the start of a document. -/
inductive Directive where
  | version (major minor : Nat)
  | handle (name meaning : String)
  deriving DecidableEq, Repr

namespace Tag

/-- The punctuation that may stand in a tag. -/
def punctuation : List Char :=
  [';', '/', '?', ':', '@', '&', '=', '+', '$', '.', '!', '~', '*', '\'', '(', ')']

/-- Whether a character may stand in a tag; commas and square brackets only in a whole name. -/
def isTagCharacter (whole : Bool) (c : Char) : Bool :=
  isNameCharacter c || punctuation.contains c ||
    (whole && (c == ',' || c == '[' || c == ']'))

/-- The value of a byte that starts a character, with the number of bytes that follow it. -/
def leadingByte? (byte : Nat) : Option (Nat × Nat) :=
  if byte < 0x80 then some (byte, 0)
  else if 0xC0 ≤ byte ∧ byte < 0xE0 then some (byte - 0xC0, 1)
  else if 0xE0 ≤ byte ∧ byte < 0xF0 then some (byte - 0xE0, 2)
  else if 0xF0 ≤ byte ∧ byte < 0xF8 then some (byte - 0xF0, 3)
  else none

/-- The character of a value that is written with as many bytes; no other bytes than its own
stand for a character. -/
def character (width value : Nat) : Char :=
  let natural := (Char.ofNat value).utf8Size
  if width = natural then Char.ofNat value else '\uFFFD'

/-- An escaped character that is not complete: the number of its bytes, the value of those that
were read, and how many are to come. -/
structure Pending where
  width : Nat
  value : Nat
  more : Nat

/-- The text of a tag, or of the meaning of a handle, from its start.  A percent sign stands
before every byte of an escaped character. -/
def scanText (activity : Activity) (whole : Bool) : (reversed : List Char) → Option Pending →
    Mark → List Char → Except Misreading (List Char × Cursor)
  | reversed, none, mark, [] => .ok (reversed.reverse, ⟨mark, []⟩)
  | _, some _, mark, [] => .error ⟨activity, .noEscapedByte, mark⟩
  | reversed, pending, mark, '%' :: high :: low :: rest =>
      let after := mark.next.next.next
      match Text.hexValue? high, Text.hexValue? low, pending with
      | some high, some low, none =>
          match leadingByte? (high * 16 + low) with
          | some (value, 0) =>
              scanText activity whole (Char.ofNat value :: reversed) none after rest
          | some (value, more + 1) =>
              scanText activity whole reversed (some ⟨more + 2, value, more + 1⟩) after rest
          | none => .error ⟨activity, .wrongFirstByte, mark⟩
      | some high, some low, some pending =>
          let byte := high * 16 + low
          if byte < 0x80 ∨ 0xC0 ≤ byte then .error ⟨activity, .wrongNextByte, mark⟩
          else
            let value := pending.value * 64 + (byte - 0x80)
            if pending.more ≤ 1 then
              scanText activity whole (character pending.width value :: reversed) none after rest
            else
              scanText activity whole reversed
                (some { pending with value, more := pending.more - 1 }) after rest
      | _, _, _ => .error ⟨activity, .noEscapedByte, mark⟩
  | reversed, none, mark, c :: rest =>
      if c == '%' then .error ⟨activity, .noEscapedByte, mark⟩
      else if isTagCharacter whole c then
        scanText activity whole (c :: reversed) none mark.next rest
      else .ok (reversed.reverse, ⟨mark, c :: rest⟩)
  | _, some _, mark, _ :: _ => .error ⟨activity, .noEscapedByte, mark⟩

/-- A text that must not be empty. -/
def scanSomeText (activity : Activity) (whole : Bool) (cursor : Cursor) :
    Except Misreading (List Char × Cursor) := do
  let (found, rest) ← scanText activity whole [] none cursor.mark cursor.text
  if found = [] then throw ⟨activity, .noTagText, rest.mark⟩ else return (found, rest)

/-- The handle behind an exclamation mark, and what follows it. -/
def scanHandle (cursor : Cursor) : List Char × Cursor :=
  let (name, rest) := cursor.takeWhile isNameCharacter
  if rest.text.head? = some '!' then ('!' :: (name ++ ['!']), rest.tail) else ('!' :: name, rest)

/-- Whether a handle is closed by an exclamation mark of its own. -/
def isClosed (handle : List Char) : Bool := 2 ≤ handle.length && handle.getLast? == some '!'

/-- A tag between angle brackets, from behind the opening one. -/
def scanWhole (cursor : Cursor) : Except Misreading (Tag × Cursor) := do
  let (name, rest) ← scanSomeText .tagText true cursor
  if rest.text.head? = some '>' then return (⟨"", String.ofList name⟩, rest.tail)
  else throw ⟨.tag, .noClosingBracket, rest.mark⟩

/-- A tag that consists of a handle and a suffix, from behind its exclamation mark.  A text that
is no handle after all belongs to the suffix of the plain handle; a single exclamation mark is a
tag of its own. -/
def scanShort (cursor : Cursor) : Except Misreading (Tag × Cursor) := do
  let (handle, rest) := scanHandle cursor
  if isClosed handle then
    let (suffix, rest) ← scanSomeText .tagText false rest
    return (⟨String.ofList handle, String.ofList suffix⟩, rest)
  else
    let (suffix, rest) ← scanText .tagText false [] none rest.mark rest.text
    match handle.tail ++ suffix with
    | [] => return (⟨"", "!"⟩, rest)
    | suffix => return (⟨"!", String.ofList suffix⟩, rest)

/-- The tag behind an exclamation mark, and what follows it.  A tag is a word of its own. -/
def scan (inFlow : Bool) (cursor : Cursor) : Except Misreading (Tag × Cursor) := do
  let (tag, rest) ←
    if cursor.text.head? = some '<' then scanWhole cursor.tail else scanShort cursor
  if atWordEnd rest.text || (inFlow && rest.text.head? == some ',') then return (tag, rest)
  else throw ⟨.tag, .noWordEnd, rest.mark⟩

end Tag

namespace Anchor

/-- Whether the name of an anchor may end before a text. -/
def mayEndAt : List Char → Bool
  | [] => true
  | c :: _ => isBlank c || isBreak c || ['?', ':', ',', ']', '\x7d', '%', '@', '\x60'].contains c

/-- The name of an anchor, and what follows it. -/
def scan (activity : Activity) (cursor : Cursor) : Except Misreading (String × Cursor) :=
  let (name, rest) := cursor.takeWhile isNameCharacter
  if name = [] || !mayEndAt rest.text then .error ⟨activity, .noName, rest.mark⟩
  else .ok (String.ofList name, rest)

end Anchor

namespace Directive

/-- The most digits of a version number. -/
def maxDigits : Nat := 9

/-- A version number, and what follows it. -/
def scanNumber (cursor : Cursor) : Except Misreading (Nat × Cursor) :=
  let (digits, rest) := cursor.takeWhile Char.isDigit
  if digits = [] then .error ⟨.versionDirective, .noVersion, rest.mark⟩
  else if maxDigits < digits.length then
    let mark := (digits.take maxDigits).foldl (fun mark _ => mark.next) cursor.mark
    .error ⟨.versionDirective, .longVersion, mark⟩
  else .ok (digits.foldl (fun number c => number * 10 + (c.toNat - '0'.toNat)) 0, rest)

def scanVersion (cursor : Cursor) : Except Misreading (Directive × Cursor) := do
  let (major, rest) ← scanNumber cursor.skipBlanks
  if rest.text.head? = some '.' then
    let (minor, rest) ← scanNumber rest.tail
    return (.version major minor, rest)
  else throw ⟨.versionDirective, .noVersionPoint, rest.mark⟩

/-- The handle at the start of a text, which is closed unless it is the plain one. -/
def scanHandle (cursor : Cursor) : Except Misreading (List Char × Cursor) :=
  if cursor.text.head? = some '!' then
    let (name, rest) := Tag.scanHandle cursor.tail
    if name = ['!'] || Tag.isClosed name then .ok (name, rest)
    else .error ⟨.handleEnd, .noExclamationMark, rest.mark⟩
  else .error ⟨.handleName, .noExclamationMark, cursor.mark⟩

/-- The handle that a directive explains. -/
def scanMeaning (cursor : Cursor) : Except Misreading (Directive × Cursor) := do
  let (name, rest) ← scanHandle cursor.skipBlanks
  if !(rest.text.head?.any isBlank) then throw ⟨.handleDirective, .noBlank, rest.mark⟩
  else
    let (meaning, rest) ← Tag.scanSomeText .handleMeaning true rest.skipBlanks
    if atWordEnd rest.text then
      return (.handle (String.ofList name) (String.ofList meaning), rest)
    else throw ⟨.handleDirective, .noWordEnd, rest.mark⟩

def scanContent (name : List Char) (cursor : Cursor) : Except Misreading (Directive × Cursor) :=
  if name = "YAML".toList then scanVersion cursor
  else if name = "TAG".toList then scanMeaning cursor
  else .error ⟨.directive, .unknownDirective, cursor.mark⟩

/-- A directive behind its percent sign, and the lines that follow it. -/
def scan (cursor : Cursor) : Except Misreading (Directive × Cursor) := do
  let (name, rest) := cursor.takeWhile isNameCharacter
  if name = [] then throw ⟨.directive, .noDirectiveName, rest.mark⟩
  else if !atWordEnd rest.text then throw ⟨.directive, .wrongDirectiveName, rest.mark⟩
  else
    let (directive, rest) ← scanContent name rest
    let rest := rest.skipComment
    if atLineEnd rest.text then return (directive, rest.skipBreak)
    else throw ⟨.directive, .noLineEnd, rest.mark⟩

end Directive

end Workflow.Yaml
