import Workflow.Yaml.Grammar
import Workflow.Yaml.Node

/-!
# Reading YAML texts

A text becomes a document in three steps: its tokens, the events that they form, and the nodes
of those.  A document that could not be read to its end tells the fault.
-/

namespace Workflow.Yaml.Document

/-- The number of bytes before the first character that may not stand in a text. -/
def forbidden? : (offset : Nat) → List Char → Option Nat
  | _, [] => none
  | offset, c :: rest =>
      if isAllowed c then forbidden? (offset + c.utf8Size) rest else some offset

def ofText (text : List Char) : Document :=
  match forbidden? 0 text with
  | some offset => unread (.forbiddenCharacter offset)
  | none => ofEvents (.ofTokens (.ofText text))

def ofBytes (bytes : ByteArray) : Document :=
  match String.fromUTF8? bytes with
  | some text => ofText text.toList
  | none => unread (.unreadable "stream did not contain valid UTF-8")

end Workflow.Yaml.Document
