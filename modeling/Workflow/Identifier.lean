import Workflow.Text.Numeric

/-!
# Identifiers

Geolayers, tables, properties and blocks are named by identifiers: texts that are not empty,
hold neither a space nor a colon, and are not made of numeric characters alone.
-/

namespace Workflow

/-- Why a text is no identifier. -/
inductive IdentifierFault where
  | empty
  | space
  | colon
  | numeric
  deriving DecidableEq, Repr

namespace Identifier

/-- The first reason for which a text is no identifier. -/
def fault? (text : String) : Option IdentifierFault :=
  if text = "" then some .empty
  else if text.toList.contains ' ' then some .space
  else if text.toList.contains ':' then some .colon
  else if text.toList.all Text.isNumeric then some .numeric
  else none

/-- Whether a text may name something. -/
def isValid (text : String) : Bool := (fault? text).isNone

/-- The complaint about a text that is no identifier. -/
def complaint (text : String) : IdentifierFault → String
  | .empty => "Invalid ID: ID may not be empty"
  | .space => s!"Invalid ID `{text}`: ID may not contain spaces"
  | .colon => s!"Invalid ID `{text}`: ID may not contain a colon"
  | .numeric => s!"Invalid ID `{text}`: ID cannot be purely numeric"

end Identifier

end Workflow
