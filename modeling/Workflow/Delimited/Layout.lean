/-!
# The symbols of delimited text

Delimited text is made of records, one to a line, and of fields within a record.  Whether its
symbols are characters or bytes does not matter, so reading and writing work for any type of
symbols with these four among them.
-/

namespace Workflow.Delimited

/-- The symbols with a meaning of their own. -/
structure Symbols (σ : Type) where
  delimiter : σ
  quote : σ
  carriageReturn : σ
  lineFeed : σ

namespace Symbols

variable {σ : Type} [BEq σ]

def endsLine (symbols : Symbols σ) (symbol : σ) : Bool :=
  symbol == symbols.carriageReturn || symbol == symbols.lineFeed

def needsQuotes (symbols : Symbols σ) (symbol : σ) : Bool :=
  symbol == symbols.delimiter || symbol == symbols.quote || symbols.endsLine symbol

def characters (delimiter : Char) : Symbols Char := ⟨delimiter, '"', '\r', '\n'⟩

def bytes (delimiter : UInt8) : Symbols UInt8 := ⟨delimiter, 0x22, 0x0D, 0x0A⟩

end Symbols

end Workflow.Delimited
