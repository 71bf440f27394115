import Workflow.Delimited.Layout

/-!
# Writing delimited text

Every record becomes one line.  A field is quoted only if it holds a delimiter, a quote or a
line end, and a record of which nothing would be seen is written as an empty quoted field, so
that its line is not empty.
-/

namespace Workflow.Delimited

variable {σ : Type} [BEq σ]

def quoteField (symbols : Symbols σ) (field : List σ) : List σ :=
  symbols.quote ::
    (field.flatMap (fun symbol =>
      if symbol == symbols.quote then [symbols.quote, symbols.quote] else [symbol]) ++
      [symbols.quote])

def writeField (symbols : Symbols σ) (field : List σ) : List σ :=
  if field.any symbols.needsQuotes then quoteField symbols field else field

/-- A record as it is written, without the end of its line. -/
def writeRecord (symbols : Symbols σ) (fields : List (List σ)) : List σ :=
  match [symbols.delimiter].intercalate (fields.map (writeField symbols)) with
  | [] => [symbols.quote, symbols.quote]
  | line => line

/-- Several records, each on its own line. -/
def write (symbols : Symbols σ) (records : List (List (List σ))) : List σ :=
  records.flatMap fun record => writeRecord symbols record ++ [symbols.lineFeed]

end Workflow.Delimited
