import Workflow.Delimited.Layout

/-!
# Reading delimited text

A record ends at the end of its line; empty lines are no records.  A quote at the start of a
field opens a quoted part, in which delimiters and line ends stand for themselves and a
doubled quote for one; what follows the closing quote is read as it is.
-/

namespace Workflow.Delimited

variable {σ : Type} [BEq σ]

/-- Where the reader is within a record. -/
inductive Mode where
  /-- Before the first symbol of a record. -/
  | beforeRecord
  /-- Before the first symbol of a field. -/
  | beforeField
  | unquoted
  | quoted
  /-- After a quote inside a quoted part. -/
  | afterQuote
  deriving DecidableEq, Repr

/-- A record, with the rest of the input where its reading began. -/
structure Reading (σ : Type) where
  input : List σ
  fields : List (List σ)

/-- What one symbol does to the field at hand. -/
inductive Move (σ : Type) where
  /-- Nothing is added and reading goes on in another mode. -/
  | skip (mode : Mode)
  /-- The symbol is added to the field. -/
  | add (mode : Mode)
  | endField
  | endRecord

/-- The move for a symbol outside of quotes that opens no quoted part. -/
def plainMove (symbols : Symbols σ) (symbol : σ) : Move σ :=
  if symbol == symbols.delimiter then .endField
  else if symbols.endsLine symbol then .endRecord
  else .add .unquoted

def fieldMove (symbols : Symbols σ) (symbol : σ) : Move σ :=
  if symbol == symbols.quote then .skip .quoted else plainMove symbols symbol

def move (symbols : Symbols σ) : Mode → σ → Move σ
  | .beforeRecord, symbol =>
      if symbols.endsLine symbol then .skip .beforeRecord else fieldMove symbols symbol
  | .beforeField, symbol => fieldMove symbols symbol
  | .unquoted, symbol => plainMove symbols symbol
  | .quoted, symbol => if symbol == symbols.quote then .skip .afterQuote else .add .quoted
  | .afterQuote, symbol =>
      if symbol == symbols.quote then .add .quoted else plainMove symbols symbol

/-- The records of an input.  `field` and `fields` hold what has been read of the record at
hand, the last part first, and `start` the input where it began. -/
def readFrom (symbols : Symbols σ) (mode : Mode) (field : List σ) (fields : List (List σ))
    (start : List σ) : List σ → List (Reading σ)
  | [] =>
      match mode with
      | .beforeRecord => []
      | _ => [⟨start, (field.reverse :: fields).reverse⟩]
  | symbol :: rest =>
      match move symbols mode symbol with
      | .skip mode => readFrom symbols mode field fields start rest
      | .add mode => readFrom symbols mode (symbol :: field) fields start rest
      | .endField => readFrom symbols .beforeField [] (field.reverse :: fields) start rest
      | .endRecord =>
          ⟨start, (field.reverse :: fields).reverse⟩ ::
            readFrom symbols .beforeRecord [] [] rest rest

/-- The records of an input, with the places where their reading began. -/
def readings (symbols : Symbols σ) (input : List σ) : List (Reading σ) :=
  readFrom symbols .beforeRecord [] [] input input

def records (symbols : Symbols σ) (input : List σ) : List (List (List σ)) :=
  (readings symbols input).map (·.fields)

example : records (.characters ',') "a,\"b\"\"c,\n\"x\r\n\r\n1,".toList =
    [["a".toList, "b\"c,\nx".toList], ["1".toList, []]] := by decide

end Workflow.Delimited
