import Workflow.Value

/-!
# Conditions

A condition is a truth value or a comparison of two texts.  The operator is the one that
starts first; of several that start at one place the longest counts.  Two operands that are
both numbers are compared as numbers unless comparison as text is asked for; all others are
compared by their code points.
-/

namespace Workflow

/-- The comparisons that a condition may ask for. -/
inductive Comparison where
  | lacks
  | contains
  | atMost
  | atLeast
  | equal
  | unequal
  | below
  | above
  deriving DecidableEq, Repr

namespace Comparison

/-- Every comparison, those with longer signs first. -/
def all : List Comparison :=
  [.lacks, .contains, .atMost, .atLeast, .equal, .unequal, .below, .above]

/-- The sign that is written between the operands. -/
def sign : Comparison → List Char
  | .lacks => "!contains".toList
  | .contains => "contains".toList
  | .atMost => "<=".toList
  | .atLeast => ">=".toList
  | .equal => "==".toList
  | .unequal => "!=".toList
  | .below => "<".toList
  | .above => ">".toList

/-- The answer of a comparison on two operands in the given order; none if the operands have
no order and the comparison needs one. -/
def holds (comparison : Comparison) (order : Option Ordering) : Option Bool :=
  match comparison with
  | .equal => some (order == some .eq)
  | .unequal => some (order != some .eq)
  | .below => order.map (· == .lt)
  | .atMost => order.map (· != .gt)
  | .above => order.map (· == .gt)
  | .atLeast | .contains | .lacks => order.map (· != .lt)

end Comparison

/-- Why a condition has no truth value; each cause holds the trimmed condition. -/
inductive ConditionError where
  | noOperator (expression : String)
  | missingOperand (expression : String)
  | unordered (expression : String)
  deriving DecidableEq, Repr

/-- The wording of the reason. -/
def ConditionError.message : ConditionError → String
  | .noOperator expression => s!"Condition `{expression}` has no comparison operator"
  | .missingOperand expression => s!"Condition `{expression}` is missing an operand"
  | .unordered expression => s!"Values in condition `{expression}` cannot be ordered"

namespace Condition

/-- A comparison found in a text, with what stands before and after its sign. -/
structure Split where
  comparison : Comparison
  before : List Char
  after : List Char
  deriving DecidableEq, Repr

/-- The comparison whose sign starts a text, and what follows the sign. -/
def leading? (text : List Char) : Option (Comparison × List Char) :=
  Comparison.all.findSome? fun comparison =>
    (Text.stripStart comparison.sign text).map fun rest => (comparison, rest)

/-- The first comparison sign in a text. -/
def split? : List Char → Option Split
  | [] => none
  | c :: text =>
      match leading? (c :: text) with
      | some (comparison, rest) => some ⟨comparison, [], rest⟩
      | none => (split? text).map fun found => { found with before := c :: found.before }

/-- The order of two numbers; a number that is no number has no order. -/
def compareNumbers (left right : Float) : Option Ordering :=
  if left < right then some .lt
  else if left == right then some .eq
  else if right < left then some .gt
  else none

/-- The order of two texts by code points. -/
def compareTexts : List Char → List Char → Ordering
  | [], [] => .eq
  | [], _ :: _ => .lt
  | _ :: _, [] => .gt
  | l :: left, r :: right =>
      if l.toNat < r.toNat then .lt
      else if r.toNat < l.toNat then .gt
      else compareTexts left right

def compareOperands (asText : Bool) (left right : List Char) : Option Ordering :=
  match asText, Decimal.readFloat left, Decimal.readFloat right with
  | false, some l, some r => compareNumbers l r
  | _, _, _ => some (compareTexts left right)

/-- The truth value of a condition. -/
def evaluate (condition : String) (asText : Bool) : Except ConditionError Bool :=
  let expression := Text.trim condition.toList
  let written := String.ofList expression
  match readBoolean written with
  | some truth => .ok truth
  | none =>
    match split? expression with
    | none => .error (.noOperator written)
    | some split =>
      let left := Text.trim split.before
      let right := Text.trim split.after
      if left = [] ∨ right = [] then .error (.missingOperand written)
      else
        match split.comparison with
        | .contains => .ok (Text.occurs right left)
        | .lacks => .ok (!Text.occurs right left)
        | comparison =>
          match comparison.holds (compareOperands asText left right) with
          | some truth => .ok truth
          | none => .error (.unordered written)

end Condition

end Workflow
