import Workflow.Yaml.Node
import Workflow.Yaml.Resolution

/-!
# Values of YAML nodes

A node is read as a value of the form that is asked for: every scalar is a text, but only plain
ones are truth values and numbers.  A node where nothing is written is an empty collection, and
a word for nothing is a missing value.  The first node that does not fit, in the order in which
they are written, ends the reading; a misfit that no node inside has told the place of belongs
to the innermost collection around it.
-/

namespace Workflow.Yaml

/-- What is read from a document.  The state is the number of aliases that were followed. -/
abbrev Decoding (α : Type) := ReaderT Document (StateT Nat (Except Fault)) α

/-- How the node at the end of a path is read. -/
abbrev Decoder (α : Type) := NodePath → Node → Decoding α

namespace ScalarType

/-- The full name of the tag that gives the type. -/
def tag : ScalarType → String
  | .truth => "tag:yaml.org,2002:bool"
  | .integer => "tag:yaml.org,2002:int"
  | .float => "tag:yaml.org,2002:float"
  | .null => "tag:yaml.org,2002:null"

def ofTag? (tag : String) : Option ScalarType :=
  [ScalarType.truth, .integer, .float, .null].find? fun type => type.tag == tag

def value? (type : ScalarType) (text : String) : Option PlainValue :=
  match type with
  | .truth => (Resolution.boolean? text).map .truth
  | .integer => (Resolution.integer? text.toList).map .integer
  | .float => (Resolution.float? text.toList).map .float
  | .null => if Resolution.isNull text then some .nothing else none

end ScalarType

namespace Node

/-- Whether a node is a plain scalar without a text. -/
def isBlank : Node → Bool
  | .scalar _ _ .plain "" => true
  | _ => false

/-- The text of a scalar that may be of a type: a plain scalar, or a literal one with the tag of
the type. -/
def typedText? (type : ScalarType) : Node → Option String
  | .scalar _ _ .plain text => some text
  | .scalar _ (some tag) .literal text => if tag = type.tag then some text else none
  | _ => none

/-- How a scalar does not fit a form.  A tag of a type decides what it is; one that starts with
an exclamation mark changes nothing for a plain scalar. -/
def scalarMisfit (tag : Option String) (style : ScalarStyle) (text : String) (form : Form) :
    Misfit :=
  let plain := NodeKind.plain (Resolution.value text) text
  match tag, tag.bind ScalarType.ofTag? with
  | _, some type =>
      match type.value? text with
      | some value => .kind (.plain value text) form
      | none => .tagged text type
  | some name, none =>
      .kind (if name.startsWith "!" && style == .plain then plain else .text text) form
  | none, none => .kind (if style == .plain then plain else .text text) form

/-- How a node does not fit a form. -/
def misfit (form : Form) : Node → Misfit
  | .scalar _ tag style text => scalarMisfit tag style text form
  | .mapping .. => .kind .mapping form
  | _ => .kind .sequence form

end Node

namespace Decoder

/-- Something does not fit, at a place that is not told yet. -/
def refuse {α : Type} (misfit : Misfit) : Decoding α := throw (.misfit misfit none)

/-- The node that a node stands for.  Only so many aliases are followed in a document. -/
def follow : Node → Decoding Node
  | .missing fault => throw fault
  | .alias anchor => do
      let document ← read
      let followed := (← get) + 1
      set followed
      if document.maxAliases < followed then throw .tooManyAliases
      return (document.anchored.lookup anchor).getD .empty
  | node => return node

/-- What a node stands for is read; misfits without a place are told to be there. -/
def reading {α : Type} (read : Node → Decoding α) : Decoder α := fun path node => do
  let target ← follow node
  tryCatch (read target) fun fault => throw (fault.placedAt path target.mark)

def typed {α : Type} (type : ScalarType) (form : Form) (value? : String → Option α) : Decoder α :=
  reading fun node =>
    match (node.typedText? type).bind value? with
    | some value => return value
    | none => refuse (node.misfit form)

def truth : Decoder Bool := typed .truth .truth Resolution.boolean?

/-- An unsigned number of 64 bits. -/
def natural : Decoder Nat :=
  typed .integer .natural fun text => Resolution.natural? (Nat.pow 2 64) text.toList

def text (form : Form) : Decoder String :=
  reading fun node =>
    match node.text? with
    | some text => return text
    | none => refuse (node.misfit form)

/-- A value that may be missing. -/
def optional {α : Type} (decode : Decoder α) : Decoder (Option α) := fun path node => do
  let target ← follow node
  let given : Decoding (Option α) := do return some (← decode path target)
  match target with
  | .scalar _ none .plain text =>
      if text == "" || Resolution.isNull text then return none else given
  | .scalar _ (some tag) .plain text =>
      if tag != ScalarType.null.tag then given
      else if Resolution.isNull text then return none
      else refuse (.tagged text .null)
  | _ => given

def items {α : Type} (decode : Decoder α) (path : NodePath) :
    (index : Nat) → List Node → Decoding (List α)
  | _, [] => return []
  | index, node :: rest => do
      let value ← decode (.item path index) node
      return value :: (← items decode path (index + 1) rest)

/-- The values of a sequence. -/
def list {α : Type} (decode : Decoder α) : Decoder (List α) := fun path =>
  reading (fun node =>
    match node with
    | .sequence _ nodes => items decode path 0 nodes
    | node => if node.isBlank then return [] else refuse (node.misfit .list)) path

def textEntries : Decoder (List (String × String)) := fun path =>
  reading (fun node =>
    match node with
    | .mapping _ entries => entries.mapM fun (key, value) => do
        let name ← text .text path key
        return (name, ← text .text (.field path key.text?) value)
    | node => if node.isBlank then return [] else refuse (node.misfit .mapping)) path

/-- The fields of a record, one after the other.  Fields with names that are not known do not
count, and no field is given twice. -/
def fields {σ : Type} (known : String → Option (Decoder (σ → σ))) (path : NodePath) :
    (seen : List String) → List (Node × Node) → σ → Decoding σ
  | _, [], record => return record
  | seen, (key, value) :: rest, record => do
      let name ← text .fieldName path key
      match known name with
      | none =>
          match value.fault? with
          | some fault => throw fault
          | none => fields known path seen rest record
      | some decode =>
          if seen.contains name then refuse (.duplicateField name)
          let change ← decode (.field path key.text?) value
          fields known path (name :: seen) rest (change record)

/-- A record: `known` tells how the value of a field changes what is known of the record, and
`finish` which fields have to be there. -/
def record {σ α : Type} (name : String) (known : String → Option (Decoder (σ → σ))) (start : σ)
    (finish : σ → Except Misfit α) : Decoder α := fun path =>
  reading (fun node => do
    let entries ← match node with
      | .mapping _ entries => pure entries
      | node => if node.isBlank then pure [] else refuse (node.misfit (.record name))
    let found ← fields known path [] entries start
    match finish found with
    | .ok value => return value
    | .error misfit => refuse misfit) path

def field {σ α : Type} (decode : Decoder α) (change : α → σ → σ) : Decoder (σ → σ) :=
  fun path node => do return change (← decode path node)

def require {α : Type} (name : String) (value : Option α) : Except Misfit α :=
  match value with
  | some value => .ok value
  | none => .error (.missingField name)

end Decoder

/-- The value that a document holds. -/
def Document.decode {α : Type} (document : Document) (decoder : Decoder α) : Except Fault α := do
  let (value, _) ← (decoder .root document.root).run document 0
  match document.fault with
  | some fault => .error fault
  | none => .ok value

end Workflow.Yaml
