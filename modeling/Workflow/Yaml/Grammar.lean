import Workflow.Yaml.Event
import Workflow.Yaml.Scanner

/-!
# The grammar of YAML documents

The grammar turns the tokens of a text into the events of its document.  Nodes are empty where
the grammar needs one and nothing is written.  A text holds at most one document.  Where the
form of the text is wrong, the events up to there are still delivered.
-/

namespace Workflow.Yaml

/-- What is left of the tokens, the events that were found, and the anchors. -/
structure Input where
  tokens : Tokens
  events : Array (Event × Mark) := #[]
  /-- The numbers of the anchors by name. -/
  anchors : List (String × Nat) := []

/-- A part of the grammar.  A fault ends it but keeps the events that were found. -/
abbrev Reading (α : Type) := ExceptT Fault (StateM Input) α

namespace Grammar

/-- What the handles of tags stand for. -/
abbrev Handles := List (String × String)

/-- The handles that need no directive. -/
def standardHandles : Handles := [("!", "!"), ("!!", "tag:yaml.org,2002:")]

def peek : Reading (Located Token) := do
  let tokens := (← get).tokens
  match tokens.found, tokens.ending with
  | token :: _, _ => return token
  | [], .ok mark => return ⟨.textEnd, mark, mark⟩
  | [], .error error => throw (.form error)

/-- The next token is passed over. -/
def skip : Reading Unit :=
  modify fun input => { input with tokens.found := input.tokens.found.tail }

def emit (event : Event) (mark : Mark) : Reading Unit :=
  modify fun input => { input with events := input.events.push (event, mark) }

/-- A fault in the form of the text. -/
def refuse {α : Type} (problem : Problem) (mark : Mark) (during : Option (Activity × Mark)) :
    Reading α :=
  throw (.form ⟨problem, mark, during⟩)

/-- The number of an anchor whose node starts here.  It counts the names given before, so that a
name that is given again may make a later name share its number. -/
def openAnchor (name : String) : Reading Nat := do
  let anchors := (← get).anchors
  let number := anchors.length
  let others := anchors.filter fun entry => entry.1 != name
  modify fun input => { input with anchors := (name, number) :: others }
  return number

/-- The alias for the node that a name belongs to by now. -/
def emitAlias (name : String) (mark : Mark) : Reading Unit := do
  match (← get).anchors.lookup name with
  | some number => emit (.alias number) mark
  | none => throw (.unknownAnchor mark)

/-- What stands before a node. -/
structure Properties where
  anchor : Option String := none
  tag : Option (Tag × Mark) := none
  /-- Where the node starts, with what stands before it. -/
  start : Mark

namespace Properties

/-- Whether nothing stands before a node. -/
def isEmpty (properties : Properties) : Bool :=
  properties.anchor.isNone && properties.tag.isNone

def tagName (handles : Handles) (properties : Properties) : Reading (Option String) :=
  match properties.tag with
  | none => return none
  | some (tag, mark) =>
      if tag.handle = "" then return some tag.suffix
      else
        match handles.lookup tag.handle with
        | some meaning => return some (meaning ++ tag.suffix)
        | none => refuse .unknownHandle mark (some (.node, properties.start))

/-- The number of the anchor, whose node starts here. -/
def anchorNumber (properties : Properties) : Reading (Option Nat) :=
  match properties.anchor with
  | none => return none
  | some name => return some (← openAnchor name)

end Properties

/-- An anchor and a tag, in any order, as far as they are there. -/
def properties : Reading Properties := do
  let token ← peek
  let start := token.start
  match token.value with
  | .anchor name =>
      skip
      let next ← peek
      match next.value with
      | .tag tag => do skip; return { anchor := some name, tag := some (tag, next.start), start }
      | _ => return { anchor := some name, start }
  | .tag tag =>
      skip
      let next ← peek
      match next.value with
      | .anchor name => do skip; return { anchor := some name, tag := some (tag, start), start }
      | _ => return { tag := some (tag, start), start }
  | _ => return { start }

/-- Whether a token ends the entry of a block collection that has nothing in it. -/
def endsBlockEntry : Token → Bool
  | .blockEntry | .blockEnd => true
  | _ => false

/-- Whether a token ends a key or a value of a block mapping that has nothing in it. -/
def endsBlockPart : Token → Bool
  | .key | .value | .blockEnd => true
  | _ => false

/-- Whether a token ends an item of a sequence that is not indented and has nothing in it. -/
def endsBareItem (token : Token) : Bool := token == .blockEntry || endsBlockPart token

/-- Whether a token ends a part of a flow sequence that has nothing in it. -/
def endsSequencePart : Token → Bool
  | .flowEntry | .flowSequenceEnd => true
  | _ => false

/-- Whether a token ends a part of a flow mapping that has nothing in it. -/
def endsMappingPart : Token → Bool
  | .flowEntry | .flowMappingEnd => true
  | _ => false

/-- What kinds of nodes may stand at a place. -/
inductive Place where
  /-- Within brackets. -/
  | flow
  | block
  /-- A place in a block mapping, where the items of a sequence need no indentation. -/
  | mappingPart
  deriving DecidableEq, Repr

/-- What is being read at a place. -/
def Place.activity : Place → Activity
  | .flow => .flowNode
  | .block | .mappingPart => .blockNode

mutual

/-- A node with what stands before it. -/
def node (handles : Handles) : (fuel : Nat) → Place → Reading Unit
  | 0, place => do refuse .noContent (← peek).start (some (place.activity, (← peek).start))
  | fuel + 1, place => do
      let token ← peek
      match token.value with
      | .alias name => do skip; emitAlias name token.start
      | _ =>
          let properties ← properties
          let next ← peek
          let tag ← properties.tagName handles
          content handles fuel place properties tag next

/-- A node without what stands before it, from its first token on.  It may be left out if
something stands before it. -/
def content (handles : Handles) : (fuel : Nat) → Place → Properties → (tag : Option String) →
    Located Token → Reading Unit
  | 0, place, properties, _, next =>
      refuse .noContent next.start (some (place.activity, properties.start))
  | fuel + 1, place, properties, tag, next => do
      match next.value, place with
      | .blockEntry, .mappingPart =>
          emit (.sequenceStart (← properties.anchorNumber)) properties.start
          bareItems handles fuel
      | .scalar style text, _ =>
          emit (.scalar (← properties.anchorNumber) tag style text) properties.start
          skip
      | .flowSequenceStart, _ =>
          emit (.sequenceStart (← properties.anchorNumber)) properties.start
          skip
          flowItems handles fuel next.start true
      | .flowMappingStart, _ =>
          emit (.mappingStart (← properties.anchorNumber)) properties.start
          skip
          flowEntries handles fuel next.start true
      | .blockSequenceStart, .block | .blockSequenceStart, .mappingPart =>
          emit (.sequenceStart (← properties.anchorNumber)) properties.start
          skip
          blockItems handles fuel next.start
      | .blockMappingStart, .block | .blockMappingStart, .mappingPart =>
          emit (.mappingStart (← properties.anchorNumber)) properties.start
          skip
          blockEntries handles fuel next.start
      | _, _ =>
          if properties.isEmpty then
            refuse .noContent next.start (some (place.activity, properties.start))
          else emit (.scalar (← properties.anchorNumber) tag .plain "") properties.start

/-- A node, or the empty node before a token that ends its place.  The empty node stands at
`mark`, or else before that token. -/
def part (handles : Handles) : (fuel : Nat) → Place → (ends : Token → Bool) →
    (mark : Option Mark) → Reading Unit
  | 0, place, _, _ => do refuse .noContent (← peek).start (some (place.activity, (← peek).start))
  | fuel + 1, place, ends, mark => do
      let next ← peek
      if ends next.value then emit .empty (mark.getD next.start) else node handles fuel place

/-- The items of a block sequence that starts at `opened`. -/
def blockItems (handles : Handles) : (fuel : Nat) → (opened : Mark) → Reading Unit
  | 0, opened => do refuse .noHyphen (← peek).start (some (.blockSequence, opened))
  | fuel + 1, opened => do
      let token ← peek
      match token.value with
      | .blockEntry =>
          skip
          part handles fuel .block endsBlockEntry token.stop
          blockItems handles fuel opened
      | .blockEnd => do skip; emit .sequenceEnd token.start
      | _ => refuse .noHyphen token.start (some (.blockSequence, opened))

/-- The items of a block sequence that is not indented. -/
def bareItems (handles : Handles) : (fuel : Nat) → Reading Unit
  | 0 => do refuse .noHyphen (← peek).start none
  | fuel + 1 => do
      let token ← peek
      match token.value with
      | .blockEntry =>
          skip
          part handles fuel .block endsBareItem token.stop
          bareItems handles fuel
      | _ => emit .sequenceEnd token.start

def blockValue (handles : Handles) : (fuel : Nat) → Reading Unit
  | 0 => do refuse .noKey (← peek).start none
  | fuel + 1 => do
      let token ← peek
      match token.value with
      | .value => do skip; part handles fuel .mappingPart endsBlockPart token.stop
      | _ => emit .empty token.start

/-- The entries of a block mapping that starts at `opened`. -/
def blockEntries (handles : Handles) : (fuel : Nat) → (opened : Mark) → Reading Unit
  | 0, opened => do refuse .noKey (← peek).start (some (.blockMapping, opened))
  | fuel + 1, opened => do
      let token ← peek
      match token.value with
      | .key =>
          skip
          part handles fuel .mappingPart endsBlockPart token.stop
          blockValue handles fuel
          blockEntries handles fuel opened
      | .blockEnd => do skip; emit .mappingEnd token.start
      | _ => refuse .noKey token.start (some (.blockMapping, opened))

/-- The value behind a key within brackets, which may be left out. -/
def flowValue (handles : Handles) : (fuel : Nat) → (ends : Token → Bool) → Reading Unit
  | 0, _ => do refuse .noContent (← peek).start none
  | fuel + 1, ends => do
      let token ← peek
      match token.value with
      | .value => do skip; part handles fuel .flow ends none
      | _ => emit .empty token.start

/-- The key and the value of an item of a flow sequence that is a mapping of its own.  A key
that is left out takes the next token with it. -/
def singlePair (handles : Handles) : (fuel : Nat) → Reading Unit
  | 0 => do refuse .noContent (← peek).start none
  | fuel + 1 => do
      let next ← peek
      if next.value == .value || endsSequencePart next.value then do
        skip
        emit .empty next.stop
      else node handles fuel .flow
      flowValue handles fuel endsSequencePart
      emit .mappingEnd (← peek).start

def flowItem (handles : Handles) : (fuel : Nat) → Reading Unit
  | 0 => do refuse .noContent (← peek).start none
  | fuel + 1 => do
      let token ← peek
      match token.value with
      | .key =>
          emit (.mappingStart none) token.start
          skip
          singlePair handles fuel
      | _ => node handles fuel .flow

/-- The items of a flow sequence up to its closing bracket.  A comma may stand before the
bracket. -/
def flowItems (handles : Handles) : (fuel : Nat) → (opened : Mark) → (first : Bool) →
    Reading Unit
  | 0, opened, _ => do
      refuse .noSequenceSeparator (← peek).start (some (.flowSequence, opened))
  | fuel + 1, opened, first => do
      let token ← peek
      if token.value == .flowEntry && !first then skip
      else if token.value != .flowSequenceEnd && !first then
        refuse .noSequenceSeparator token.start (some (.flowSequence, opened))
      let next ← peek
      if next.value == .flowSequenceEnd then do
        emit .sequenceEnd next.start
        skip
      else do
        flowItem handles fuel
        flowItems handles fuel opened false

/-- An entry of a flow mapping.  Only a key that is announced can have a value. -/
def flowPair (handles : Handles) : (fuel : Nat) → Reading Unit
  | 0 => do refuse .noContent (← peek).start none
  | fuel + 1 => do
      let token ← peek
      match token.value with
      | .key =>
          skip
          part handles fuel .flow (fun next => next == .value || endsMappingPart next) none
          flowValue handles fuel endsMappingPart
      | _ =>
          node handles fuel .flow
          emit .empty (← peek).start

/-- The entries of a flow mapping up to its closing bracket. -/
def flowEntries (handles : Handles) : (fuel : Nat) → (opened : Mark) → (first : Bool) →
    Reading Unit
  | 0, opened, _ => do
      refuse .noMappingSeparator (← peek).start (some (.flowMapping, opened))
  | fuel + 1, opened, first => do
      let token ← peek
      if token.value == .flowEntry && !first then skip
      else if token.value != .flowMappingEnd && !first then
        refuse .noMappingSeparator token.start (some (.flowMapping, opened))
      let next ← peek
      if next.value == .flowMappingEnd then do
        emit .mappingEnd next.start
        skip
      else do
        flowPair handles fuel
        flowEntries handles fuel opened false

end

/-- Whether a version of YAML can be read. -/
def isKnownVersion (major minor : Nat) : Bool := major == 1 && (minor == 1 || minor == 2)

/-- The handles after the directives of a document.  A document has at most one version, and
every handle is explained at most once. -/
def directives : (fuel : Nat) → (versioned : Bool) → Handles → Reading Handles
  | 0, _, given => return given
  | fuel + 1, versioned, given => do
      let token ← peek
      match token.value with
      | .directive (.version major minor) =>
          if versioned then refuse .secondVersion token.start none
          else if !isKnownVersion major minor then refuse .unsupportedVersion token.start none
          else do skip; directives fuel true given
      | .directive (.handle name meaning) =>
          if (given.lookup name).isSome then refuse .secondHandle token.start none
          else do skip; directives fuel versioned ((name, meaning) :: given)
      | _ => return given

/-- Whether a token says that a document has no content. -/
def endsDocument : Token → Bool
  | .directive _ | .documentStart | .documentEnd | .textEnd => true
  | _ => false

/-- The outermost node of a document behind its mark. -/
def markedRoot (handles : Handles) (fuel : Nat) : Reading Unit := do
  let token ← peek
  if token.value != .documentStart then refuse .noDocumentStart token.start none
  skip
  let next ← peek
  if endsDocument next.value then emit .empty next.start else node handles fuel .block

/-- The first document of a text.  Directives need a mark behind them. -/
def document (fuel : Nat) : Reading Unit := do
  let token ← peek
  match token.value with
  | .textEnd => emit .empty token.start
  | .directive _ | .documentStart =>
      let given ← directives fuel false []
      markedRoot (given ++ standardHandles) fuel
  | _ => node standardHandles fuel .block
  discard peek

/-- Whether nothing but the ends of documents is left. -/
def isFinished (tokens : Tokens) : Bool :=
  tokens.found.all (fun token => token.value == .documentEnd) && tokens.ending.isOk

end Grammar

def Events.ofTokens (tokens : Tokens) : Events :=
  match (Grammar.document (4 * tokens.found.length + 4)).run.run { tokens } with
  | (.error fault, input) => ⟨input.events.toList, some fault, none⟩
  | (.ok _, input) =>
      ⟨input.events.toList, none,
        if Grammar.isFinished input.tokens then none else some .secondDocument⟩

end Workflow.Yaml
