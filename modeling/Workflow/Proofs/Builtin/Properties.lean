import Workflow.Proofs.Builtin.Storing
import Workflow.Proofs.Decimal.Numerals
import Workflow.Proofs.References
import Workflow.Proofs.Run.Acceptance

/-!
# Properties that are copied

A property is copied by setting another one to the reference to it.  The text of a property is what
its type was read from, in a normal form, so the copy is equal to the property for every type but
that of lists: the brackets around the text of a list are read as parts of its items, and no list is
copied.
-/

namespace Workflow

/-! ## Texts of values -/

theorem Text.isBlank_of_isDigit {c : Char} (digit : Decimal.isDigit c = true) :
    isBlank c = false := by
  simp only [Decimal.isDigit, Bool.and_eq_true, decide_eq_true_eq] at digit
  have low : 48 ≤ c.toNat := digit.1
  have high : c.toNat ≤ 57 := digit.2
  simp [isBlank, inRanges, blankRanges]
  omega

namespace Decimal

theorem isRun_numeral (n : Nat) : IsRun (numeral n) :=
  ⟨numeral_ne_nil n, fun _ member => isDigit_of_mem_numeral member⟩

theorem isBlank_of_mem_signedNumeral {number : Int} {c : Char}
    (member : c ∈ signedNumeral number) : Text.isBlank c = false := by
  rw [signedNumeral] at member
  split at member
  · rcases List.mem_cons.mp member with rfl | digit
    · decide
    · exact Text.isBlank_of_isDigit (isDigit_of_mem_numeral digit)
  · exact Text.isBlank_of_isDigit (isDigit_of_mem_numeral member)

theorem trim_signedNumeral (number : Int) :
    Text.trim (signedNumeral number) = signedNumeral number := by
  apply Text.trim_eq_self
  · intro c first
    exact isBlank_of_mem_signedNumeral (List.mem_of_mem_head? first)
  · intro c last
    exact isBlank_of_mem_signedNumeral (List.mem_of_mem_getLast? last)

/-- The numeral of an integer that fits its 64 bits is read as the integer. -/
theorem readSigned_signedNumeral {number : Int}
    (fits : -(Nat.pow 2 63) ≤ number ∧ number < Nat.pow 2 63) :
    readSigned (signedNumeral number) = some number := by
  refine readSigned_eq_some_iff.mpr ⟨?_, fits⟩
  have spells := digitsValue_numeral number.natAbs
  rw [signedNumeral]
  split
  · next negative =>
      have same : number = -(digitsValue (numeral number.natAbs) : Int) := by omega
      conv => arg 2; rw [same]
      exact .minus (isRun_numeral _)
  · next notNegative =>
      have same : number = (digitsValue (numeral number.natAbs) : Int) := by omega
      conv => arg 2; rw [same]
      exact .bare (isRun_numeral _)

end Decimal

/-- The texts of values stand in the text of their list. -/
theorem Value.count_displayAll {mark : Char} (noComma : mark ≠ ',') (texts : List String) :
    (displayAll (texts.map .text)).toList.count mark =
      (texts.flatMap String.toList).count mark := by
  induction texts with
  | nil => rfl
  | cons text texts ih =>
      cases texts with
      | nil => simp [displayAll, display]
      | cons next texts =>
          have other : ',' ≠ mark := fun same => noComma same.symm
          rw [List.map_cons] at ih
          rw [List.map_cons, List.map_cons, displayAll, String.toList_append, String.toList_append,
            List.count_append, List.count_append, ih, List.flatMap_cons, List.count_append]
          · simp [display, other]
          · exact List.cons_ne_nil _ _

namespace Builtin.SetProperty

variable {type text : String} {value : Value}

/-! ## Typed values -/

/-- A text spells a value of the type with the given name.  What is not the name of another type is
a name for texts. -/
inductive Spells (text : String) : String → Value → Prop where
  | integer {number : Int} (reads : Decimal.readSigned (Text.trimmed text).toList = some number) :
      Spells text "Integer" (.integer number)
  | float {number : Float} (reads : Decimal.readFloat (Text.trimmed text).toList = some number) :
      Spells text "Float" (.float number)
  | boolean {truth : Bool} (reads : readBoolean (Text.trimmed text) = some truth) :
      Spells text "Boolean" (.boolean truth)
  | path : Spells text "Path" (.path ⟨Text.trimmed text⟩)
  | list : Spells text "List" (.list ((Text.items text).map .text))
  | text {type : String} (other : type ∉ ["Integer", "Float", "Boolean", "Path", "List"]) :
      Spells text type (.text text)

theorem typed_eq_ok_iff : typed type text = .ok value ↔ Spells text type value := by
  constructor
  · intro made
    unfold typed at made
    dsimp only at made
    split at made
    · split at made
      · next reads =>
          cases made
          exact .integer reads
      · cases made
    · split at made
      · next reads =>
          cases made
          exact .float reads
      · cases made
    · split at made
      · next reads =>
          cases made
          exact .boolean reads
      · cases made
    · cases made
      exact .path
    · cases made
      exact .list
    · next noInteger noFloat noBoolean noPath noList =>
        cases made
        exact .text (by simpa using ⟨noInteger, noFloat, noBoolean, noPath, noList⟩)
  · intro spells
    cases spells with
    | integer reads | float reads | boolean reads => simp only [typed, reads]
    | path | list => rfl
    | text other =>
        simp only [List.mem_cons, List.not_mem_nil, or_false, not_or] at other
        obtain ⟨noInteger, noFloat, noBoolean, noPath, noList⟩ := other
        unfold typed
        split
        · exact absurd rfl noInteger
        · exact absurd rfl noFloat
        · exact absurd rfl noBoolean
        · exact absurd rfl noPath
        · exact absurd rfl noList
        · rfl

/-- The text of a value spells the value, unless it is a number with a fraction or a list. -/
theorem Spells.display (spells : Spells text type value) (noFloat : type ≠ "Float")
    (noList : type ≠ "List") : Spells value.display type value := by
  cases spells with
  | integer reads =>
      have fits := (Decimal.readSigned_eq_some_iff.mp reads).2
      apply Spells.integer
      rw [Value.display, Text.toList_trimmed, String.toList_ofList, Decimal.trim_signedNumeral,
        Decimal.readSigned_signedNumeral fits]
  | float => exact absurd rfl noFloat
  | @boolean truth =>
      apply Spells.boolean
      cases truth <;> decide +kernel
  | path =>
      have same : Text.trimmed (Text.trimmed text) = Text.trimmed text := by
        rw [Text.trimmed, Text.toList_trimmed, Text.trim_trim, ← Text.trimmed]
      have again : Spells (Text.trimmed text) "Path" (.path ⟨Text.trimmed (Text.trimmed text)⟩) :=
        .path
      rwa [same] at again
  | list => exact absurd rfl noList
  | text other => exact .text other

theorem Spells.visible_display (spells : Spells text type value) (noFloat : type ≠ "Float")
    (visible : ¬Text.AllBlank text.toList) : ¬Text.AllBlank value.display.toList := by
  rw [← Text.trim_eq_nil_iff] at visible ⊢
  cases spells with
  | @integer number =>
      rw [Value.display, String.toList_ofList, Decimal.trim_signedNumeral, Decimal.signedNumeral]
      split
      · exact List.cons_ne_nil _ _
      · exact Decimal.numeral_ne_nil _
  | float => exact absurd rfl noFloat
  | @boolean truth => cases truth <;> decide +kernel
  | path => rwa [Value.display, Text.toList_trimmed, Text.trim_trim]
  | list =>
      have opens : '[' ∈ (Value.list ((Text.items text).map .text)).display.toList := by
        simp [Value.display]
      rw [Text.trim_eq_nil_iff]
      intro blank
      exact absurd (blank _ opens) (by decide)
  | text => exact visible

/-- The text of a list spells another list: the brackets around it are parts of its items. -/
theorem Spells.exists_ne_of_list (spells : Spells text "List" value) :
    ∃ other, Spells value.display "List" other ∧ other ≠ value := by
  have made : Except.ok (.list ((Text.items text).map .text)) = Except.ok value :=
    typed_eq_ok_iff.mpr spells
  cases made
  refine ⟨_, .list, ?_⟩
  intro same
  have texts : Text.items (Value.list ((Text.items text).map .text)).display = Text.items text :=
    List.map_injective_iff.mpr (fun _ _ equal => Value.text.inj equal) (Value.list.inj same)
  -- the text of the list has an opening bracket more than its items have
  have opens := @Text.count_items '[' (by decide) (by decide)
    (Value.list ((Text.items text).map .text)).display
  rw [texts, Value.display, String.toList_append, String.toList_append, List.count_append,
    List.count_append, Value.count_displayAll (by decide)] at opens
  have bracket : "[".toList.count '[' = 1 := rfl
  omega

/-! ## Setting a property -/

/-- The parameters of the command. -/
def nameParameter : Parameter := { name := "PropertyName", type := .identifier, required := true }

def typeParameter : Parameter where
  name := "PropertyType"
  allowed := types
  fallback := some "String"

def valueParameter : Parameter := { name := "PropertyValue", required := true }

/-- A command is accepted, and a property is to be set to a value of a type. -/
structure Sets (scene : Scene) (command : Command) (type name : String) (value : Value) :
    Prop where
  kind : command.kind = .known definition (.action problems perform)
  accepted : ∃ prepared parameters, Run.prepare scene command = (prepared, some parameters) ∧
    ParameterSet.text? parameters "PropertyType" = some type ∧
    ParameterSet.text? parameters "PropertyName" = some name ∧
    SetProperty.value parameters = .ok value

namespace Sets

variable {scene : Scene} {command : Command} {name : String}

theorem execute_eq (sets : Sets scene command type name value) (setting : Run.Setting) :
    Run.execute setting command scene =
      { scene.withWorkspace (scene.workspace.setProperty name value) with
        status := (scene.status.promote .validation .success).promote .run .success } := by
  obtain ⟨prepared, parameters, accepted, -, named, valued⟩ := sets.accepted
  rw [Run.execute, accepted]
  dsimp only
  rw [Run.act, sets.kind]
  dsimp only
  rw [perform, ParameterSet.text_of_text? named, Performance.attempt_ok, valued,
    Run.prepared_eq accepted]
  rfl

theorem isValid (sets : Sets scene command type name value) : Identifier.isValid name = true := by
  obtain ⟨prepared, parameters, accepted, -, named, -⟩ := sets.accepted
  obtain ⟨validated, -⟩ := Run.validated_of_accepted sets.kind accepted
  have distinct : definition.parameterNames.Nodup := by decide
  exact Validation.admits_of_validate distinct validated nameParameter (by decide) rfl name named

theorem exists_spells (sets : Sets scene command type name value) :
    ∃ text : String, ¬Text.AllBlank text.toList ∧ Spells text type value := by
  obtain ⟨prepared, parameters, accepted, typed, -, valued⟩ := sets.accepted
  obtain ⟨validated, -⟩ := Run.validated_of_accepted sets.kind accepted
  have distinct : definition.parameterNames.Nodup := by decide
  have asked : valueParameter ∈ definition.parameters := by decide
  obtain ⟨own, given, held⟩ :=
    Validation.exists_given_of_validate distinct validated asked rfl
  obtain ⟨text, rfl, effective⟩ := given.exists_text rfl rfl
  have written : ParameterSet.text? parameters "PropertyValue" = some text :=
    congrArg (Option.bind · Value.text?) held
  rw [SetProperty.value, typed, written] at valued
  cases effective with
  | given entry visible => exact ⟨text, visible, typed_eq_ok_iff.mp valued⟩
  | fallback blank default => cases default

end Sets

/-- A command gives a name, a type and a text for a property. -/
structure Asks (scene : Scene) (command : Command) (type name text : String) : Prop where
  kind : command.kind = .known definition (.action problems perform)
  known : ∀ key ∈ command.parameters.keys, definition.recognizes key = true
  named : Run.Given scene command nameParameter (.text name)
  typed : Run.Given scene command typeParameter (.text type)
  written : Run.Given scene command valueParameter (.text text)

/-- The command is accepted if its text spells a value of its type. -/
theorem Asks.sets {scene : Scene} {command : Command} {name : String}
    (asks : Asks scene command type name text) (spells : Spells text type value) :
    Sets scene command type name value := by
  have given : ∀ next ∈ [nameParameter, typeParameter, valueParameter],
      ∃ value, Run.Given scene command next value := by
    simp only [List.forall_mem_cons]
    exact ⟨⟨_, asks.named⟩, ⟨_, asks.typed⟩, ⟨_, asks.written⟩, List.forall_mem_nil _⟩
  have distinct : definition.parameterNames.Nodup := by decide
  obtain ⟨parameters, validated, held⟩ :=
    Run.exists_validate_of_given distinct asks.known given
  have nameGiven : ParameterSet.text? parameters "PropertyName" = some name :=
    congrArg (Option.bind · Value.text?) (held nameParameter (by decide) _ asks.named)
  have typeGiven : ParameterSet.text? parameters "PropertyType" = some type :=
    congrArg (Option.bind · Value.text?) (held typeParameter (by decide) _ asks.typed)
  have textGiven : ParameterSet.text? parameters "PropertyValue" = some text :=
    congrArg (Option.bind · Value.text?) (held valueParameter (by decide) _ asks.written)
  have valued : SetProperty.value parameters = .ok value := by
    rw [SetProperty.value, typeGiven, textGiven]
    exact typed_eq_ok_iff.mpr spells
  have fine : problems parameters = [] := by
    rw [problems, valued]
  exact ⟨asks.kind, _, parameters, Run.prepare_of_validated asks.kind validated fine, typeGiven,
    nameGiven, valued⟩

/-! ## Copying a property -/

/-- A command asks for a property to be set to the value of a type that the reference to another
property stands for. -/
structure Copies (scene : Scene) (command : Command) (type source target : String) : Prop where
  kind : command.kind = .known definition (.action problems perform)
  known : ∀ key ∈ command.parameters.keys, definition.recognizes key = true
  named : Run.Given scene command nameParameter (.text target)
  typed : Run.Given scene command typeParameter (.text type)
  referring : command.parameters.get? valueParameter.name = some (reference source)

variable {scene next : Scene} {command set copy : Command} {source target : String}

theorem Copies.asks (copies : Copies scene command type source target)
    (noBrace : '}' ∉ source.toList) (noColon : ':' ∉ source.toList)
    (found : scene.workspace.propertyText? source = some text)
    (visible : ¬Text.AllBlank text.toList) : Asks scene command type target text := by
  refine ⟨copies.kind, copies.known, copies.named, copies.typed, ?_⟩
  have raw : (Run.expanded scene.workspace command).get? valueParameter.name = some text := by
    rw [Run.expanded, OrderedMap.get?_mapValues, copies.referring, Option.map_some,
      Expansion.expand_reference noBrace noColon found]
  exact Validation.given_of_freeText rfl rfl raw visible

/-- A property that was set is copied right behind: the command is accepted, and it sets the copy
and records nothing.  The copy is equal to the property exactly if it is no list. -/
theorem copied_eq_iff (setting : Run.Setting) (sets : Sets scene set type source value)
    (noFloat : type ≠ "Float") (noBrace : '}' ∉ source.toList)
    (behind : next.workspace = (Run.execute setting set scene).workspace)
    (copies : Copies next copy type source target) :
    ∃ copied, Sets next copy type target copied ∧
      Run.execute setting copy next =
        { next.withWorkspace (next.workspace.setProperty target copied) with
          status := (next.status.promote .validation .success).promote .run .success } ∧
      (copied = value ↔ type ≠ "List") := by
  obtain ⟨text, visible, spells⟩ := sets.exists_spells
  obtain ⟨-, -, noColon, -⟩ :=
    Identifier.fault?_eq_none_iff.mp (Option.isNone_iff_eq_none.mp sets.isValid)
  have found : next.workspace.propertyText? source = some value.display := by
    rw [behind, sets.execute_eq, Workspace.propertyText?, Workspace.property?]
    exact congrArg (Option.map _) ((OrderedMap.get?_insert ..).trans (if_pos rfl))
  have asks := copies.asks noBrace noColon found (spells.visible_display noFloat visible)
  by_cases isList : type = "List"
  · subst isList
    obtain ⟨copied, again, other⟩ := spells.exists_ne_of_list
    exact ⟨copied, asks.sets again, (asks.sets again).execute_eq setting, by simpa using other⟩
  · have sets := asks.sets (spells.display noFloat isList)
    exact ⟨value, sets, sets.execute_eq setting, by simpa using isList⟩

/-- A line that sets a property to an integer. -/
def integerLine (name text : String) : Command where
  name := "SetProperty"
  line := 1
  text := s!"SetProperty(PropertyName={name},PropertyType=integer,PropertyValue=\"{text}\")"
  parameters := .ofList
    [("PropertyName", name), ("PropertyType", "integer"), ("PropertyValue", text)]
  kind := .known definition (.action problems perform)

/-- A scene with nothing in it. -/
def emptyScene : Scene where
  workspace := {}
  files := .empty [] "/"
  cancelled := false
  haltOnFailure := false
  exitRequested := false
  status := .fresh

theorem given_integerLine (scene : Scene) {name : String} (text : String)
    (plain : '$' ∉ name.toList) (valid : Identifier.isValid name = true)
    (trimmed : Text.trimmed name = name) :
    Run.Given scene (integerLine name text) nameParameter (.text name) ∧
      Run.Given scene (integerLine name text) typeParameter (.text "Integer") := by
  constructor
  · exact Validation.given_of_identifier rfl rfl (Run.get?_expanded rfl plain _) valid trimmed
  · have visible : ¬Text.AllBlank "integer".toList :=
      fun blank => absurd (blank 'i' (by decide)) (by decide)
    exact Validation.given_of_canonical rfl (Run.get?_expanded rfl (by decide) _) visible
      (by decide +kernel)

theorem sets_integerLine :
    Sets emptyScene (integerLine "A" "+042 ") "Integer" "A" (.integer 42) := by
  have visible : ¬Text.AllBlank "+042 ".toList :=
    fun blank => absurd (blank '+' (by decide)) (by decide)
  obtain ⟨named, typed⟩ := given_integerLine emptyScene "+042 " (show '$' ∉ "A".toList by decide)
    (by decide +kernel) (by decide +kernel)
  have written : Run.Given emptyScene (integerLine "A" "+042 ") valueParameter (.text "+042 ") :=
    Validation.given_of_freeText rfl rfl (Run.get?_expanded rfl (by decide) _) visible
  have reads : Decimal.readSigned (Text.trimmed "+042 ").toList = some 42 := by decide +kernel
  exact Asks.sets ⟨rfl, by decide, named, typed, written⟩ (.integer reads)

/-- The scene behind a line that has set an integer. -/
def integerScene : Scene :=
  { emptyScene with
    workspace := (Run.execute alone (integerLine "A" "+042 ") emptyScene).workspace }

theorem copied_eq_iff_integer :
    Copies integerScene (integerLine "B" "${A}") "Integer" "A" "B" ∧
      Sets integerScene (integerLine "B" "${A}") "Integer" "B" (.integer 42) := by
  obtain ⟨named, typed⟩ := given_integerLine integerScene "${A}" (show '$' ∉ "B".toList by decide)
    (by decide +kernel) (by decide +kernel)
  have copies : Copies integerScene (integerLine "B" "${A}") "Integer" "A" "B" :=
    ⟨rfl, by decide, named, typed, rfl⟩
  have behind : integerScene.workspace =
      (Run.execute alone (integerLine "A" "+042 ") emptyScene).workspace := rfl
  obtain ⟨copied, sets, -, same⟩ :=
    copied_eq_iff alone sets_integerLine (by decide) (by decide) behind copies
  rw [same.mpr (by decide)] at sets
  exact ⟨copies, sets⟩

/-- Two lines that set a list and copy it. -/
def listCopied : Processor.Run :=
  ((Processor.create registry {} (.empty [] "/") 0).loadText
    "SetProperty(PropertyName=A,PropertyType=List,PropertyValue=\"a,b\")
SetProperty(PropertyName=B,PropertyType=List,PropertyValue=\"${A}\")").runAll (.empty [] "/")

/-- The brackets around a list become parts of the items of its copy. -/
theorem copied_list_holds_brackets :
    listCopied.result.outcomes.map (·.status) = [.success, .success] ∧
      listCopied.processor.workspace.propertyText? "A" = some "[a,b]" ∧
      listCopied.processor.workspace.propertyText? "B" = some "[[a,b]]" := by
  decide +kernel

end Builtin.SetProperty

end Workflow
