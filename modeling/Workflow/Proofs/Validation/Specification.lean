import Workflow.Proofs.OrderedMap
import Workflow.Proofs.Text.Trimming
import Workflow.Proofs.Validation

/-!
# The specification of validation

The text that counts for a parameter is the given one unless it is blank, and the default
otherwise.  Validation succeeds exactly if every given name is defined, every required parameter
has a text and every text spells a value of the type of its parameter.  The values are collected
in the order of the definition, and when validation fails there is one complaint about each thing
that is wrong, in the order in which they are found.
-/

namespace Workflow

/-! ## Integers, truth values and identifiers -/

namespace Decimal

/-- A run of digits, and nothing else. -/
def IsRun (digits : List Char) : Prop := digits ≠ [] ∧ ∀ c ∈ digits, isDigit c = true

/-- A decimal integer with an optional sign. -/
inductive IsInteger : List Char → Int → Prop where
  | bare {digits : List Char} (run : IsRun digits) : IsInteger digits (digitsValue digits)
  | plus {digits : List Char} (run : IsRun digits) : IsInteger ('+' :: digits) (digitsValue digits)
  | minus {digits : List Char} (run : IsRun digits) :
      IsInteger ('-' :: digits) (-digitsValue digits)

theorem readDigits_eq_some_iff {digits : List Char} {value : Nat} :
    readDigits digits = some value ↔ IsRun digits ∧ digitsValue digits = value := by
  rw [readDigits, IsRun, ← List.all_eq_true]
  split
  · next run =>
      rw [Option.some.injEq]
      exact ⟨fun same => ⟨run, same⟩, And.right⟩
  · next noRun => exact ⟨nofun, fun isRun => absurd isRun.1 noRun⟩

theorem not_isRun_cons {sign : Char} (noDigit : isDigit sign = false) (rest : List Char) :
    ¬ IsRun (sign :: rest) := by
  intro run
  rw [run.2 sign List.mem_cons_self] at noDigit
  cases noDigit

theorem readSigned_eq_some_iff {text : List Char} {number : Int} :
    readSigned text = some number ↔
      IsInteger text number ∧ -(Nat.pow 2 63) ≤ number ∧ number < Nat.pow 2 63 := by
  have fits {found : Option Int} :
      (found.bind fun value =>
        if -(Nat.pow 2 63) ≤ value ∧ value < Nat.pow 2 63 then some value else none) =
          some number ↔ found = some number ∧ -(Nat.pow 2 63) ≤ number ∧ number < Nat.pow 2 63 := by
    rw [Option.bind_eq_some_iff]
    constructor
    · rintro ⟨value, same, inside⟩
      split at inside
      · next here =>
          cases inside
          exact ⟨same, here⟩
      · cases inside
    · rintro ⟨same, inside⟩
      exact ⟨number, same, if_pos inside⟩
  have counted {digits : List Char} (run : IsRun digits) (sign : Nat → Int) :
      (readDigits digits).map sign = some (sign (digitsValue digits)) := by
    rw [readDigits_eq_some_iff.mpr ⟨run, rfl⟩, Option.map_some]
  unfold readSigned
  constructor
  · intro reads
    split at reads
    all_goals
      obtain ⟨found, inside⟩ := fits.mp reads
      obtain ⟨value, digits, rfl⟩ := Option.map_eq_some_iff.mp found
      obtain ⟨run, rfl⟩ := readDigits_eq_some_iff.mp digits
    · exact ⟨.plus run, inside⟩
    · exact ⟨.minus run, inside⟩
    · exact ⟨.bare run, inside⟩
  · rintro ⟨isInteger, inside⟩
    cases isInteger with
    | bare run =>
        split
        · exact absurd run (not_isRun_cons (by decide) _)
        · exact absurd run (not_isRun_cons (by decide) _)
        · exact fits.mpr ⟨counted run _, inside⟩
    | plus run => exact fits.mpr ⟨counted run _, inside⟩
    | minus run => exact fits.mpr ⟨counted run fun n => -Int.ofNat n, inside⟩

end Decimal

/-- The truth values that can be read are the two words in any case, with blanks around them. -/
theorem readBoolean_eq_some_iff {text : String} {truth : Bool} :
    readBoolean text = some truth ↔
      Text.sameIgnoringCase (Text.trimmed text) (if truth then "true" else "false") = true := by
  rw [readBoolean, Text.sameIgnoringCase, beq_iff_eq, Text.toList_trimmed]
  generalize (Text.trim text.toList).map Text.lowerAscii = word
  have named (name : String) : String.ofList word = name ↔ word = name.toList := by
    constructor
    · rintro rfl
      exact String.toList_ofList.symm
    · rintro rfl
      exact String.ofList_toList
  have lowerTrue : "true".toList.map Text.lowerAscii = "true".toList := by decide
  have lowerFalse : "false".toList.map Text.lowerAscii = "false".toList := by decide
  cases truth with
  | false =>
      rw [if_neg (by decide), lowerFalse, ← named]
      split
      · next here => simp [here]
      · next here => simp [here]
      · next other => exact ⟨nofun, fun here => absurd here other⟩
  | true =>
      rw [if_pos rfl, lowerTrue, ← named]
      split
      · next here => simp [here]
      · next here => simp [here]
      · next other _ => exact ⟨nofun, fun here => absurd here other⟩

/-- An identifier is neither empty nor numeric and has neither a space nor a colon. -/
theorem Identifier.fault?_eq_none_iff {text : String} :
    fault? text = none ↔ text ≠ "" ∧ ' ' ∉ text.toList ∧ ':' ∉ text.toList ∧
      ∃ c ∈ text.toList, Text.isNumeric c = false := by
  rw [fault?]
  by_cases empty : text = ""
  · simp [empty]
  · by_cases space : ' ' ∈ text.toList
    · simp [empty, space]
    · by_cases colon : ':' ∈ text.toList
      · simp [empty, space, colon]
      · simp [empty, space, colon]

namespace Validation

/-! ## What a text may stand for -/

/-- A text spells a value of a type, at a place where paths are resolved and files are looked
up. -/
inductive Spells (place : Place) (text : String) : ParameterType → Value → Prop where
  | text : Spells place text .text (.text text)
  | integer {number : Int} (digits : Decimal.IsInteger text.toList number)
      (fits : -(Nat.pow 2 63) ≤ number ∧ number < Nat.pow 2 63) :
      Spells place text .integer (.integer number)
  | float {number : Float} (reads : Decimal.readFloat text.toList = some number) :
      Spells place text .float (.float number)
  | boolean {truth : Bool} (same : Text.sameIgnoringCase (Text.trimmed text)
      (if truth then "true" else "false") = true) : Spells place text .boolean (.boolean truth)
  | identifier (nonempty : text ≠ "") (noSpace : ' ' ∉ text.toList) (noColon : ':' ∉ text.toList)
      (notNumeric : ∃ c ∈ text.toList, Text.isNumeric c = false) :
      Spells place text .identifier (.text text)
  | inputFile (there : place.files.isFile (place.files.resolve place.workingFolder text) = true) :
      Spells place text .inputFile (.path (place.files.resolve place.workingFolder text))
  | outputFile (folders : ∀ folder,
      (place.files.resolve place.workingFolder text).parent = some folder → folder.text ≠ "" →
        place.files.isFolder folder = true) :
      Spells place text .outputFile (.path (place.files.resolve place.workingFolder text))
  | path : Spells place text .path (.path (place.files.resolve place.workingFolder text))
  | url (starts : "http://".toList <+: text.toList ∨ "https://".toList <+: text.toList) :
      Spells place text .url (.text text)

/-- A text is acceptable for a parameter and stands for a value.  Where only some values are
allowed, the first of them that the text names in any case is taken as it is spelled there. -/
inductive Accepts (place : Place) (parameter : Parameter) (text : String) (value : Value) :
    Prop where
  | freeText (any : parameter.allowed = []) (type : parameter.type = .text)
      (spells : Spells place text .text value)
  | trimmed (any : parameter.allowed = []) (type : parameter.type ≠ .text)
      (spells : Spells place (Text.trimmed text) parameter.type value)
  | allowed {before after : List String} {canonical : String}
      (among : parameter.allowed = before ++ canonical :: after)
      (others : ∀ other ∈ before, Text.sameIgnoringCase other (Text.trimmed text) = false)
      (same : Text.sameIgnoringCase canonical (Text.trimmed text) = true)
      (spells : Spells place canonical parameter.type value)

/-- The text that counts for a parameter: the given one unless it is blank, or else the
default. -/
inductive IsEffective (raw : OrderedMap String) (parameter : Parameter) (text : String) :
    Prop where
  | given (entry : (parameter.name, text) ∈ raw.entries) (visible : ¬ Text.AllBlank text.toList)
  | fallback (blank : ∀ given, (parameter.name, given) ∈ raw.entries → Text.AllBlank given.toList)
      (default : parameter.fallback = some text)

/-- Nothing is wrong with a parameter: it has a text if it needs one, and its text is
acceptable. -/
structure IsSatisfied (place : Place) (raw : OrderedMap String) (parameter : Parameter) :
    Prop where
  present : parameter.required = true → ∃ text, IsEffective raw parameter text
  acceptable : ∀ text, IsEffective raw parameter text → ∃ value, Accepts place parameter text value

/-- What there is to be made of a parameter: a value, nothing, or a complaint that names it. -/
inductive Makes (place : Place) (raw : OrderedMap String) (next : Parameter) :
    Except Problem (Option Value) → Prop where
  | value {text : String} {value : Value} (effective : IsEffective raw next text)
      (accepts : Accepts place next text value) : Makes place raw next (.ok (some value))
  | absent (noText : ∀ text, ¬ IsEffective raw next text) (optional : next.required = false) :
      Makes place raw next (.ok none)
  | missing (noText : ∀ text, ¬ IsEffective raw next text) (required : next.required = true) :
      Makes place raw next (.error (missingParameter next.name))
  | unacceptable {text : String} {problem : Problem} (effective : IsEffective raw next text)
      (refused : ∀ value, ¬ Accepts place next text value)
      (names : problem.parameter = some next.name) : Makes place raw next (.error problem)

/-- The values of the parameters that have a text, in the order of the parameters. -/
inductive Collects (place : Place) (raw : OrderedMap String) :
    List Parameter → List (String × Value) → Prop where
  | nil : Collects place raw [] []
  | value {next : Parameter} {rest : List Parameter} {entries : List (String × Value)}
      {text : String} {value : Value} (effective : IsEffective raw next text)
      (accepts : Accepts place next text value) (others : Collects place raw rest entries) :
      Collects place raw (next :: rest) ((next.name, value) :: entries)
  | absent {next : Parameter} {rest : List Parameter} {entries : List (String × Value)}
      (noText : ∀ text, ¬ IsEffective raw next text) (others : Collects place raw rest entries) :
      Collects place raw (next :: rest) entries

/-- One complaint about each parameter with which something is wrong, in the order of the
parameters. -/
inductive Complains (place : Place) (raw : OrderedMap String) :
    List Parameter → List Problem → Prop where
  | nil : Complains place raw [] []
  | satisfied {next : Parameter} {rest : List Parameter} {problems : List Problem}
      (fine : IsSatisfied place raw next) (others : Complains place raw rest problems) :
      Complains place raw (next :: rest) problems
  | missing {next : Parameter} {rest : List Parameter} {problems : List Problem}
      (required : next.required = true) (noText : ∀ text, ¬ IsEffective raw next text)
      (others : Complains place raw rest problems) :
      Complains place raw (next :: rest) (missingParameter next.name :: problems)
  | unacceptable {next : Parameter} {rest : List Parameter} {problems : List Problem}
      {text : String} {problem : Problem} (effective : IsEffective raw next text)
      (refused : ∀ value, ¬ Accepts place next text value)
      (names : problem.parameter = some next.name) (others : Complains place raw rest problems) :
      Complains place raw (next :: rest) (problem :: problems)

/-! ## The value of a text -/

section

variable {place : Place} {raw other : OrderedMap String} {definition : Definition}
  {parameter next : Parameter} {type : ParameterType} {name text : String} {value : Value}
  {problem : Problem}

theorem missingFolder?_eq_none_iff {path : FilePath} :
    missingFolder? place path = none ↔ ∀ folder, path.parent = some folder →
      folder.text ≠ "" → place.files.isFolder folder = true := by
  rw [missingFolder?]
  cases path.parent with
  | none => simp
  | some folder => by_cases empty : folder.text = "" <;> simp [empty]

theorem typed_eq_ok_iff :
    typed place type name text = .ok value ↔ Spells place text type value := by
  constructor
  · intro made
    cases type with
    | text =>
        cases made
        exact .text
    | integer =>
        unfold typed at made
        dsimp only at made
        split at made
        · next reads =>
            cases made
            obtain ⟨digits, fits⟩ := Decimal.readSigned_eq_some_iff.mp reads
            exact .integer digits fits
        · cases made
    | float =>
        unfold typed at made
        dsimp only at made
        split at made
        · next reads =>
            cases made
            exact .float reads
        · cases made
    | boolean =>
        unfold typed at made
        dsimp only at made
        split at made
        · next reads =>
            cases made
            exact .boolean (readBoolean_eq_some_iff.mp reads)
        · cases made
    | identifier =>
        unfold typed at made
        dsimp only at made
        split at made
        · next faultless =>
            cases made
            obtain ⟨nonempty, noSpace, noColon, notNumeric⟩ :=
              Identifier.fault?_eq_none_iff.mp faultless
            exact .identifier nonempty noSpace noColon notNumeric
        · cases made
    | inputFile =>
        unfold typed at made
        dsimp only at made
        split at made
        · next there =>
            cases made
            exact .inputFile there
        · cases made
    | outputFile =>
        unfold typed at made
        dsimp only at made
        split at made
        · next complete =>
            cases made
            exact .outputFile (missingFolder?_eq_none_iff.mp complete)
        · cases made
    | path =>
        cases made
        exact .path
    | url =>
        unfold typed at made
        dsimp only at made
        split at made
        · next starts =>
            cases made
            rw [isUrl, Bool.or_eq_true, Text.isSome_stripStart_iff,
              Text.isSome_stripStart_iff] at starts
            exact .url starts
        · cases made
  · intro spells
    unfold typed
    cases spells with
    | text => rfl
    | integer digits fits =>
        dsimp only
        rw [Decimal.readSigned_eq_some_iff.mpr ⟨digits, fits⟩]
    | float reads =>
        dsimp only
        rw [reads]
    | boolean same =>
        dsimp only
        rw [readBoolean_eq_some_iff.mpr same]
    | identifier nonempty noSpace noColon notNumeric =>
        dsimp only
        rw [Identifier.fault?_eq_none_iff.mpr ⟨nonempty, noSpace, noColon, notNumeric⟩]
    | inputFile there =>
        dsimp only
        rw [if_pos there]
    | outputFile folders =>
        dsimp only
        rw [missingFolder?_eq_none_iff.mpr folders]
    | path => rfl
    | url starts =>
        rw [← Text.isSome_stripStart_iff, ← Text.isSome_stripStart_iff, ← Bool.or_eq_true,
          ← isUrl] at starts
        dsimp only
        rw [if_pos starts]

theorem coerce_eq_ok_iff_of_any (any : parameter.allowed = []) :
    coerce place parameter text = .ok value ↔ Accepts place parameter text value := by
  rw [coerce, if_pos any, typed_eq_ok_iff, normalText]
  by_cases type : parameter.type = .text
  · rw [if_pos ⟨type, any⟩]
    constructor
    · intro spells
      exact .freeText any type (type ▸ spells)
    · rintro (⟨-, -, spells⟩ | ⟨-, other, -⟩ | ⟨among, -, -, -⟩)
      · exact type ▸ spells
      · exact absurd type other
      · exact absurd (any.symm.trans among) (by simp)
  · rw [if_neg fun both => type both.1]
    constructor
    · intro spells
      exact .trimmed any type spells
    · rintro (⟨-, free, -⟩ | ⟨-, -, spells⟩ | ⟨among, -, -, -⟩)
      · exact absurd free type
      · exact spells
      · exact absurd (any.symm.trans among) (by simp)

/-- Only the first allowed value that a text names counts. -/
theorem canonical?_eq_some_iff {given canonical : String} :
    parameter.canonical? given = some canonical ↔
      ∃ before after, parameter.allowed = before ++ canonical :: after ∧
        (∀ other ∈ before, Text.sameIgnoringCase other given = false) ∧
        Text.sameIgnoringCase canonical given = true := by
  rw [Parameter.canonical?, List.find?_eq_some_iff_append]
  constructor
  · rintro ⟨same, before, after, among, others⟩
    exact ⟨before, after, among, by simpa using others, same⟩
  · rintro ⟨before, after, among, others, same⟩
    exact ⟨same, before, after, among, by simpa using others⟩

theorem coerce_eq_ok_iff_of_allowed (some : parameter.allowed ≠ []) :
    coerce place parameter text = .ok value ↔ Accepts place parameter text value := by
  have normal : normalText parameter text = Text.trimmed text :=
    if_neg fun both => some both.2
  rw [coerce, if_neg some, normal]
  have accepts : Accepts place parameter text value ↔ ∃ canonical,
      parameter.canonical? (Text.trimmed text) = .some canonical ∧
        Spells place canonical parameter.type value := by
    constructor
    · rintro (⟨any, -, -⟩ | ⟨any, -, -⟩ | ⟨among, others, same, spells⟩)
      · exact absurd any some
      · exact absurd any some
      · exact ⟨_, canonical?_eq_some_iff.mpr ⟨_, _, among, others, same⟩, spells⟩
    · rintro ⟨canonical, names, spells⟩
      obtain ⟨before, after, among, others, same⟩ := canonical?_eq_some_iff.mp names
      exact .allowed among others same spells
  rw [accepts]
  cases parameter.canonical? (Text.trimmed text) with
  | none =>
      constructor
      · intro made
        cases made
      · rintro ⟨canonical, names, -⟩
        cases names
  | some canonical =>
      refine typed_eq_ok_iff.trans ⟨fun spells => ⟨canonical, rfl, spells⟩, ?_⟩
      rintro ⟨other, names, spells⟩
      cases names
      exact spells

/-- The value that validation makes of a text is the one for which the text is acceptable. -/
theorem coerce_eq_ok_iff :
    coerce place parameter text = .ok value ↔ Accepts place parameter text value := by
  by_cases any : parameter.allowed = []
  · exact coerce_eq_ok_iff_of_any any
  · exact coerce_eq_ok_iff_of_allowed any

theorem parameter_of_typed (complains : typed place type name text = .error problem) :
    problem.parameter = some name := by
  unfold typed at complains
  dsimp only at complains
  cases type with
  | text => cases complains
  | path => cases complains
  | integer | float | boolean | identifier | inputFile | outputFile | url =>
      dsimp only at complains
      split at complains
      all_goals
        cases complains
      rfl

theorem parameter_of_coerce (complains : coerce place parameter text = .error problem) :
    problem.parameter = some parameter.name := by
  rw [coerce] at complains
  split at complains
  · exact parameter_of_typed complains
  · split at complains
    · exact parameter_of_typed complains
    · cases complains
      rfl

/-! ## The text that counts -/

theorem effectiveText?_eq_some_iff :
    effectiveText? raw parameter = some text ↔ IsEffective raw parameter text := by
  rw [effectiveText?]
  constructor
  · intro counts
    split at counts
    · next given found =>
        cases counts
        obtain ⟨entry, visible⟩ := Option.filter_eq_some_iff.mp found
        rw [bne_iff_ne, ne_eq, Text.trim_eq_nil_iff] at visible
        exact .given (OrderedMap.get?_eq_some_iff_mem.mp entry) visible
    · next nothing =>
        refine .fallback ?_ counts
        intro given entry
        have hidden := Option.filter_eq_none_iff.mp nothing given
          (OrderedMap.get?_eq_some_iff_mem.mpr entry)
        rw [bne_iff_ne, ne_eq, not_not, Text.trim_eq_nil_iff] at hidden
        exact hidden
  · rintro (⟨entry, visible⟩ | ⟨blank, default⟩)
    · rw [OrderedMap.get?_eq_some_iff_mem.mpr entry, Option.filter_some, if_pos]
      rwa [bne_iff_ne, ne_eq, Text.trim_eq_nil_iff]
    · have nothing : (raw.get? parameter.name).filter
          (fun text => Text.trim text.toList != []) = none := by
        rw [Option.filter_eq_none_iff]
        intro given entry
        rw [bne_iff_ne, ne_eq, not_not, Text.trim_eq_nil_iff]
        exact blank given (OrderedMap.get?_eq_some_iff_mem.mp entry)
      rw [nothing]
      exact default

theorem effectiveText?_eq_none_iff :
    effectiveText? raw parameter = none ↔ ∀ text, ¬ IsEffective raw parameter text := by
  rw [Option.eq_none_iff_forall_ne_some]
  constructor
  · intro none text effective
    exact none text (effectiveText?_eq_some_iff.mpr effective)
  · intro none text counts
    exact none text (effectiveText?_eq_some_iff.mp counts)

theorem IsEffective.unique {given : String} (effective : IsEffective raw parameter text)
    (too : IsEffective raw parameter given) : text = given :=
  Option.some.inj
    ((effectiveText?_eq_some_iff.mpr effective).symm.trans (effectiveText?_eq_some_iff.mpr too))

/-- Validation makes of a parameter what its text and its definition say. -/
theorem makes_parameter (place : Place) (raw : OrderedMap String) (next : Parameter) :
    Makes place raw next (Validation.parameter place raw next) := by
  rw [Validation.parameter]
  cases counts : effectiveText? raw next with
  | none =>
      have noText := effectiveText?_eq_none_iff.mp counts
      cases required : next.required with
      | false => exact .absent noText required
      | true => exact .missing noText required
  | some text =>
      have effective := effectiveText?_eq_some_iff.mp counts
      dsimp only
      cases makes : coerce place next text with
      | ok value => exact .value effective (coerce_eq_ok_iff.mp makes)
      | error problem =>
          refine .unacceptable effective ?_ (parameter_of_coerce makes)
          intro value accepts
          cases makes.symm.trans (coerce_eq_ok_iff.mpr accepts)

theorem Makes.isSatisfied_iff {made : Except Problem (Option Value)}
    (makes : Makes place raw next made) :
    IsSatisfied place raw next ↔ ∃ value, made = .ok value := by
  cases makes with
  | value effective accepts =>
      refine ⟨fun _ => ⟨_, rfl⟩, fun _ => ⟨fun _ => ⟨_, effective⟩, ?_⟩⟩
      intro given too
      exact effective.unique too ▸ ⟨_, accepts⟩
  | absent noText optional =>
      refine ⟨fun _ => ⟨_, rfl⟩, fun _ => ⟨?_, ?_⟩⟩
      · intro required
        rw [optional] at required
        cases required
      · intro text effective
        exact absurd effective (noText text)
  | missing noText required =>
      refine ⟨?_, nofun⟩
      intro satisfied
      obtain ⟨text, effective⟩ := satisfied.present required
      exact absurd effective (noText text)
  | unacceptable effective refused names =>
      refine ⟨?_, nofun⟩
      intro satisfied
      obtain ⟨value, accepts⟩ := satisfied.acceptable _ effective
      exact absurd accepts (refused value)

theorem isSatisfied_iff :
    IsSatisfied place raw next ↔ ∃ made, Validation.parameter place raw next = .ok made :=
  (makes_parameter place raw next).isSatisfied_iff

/-! ## All parameters -/

theorem complains_complaints (place : Place) (raw : OrderedMap String)
    (parameters : List Parameter) :
    Complains place raw parameters (complaints place raw parameters) := by
  induction parameters with
  | nil => exact .nil
  | cons next rest ih =>
      rw [complaints, List.filterMap_cons, ← complaints]
      have makes := makes_parameter place raw next
      have satisfied := @isSatisfied_iff place raw next
      generalize Validation.parameter place raw next = made at makes satisfied ⊢
      cases makes with
      | value effective accepts => exact .satisfied (satisfied.mpr ⟨_, rfl⟩) ih
      | absent noText optional => exact .satisfied (satisfied.mpr ⟨_, rfl⟩) ih
      | missing noText required => exact .missing required noText ih
      | unacceptable effective refused names => exact .unacceptable effective refused names ih

theorem collects_foldl {parameters : List Parameter} {found : Findings}
    (distinct : (parameters.map (·.name)).Nodup)
    (fresh : ∀ next ∈ parameters, next.name ∉ found.values.entries.map Prod.fst)
    (fine : ∀ next ∈ parameters, IsSatisfied place raw next) :
    ∃ entries, (parameters.foldl (Findings.add place raw) found).values.entries =
      found.values.entries ++ entries ∧ Collects place raw parameters entries := by
  induction parameters generalizing found with
  | nil => exact ⟨[], (List.append_nil _).symm, .nil⟩
  | cons next rest ih =>
      simp only [List.map_cons, List.nodup_cons] at distinct
      rw [List.forall_mem_cons] at fresh fine
      rw [List.foldl_cons, Findings.add]
      have makes := makes_parameter place raw next
      have satisfied := isSatisfied_iff.mp fine.1
      generalize Validation.parameter place raw next = made at makes satisfied ⊢
      cases makes with
      | @value text value effective accepts =>
          have inserts : (found.values.insert next.name value).entries =
              found.values.entries ++ [(next.name, value)] :=
            OrderedMap.write_of_notMem fresh.1
          have freshBehind : ∀ other ∈ rest,
              other.name ∉ (found.values.insert next.name value).entries.map Prod.fst := by
            intro other member
            have differs : other.name ≠ next.name := by
              intro same
              exact distinct.1 (same ▸ List.mem_map_of_mem (f := (·.name)) member)
            rw [inserts, List.map_append, List.mem_append, not_or]
            exact ⟨fresh.2 other member, fun same => differs (List.mem_singleton.mp same)⟩
          obtain ⟨entries, collected, collects⟩ :=
            @ih { found with values := found.values.insert next.name value } distinct.2
              freshBehind fine.2
          refine ⟨(next.name, value) :: entries, ?_, .value effective accepts collects⟩
          rw [collected, inserts, List.append_assoc, List.singleton_append]
      | absent noText optional =>
          obtain ⟨entries, collected, collects⟩ := ih distinct.2 fresh.2 fine.2
          exact ⟨entries, collected, .absent noText collects⟩
      | missing noText required =>
          obtain ⟨value, same⟩ := satisfied
          cases same
      | unacceptable effective refused names =>
          obtain ⟨value, same⟩ := satisfied
          cases same

theorem recognizes_iff :
    definition.recognizes name = true ↔ name ∈ definition.parameterNames := by
  rw [Definition.recognizes, Definition.parameter?, List.find?_isSome, Definition.parameterNames,
    List.mem_map]
  simp

/-- The names that are complained about are those without a parameter. -/
theorem unknownNames_eq (definition : Definition) (raw : OrderedMap String) :
    unknownNames definition raw =
      (raw.keys.filter fun name => name ∉ definition.parameterNames).map
        (unknownParameter definition) := by
  rw [unknownNames]
  congr 1
  apply List.filter_congr
  intro name _
  have same : definition.recognizes name = decide (name ∈ definition.parameterNames) := by
    rw [Bool.eq_iff_iff, recognizes_iff, decide_eq_true_iff]
  rw [same, decide_not]

theorem unknownNames_eq_nil_iff :
    unknownNames definition raw = [] ↔ ∀ name ∈ raw.keys, name ∈ definition.parameterNames := by
  rw [unknownNames_eq, List.map_eq_nil_iff, List.filter_eq_nil_iff]
  simp

theorem isSatisfied_of_validate {values : ParameterSet}
    (distinct : definition.parameterNames.Nodup)
    (validated : validate place definition raw = .ok values) :
    ∀ next ∈ definition.parameters, IsSatisfied place raw next := by
  intro next member
  exact isSatisfied_iff.mpr ⟨_, parameter_eq_of_validate distinct validated member⟩

theorem collects_of_validate {values : ParameterSet} (distinct : definition.parameterNames.Nodup)
    (validated : validate place definition raw = .ok values) :
    Collects place raw definition.parameters values.entries := by
  obtain ⟨entries, collected, collects⟩ :=
    @collects_foldl place raw definition.parameters ⟨.empty, unknownNames definition raw⟩ distinct
      (fun _ _ => List.not_mem_nil) (isSatisfied_of_validate distinct validated)
  have same : values.entries = entries := by
    rw [validate] at validated
    split at validated
    · cases validated
      exact collected
    · cases validated
  rw [same]
  exact collects

theorem parameter_eq_of_perm (reordered : other.entries.Perm raw.entries) :
    Validation.parameter place other next = Validation.parameter place raw next := by
  have same : other.get? next.name = raw.get? next.name := by
    apply Option.ext
    intro text
    rw [OrderedMap.get?_eq_some_iff_mem, OrderedMap.get?_eq_some_iff_mem, reordered.mem_iff]
  rw [Validation.parameter, Validation.parameter, effectiveText?, effectiveText?, same]

/-- If every name is defined, nothing depends on the order of the texts. -/
theorem validate_eq_of_perm (reordered : other.entries.Perm raw.entries)
    (known : unknownNames definition raw = []) :
    validate place definition other = validate place definition raw := by
  have unknown : (unknownNames definition other).Perm (unknownNames definition raw) :=
    ((reordered.map Prod.fst).filter _).map _
  rw [known] at unknown
  have adds : Findings.add place other = Findings.add place raw := by
    funext found next
    rw [Findings.add, Findings.add, parameter_eq_of_perm reordered]
  have same : findings place definition other = findings place definition raw := by
    rw [findings, findings, adds, known, unknown.eq_nil]
  rw [validate, validate, same]

/-- Validation meets its specification.  It succeeds exactly if every name is defined and nothing
is wrong with any parameter, and then the values are those of the parameters with a text in the
order of the definition, whatever the order of the texts.  Otherwise there is one complaint for
each name that is not defined, in the order of the texts, and behind them one for each parameter
with which something is wrong, in the order of the definition. -/
theorem validate_meets_specification (place : Place) (raw : OrderedMap String)
    (distinct : definition.parameterNames.Nodup) :
    ((∃ values, validate place definition raw = .ok values) ↔
      (∀ name ∈ raw.keys, name ∈ definition.parameterNames) ∧
      ∀ next ∈ definition.parameters, IsSatisfied place raw next) ∧
    (∀ values, validate place definition raw = .ok values →
      Collects place raw definition.parameters values.entries ∧
      ∀ other : OrderedMap String, other.entries.Perm raw.entries →
        validate place definition other = .ok values) ∧
    (∀ problems, validate place definition raw = .error problems →
      problems ≠ [] ∧ ∃ complaints, Complains place raw definition.parameters complaints ∧
        problems = (raw.keys.filter fun name => name ∉ definition.parameterNames).map
          (unknownParameter definition) ++ complaints) := by
  refine ⟨⟨?_, ?_⟩, ?_, ?_⟩
  · rintro ⟨values, validated⟩
    exact ⟨unknownNames_eq_nil_iff.mp (unknownNames_of_validate validated),
      isSatisfied_of_validate distinct validated⟩
  · rintro ⟨known, every⟩
    apply exists_validate_eq_ok
    · intro name member
      exact recognizes_iff.mpr (known name member)
    · intro next member
      exact isSatisfied_iff.mp (every next member)
  · intro values validated
    refine ⟨collects_of_validate distinct validated, ?_⟩
    intro other reordered
    rw [validate_eq_of_perm reordered (unknownNames_of_validate validated)]
    exact validated
  · intro problems refused
    refine ⟨ne_nil_of_validate refused, _, complains_complaints place raw definition.parameters, ?_⟩
    rw [← unknownNames_eq]
    exact problems_of_validate refused

/-- A command with a required parameter, one with allowed values and a default, and two more. -/
def plot : Definition where
  name := "Plot"
  description := ""
  parameters :=
    [{ name := "LayerID", type := .identifier, required := true },
      { name := "Format", fallback := some "PNG", allowed := ["PNG", "SVG"] },
      { name := "Width", type := .integer },
      { name := "Title" }]

/-- Texts in another order than that of the definition, of which the last is blank. -/
def plotTexts : OrderedMap String :=
  .ofList [("Width", " 12 "), ("Format", "svg"), ("LayerID", "roads"), ("Title", " ")]

/-- A name that is not defined, a value that is no integer, and a layer that is missing. -/
def flawedPlotTexts : OrderedMap String := .ofList [("Width", "wide"), ("Colour", "red")]

theorem validate_meets_specification_plot :
    plot.parameterNames.Nodup ∧
    (∃ values, validate ⟨.empty [] "/", ⟨"."⟩⟩ plot plotTexts = .ok values ∧
      values.keys = ["LayerID", "Format", "Width"] ∧
      Collects ⟨.empty [] "/", ⟨"."⟩⟩ plotTexts plot.parameters values.entries) ∧
    ∃ problems, validate ⟨.empty [] "/", ⟨"."⟩⟩ plot flawedPlotTexts = .error problems ∧
      ∃ complaints, Complains ⟨.empty [] "/", ⟨"."⟩⟩ flawedPlotTexts plot.parameters complaints ∧
        problems = unknownParameter plot "Colour" :: complaints := by
  have distinct : plot.parameterNames.Nodup := by decide
  refine ⟨distinct, ?_, ?_⟩
  · have succeeds : (match validate ⟨.empty [] "/", ⟨"."⟩⟩ plot plotTexts with
        | .ok values => decide (values.keys = ["LayerID", "Format", "Width"])
        | .error _ => false) = true := by
      decide +kernel
    cases validated : validate ⟨.empty [] "/", ⟨"."⟩⟩ plot plotTexts with
    | ok values =>
        rw [validated] at succeeds
        have collected := (validate_meets_specification _ _ distinct).2.1 values validated
        exact ⟨values, rfl, of_decide_eq_true succeeds, collected.1⟩
    | error problems =>
        rw [validated] at succeeds
        cases succeeds
  · have fails : (match validate ⟨.empty [] "/", ⟨"."⟩⟩ plot flawedPlotTexts with
        | .ok _ => false
        | .error _ => true) = true := by
      decide +kernel
    cases validated : validate ⟨.empty [] "/", ⟨"."⟩⟩ plot flawedPlotTexts with
    | ok values =>
        rw [validated] at fails
        cases fails
    | error problems =>
        obtain ⟨-, complaints, complains, same⟩ :=
          (validate_meets_specification _ _ distinct).2.2 problems validated
        exact ⟨problems, rfl, complaints, complains, same⟩

end

end Validation

end Workflow
