import Workflow.Expansion
import Workflow.Proofs.OrderedMap
import Workflow.Validation

/-!
# What validation returns

A text without a dollar sign expands to itself.  A validated set holds for every parameter of
the definition just what validation makes of that parameter alone, and validation succeeds when
every name is known and no parameter is complained about.
-/

namespace Workflow

theorem Expansion.expandList_of_notMem {find : String → Option String} {text : List Char}
    (plain : '$' ∉ text) : expandList find text = text := by
  induction text with
  | nil => rw [expandList]
  | cons c text ih =>
      simp only [List.mem_cons, not_or] at plain
      have other : c ≠ '$' := fun same => plain.1 same.symm
      rw [expandList, ih plain.2] <;> simp [other]

theorem Expansion.expand_of_notMem {find : String → Option String} {text : String}
    (plain : '$' ∉ text.toList) : expand find text = text := by
  rw [expand, expandList_of_notMem plain, String.ofList_toList]

theorem Expansion.expand_singleton (find : String → Option String) (c : Char) :
    expand find (String.singleton c) = String.singleton c := by
  have alone : expandList find [c] = [c] := by
    by_cases dollar : c = '$'
    · subst dollar
      rw [expandList, expandList] <;> simp
    · exact expandList_of_notMem (by simpa using fun same => dollar same.symm)
  rw [expand, String.toList_singleton, alone]
  rfl

namespace Validation

variable {place : Place} {raw : OrderedMap String} {definition : Definition}

/-- The complaints about parameters, in their order. -/
def complaints (place : Place) (raw : OrderedMap String) (parameters : List Parameter) :
    List Problem :=
  parameters.filterMap fun next =>
    match parameter place raw next with
    | .ok _ => none
    | .error problem => some problem

/-- What is complained about comes behind the complaints that were there before. -/
theorem problems_foldl (place : Place) (raw : OrderedMap String) (parameters : List Parameter)
    (found : Findings) :
    (parameters.foldl (Findings.add place raw) found).problems =
      found.problems ++ complaints place raw parameters := by
  induction parameters generalizing found with
  | nil => exact (List.append_nil _).symm
  | cons next rest ih =>
      rw [List.foldl_cons, ih, complaints, complaints, List.filterMap_cons]
      simp only [Findings.add]
      cases parameter place raw next with
      | error problem => exact List.append_assoc _ _ _
      | ok value => cases value <;> rfl

/-- The unknown names are complained about before the parameters. -/
theorem problems_findings (place : Place) (definition : Definition) (raw : OrderedMap String) :
    (findings place definition raw).problems =
      unknownNames definition raw ++ complaints place raw definition.parameters :=
  problems_foldl place raw definition.parameters _

theorem get?_foldl_of_notMem {name : String} {parameters : List Parameter}
    (absent : name ∉ parameters.map (·.name)) (found : Findings) :
    (parameters.foldl (Findings.add place raw) found).values.get? name =
      found.values.get? name := by
  induction parameters generalizing found with
  | nil => rfl
  | cons next rest ih =>
      simp only [List.map_cons, List.mem_cons, not_or] at absent
      rw [List.foldl_cons, ih absent.2]
      simp only [Findings.add]
      split
      · exact (OrderedMap.get?_insert ..).trans (if_neg absent.1)
      · rfl
      · rfl

/-- Without complaints, every parameter of a list with distinct names ends with what validation
makes of it. -/
theorem parameter_eq_of_foldl {parameters : List Parameter} {found : Findings}
    (distinct : (parameters.map (·.name)).Nodup)
    (untouched : ∀ next ∈ parameters, found.values.get? next.name = none)
    (clean : (parameters.foldl (Findings.add place raw) found).problems = [])
    {next : Parameter} (member : next ∈ parameters) :
    parameter place raw next =
      .ok ((parameters.foldl (Findings.add place raw) found).values.get? next.name) := by
  induction parameters generalizing found with
  | nil => cases member
  | cons first rest ih =>
      simp only [List.map_cons, List.nodup_cons] at distinct
      simp only [List.foldl_cons] at clean ⊢
      rcases List.mem_cons.mp member with rfl | later
      · rw [get?_foldl_of_notMem distinct.1]
        rw [problems_foldl] at clean
        have kept := (List.append_eq_nil_iff.mp clean).1
        simp only [Findings.add] at kept ⊢
        split
        · next value makes => rw [makes, OrderedMap.get?_insert, if_pos rfl]
        · next makes => rw [makes, untouched next member]
        · next problem makes =>
            rw [makes] at kept
            exact absurd kept (List.append_ne_nil_of_right_ne_nil _ (List.cons_ne_nil _ _))
      · refine ih distinct.2 ?_ clean later
        intro other among
        have differs : other.name ≠ first.name := by
          intro same
          exact distinct.1 (same ▸ List.mem_map_of_mem (f := (·.name)) among)
        have before := untouched other (List.mem_cons_of_mem _ among)
        simp only [Findings.add]
        split
        · exact (OrderedMap.get?_insert ..).trans ((if_neg differs).trans before)
        · exact before
        · exact before

/-- A validated set holds for every parameter what validation makes of it. -/
theorem parameter_eq_of_validate {values : ParameterSet}
    (distinct : definition.parameterNames.Nodup)
    (validated : validate place definition raw = .ok values)
    {next : Parameter} (member : next ∈ definition.parameters) :
    parameter place raw next = .ok (values.get? next.name) := by
  simp only [validate] at validated
  split at validated
  · next clean =>
      cases validated
      exact parameter_eq_of_foldl distinct (fun _ _ => rfl) clean member
  · cases validated

theorem ne_nil_of_validate {problems : List Problem}
    (refused : validate place definition raw = .error problems) : problems ≠ [] := by
  simp only [validate] at refused
  split at refused
  · cases refused
  · next complained =>
      cases refused
      exact complained

theorem problems_of_validate {problems : List Problem}
    (refused : validate place definition raw = .error problems) :
    problems = unknownNames definition raw ++ complaints place raw definition.parameters := by
  rw [← problems_findings]
  simp only [validate] at refused
  split at refused
  · cases refused
  · cases refused
    rfl

theorem unknownNames_of_validate {values : ParameterSet}
    (validated : validate place definition raw = .ok values) :
    unknownNames definition raw = [] := by
  simp only [validate] at validated
  split at validated
  · next clean =>
      rw [problems_findings] at clean
      exact (List.append_eq_nil_iff.mp clean).1
  · cases validated

theorem exists_of_mem_complaints {parameters : List Parameter} {problem : Problem}
    (member : problem ∈ complaints place raw parameters) :
    ∃ next ∈ parameters, parameter place raw next = .error problem := by
  obtain ⟨next, among, complains⟩ := List.mem_filterMap.mp member
  refine ⟨next, among, ?_⟩
  split at complains
  · cases complains
  · next found =>
      cases complains
      exact found

theorem complaints_eq_nil {parameters : List Parameter}
    (fine : ∀ next ∈ parameters, ∃ value, parameter place raw next = .ok value) :
    complaints place raw parameters = [] := by
  rw [complaints, List.filterMap_eq_nil_iff]
  intro next member
  obtain ⟨value, makes⟩ := fine next member
  rw [makes]

theorem exists_validate_eq_ok (known : ∀ name ∈ raw.keys, definition.recognizes name = true)
    (fine : ∀ next ∈ definition.parameters, ∃ value, parameter place raw next = .ok value) :
    ∃ values, validate place definition raw = .ok values := by
  have clean : (findings place definition raw).problems = [] := by
    rw [problems_findings, complaints_eq_nil fine, List.append_nil]
    simpa [unknownNames, List.filter_eq_nil_iff] using known
  refine ⟨(findings place definition raw).values, ?_⟩
  simp only [validate]
  rw [if_pos clean]

end Validation

/-- What a definition lets through as identifiers are identifiers. -/
def Definition.Admits (definition : Definition) (parameters : ParameterSet) : Prop :=
  ∀ next ∈ definition.parameters, next.type = .identifier →
    ∀ id, ParameterSet.text? parameters next.name = some id → Identifier.isValid id = true

namespace Validation

variable {place : Place} {raw : OrderedMap String} {definition : Definition}

theorem isValid_of_typed {name text id : String} {value : Value}
    (made : typed place .identifier name text = .ok value) (holds : value.text? = some id) :
    Identifier.isValid id = true := by
  unfold typed at made
  dsimp only at made
  split at made
  · next faultless =>
      cases made
      cases holds
      exact Option.isNone_iff_eq_none.mpr faultless
  · cases made

theorem isValid_of_coerce {next : Parameter} (type : next.type = .identifier) {text id : String}
    {value : Value} (made : coerce place next text = .ok value)
    (holds : value.text? = some id) : Identifier.isValid id = true := by
  rw [coerce, type] at made
  split at made
  · exact isValid_of_typed made holds
  · split at made
    · exact isValid_of_typed made holds
    · cases made

/-- Validated parameters hold identifiers where the definition asks for them. -/
theorem admits_of_validate {values : ParameterSet} (distinct : definition.parameterNames.Nodup)
    (validated : validate place definition raw = .ok values) : definition.Admits values := by
  intro next member type id holds
  have makes := parameter_eq_of_validate distinct validated member
  obtain ⟨value, given, holds⟩ := Option.bind_eq_some_iff.mp holds
  rw [given, parameter] at makes
  split at makes
  · next text _ =>
      cases made : coerce place next text with
      | error problem =>
          rw [made] at makes
          cases makes
      | ok other =>
          rw [made] at makes
          cases makes
          exact isValid_of_coerce type made holds
  · split at makes <;> cases makes

end Validation

end Workflow
