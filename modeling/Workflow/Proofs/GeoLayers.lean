import Workflow.Proofs.Builtin.Collections
import Workflow.Proofs.Json.RoundTrip

/-!
# Writing geolayers and reading them back

The document of a geolayer is written in the indented form.  Wrapping a feature or a geometry into
a collection puts further levels around it, which the reader may refuse when the document is read
back; that is the only reason for which a document with integers alone is not read back unchanged.
-/

namespace Workflow.GeoLayer

open Json

theorem collection_eq (feature : Json) :
    collection feature =
      .object [("features", .array [feature]), ("type", .text "FeatureCollection")] := by
  have before : "features" < "type" := by decide +kernel
  rw [collection, ofMembers, List.foldl_cons, List.foldl_cons, List.foldl_nil, write,
    write_of_less before]

theorem feature_eq (geometry : Json) :
    feature geometry =
      .object [("geometry", geometry), ("properties", .object []), ("type", .text "Feature")] := by
  have propertiesFirst : "properties" < "type" := by decide +kernel
  have geometryFirst : "geometry" < "properties" := by decide +kernel
  rw [feature, ofMembers, List.foldl_cons, List.foldl_cons, List.foldl_cons, List.foldl_nil, write,
    write_of_less propertiesFirst, write_of_less geometryFirst]

/-- The number of levels that are put around a value to make a collection of features of it. -/
def levelsAround (value : Json) : Nat :=
  match (value.member? "type").bind Json.text? with
  | some type => if type = "FeatureCollection" then 0 else if type = "Feature" then 2 else 3
  | none => 0

section Documents

variable {value document : Json}

/-- The ways in which a value is made a collection of features. -/
theorem ofJson_cases (accepted : ofJson value = .ok document) :
    (document = value ∧ levelsAround value = 0) ∨
      (document = collection value ∧ levelsAround value = 2) ∨
      (document = collection (feature value) ∧ levelsAround value = 3 ∧
        ∃ members, value = .object members) := by
  simp only [ofJson] at accepted
  simp only [levelsAround]
  split at accepted
  · cases accepted
  · next type named =>
      obtain ⟨content, member, -⟩ := Option.bind_eq_some_iff.mp named
      have object := Json.exists_of_member? member
      split at accepted
      · next isCollection =>
          split at accepted
          · cases accepted
            exact .inl ⟨rfl, by simp only [named, if_pos isCollection]⟩
          · cases accepted
      · next noCollection =>
          split at accepted
          · next isFeature =>
              cases accepted
              exact .inr (.inl ⟨rfl, by simp only [named, if_neg noCollection, if_pos isFeature]⟩)
          · next noFeature =>
              split at accepted
              · cases accepted
                refine .inr (.inr ⟨rfl, ?_, object⟩)
                simp only [named, if_neg noCollection, if_neg noFeature]
              · cases accepted

theorem depth_collection (feature : Json) : (collection feature).depth = feature.depth + 2 := by
  simp [collection_eq, depth, depthOfMembers, depthOfItems]

/-- A collection of features is as deep as the value it was made of and the levels around it. -/
theorem depth_of_ofJson (accepted : ofJson value = .ok document) :
    document.depth = value.depth + levelsAround value := by
  rcases ofJson_cases accepted with ⟨rfl, none⟩ | ⟨rfl, two⟩ | ⟨rfl, three, members, rfl⟩
  · rw [none, Nat.add_zero]
  · rw [two, depth_collection]
  · rw [three, depth_collection, feature_eq]
    simp [depth, depthOfMembers]

theorem isNormal_collection {feature : Json} (normal : feature.IsNormal) :
    (collection feature).IsNormal := by
  apply isNormal_ofMembers
  rw [List.forall_mem_cons, List.forall_mem_singleton]
  refine ⟨.text _, .array ?_⟩
  rintro item here
  rwa [List.mem_singleton.mp here]

theorem isNormal_feature {geometry : Json} (normal : geometry.IsNormal) :
    (feature geometry).IsNormal := by
  apply isNormal_ofMembers
  rw [List.forall_mem_cons, List.forall_mem_cons, List.forall_mem_singleton]
  have empty : IsNormal (.object []) :=
    .object List.Pairwise.nil fun _ none => absurd none List.not_mem_nil
  exact ⟨.text _, empty, normal⟩

theorem isNormal_of_ofJson (normal : value.IsNormal) (accepted : ofJson value = .ok document) :
    document.IsNormal := by
  rcases ofJson_cases accepted with ⟨rfl, -⟩ | ⟨rfl, -⟩ | ⟨rfl, -⟩
  · exact normal
  · exact isNormal_collection normal
  · exact isNormal_collection (isNormal_feature normal)

theorem hasWholeNumbers_collection {feature : Json} (numbers : feature.HasWholeNumbers) :
    (collection feature).HasWholeNumbers := by
  rw [collection_eq]
  apply HasWholeNumbers.object
  rw [List.forall_mem_cons, List.forall_mem_singleton]
  refine ⟨.array ?_, .text _⟩
  rintro item here
  rwa [List.mem_singleton.mp here]

theorem hasWholeNumbers_feature {geometry : Json} (numbers : geometry.HasWholeNumbers) :
    (feature geometry).HasWholeNumbers := by
  rw [feature_eq]
  apply HasWholeNumbers.object
  rw [List.forall_mem_cons, List.forall_mem_cons, List.forall_mem_singleton]
  exact ⟨numbers, .object fun _ none => absurd none List.not_mem_nil, .text _⟩

theorem ofJson_of_ofJson (accepted : ofJson value = .ok document) :
    ofJson document = .ok document := by
  let layer : GeoLayer := { id := "", name := "", description := "", source := none, document }
  have collection : layer.IsCollection := isCollection_of_ofJson accepted
  obtain ⟨features, listed, -⟩ := collection.features
  have type : document.member? "type" = some (.text "FeatureCollection") := collection.type
  have held : document.member? "features" = some (.array features) := listed
  simp only [ofJson, type, held, Option.bind_some, Json.text?, Json.items?, if_true]

/-- A written value that the reader allows is taken as if it had been read, and one that is too deep
is refused. -/
theorem readDocument_pretty (numbers : value.HasWholeNumbers) (normal : value.IsNormal) :
    (value.depth ≤ maxDepth → readDocument value.pretty = ofJson value) ∧
      (maxDepth < value.depth → ∃ error,
        readDocument value.pretty = .error (.notJson error) ∧ error.cause = .tooDeep) := by
  obtain ⟨fits, deep⟩ := read_pretty numbers normal
  constructor
  · intro within
    simp only [readDocument, fits within]
  · intro beyond
    obtain ⟨error, fails, cause⟩ := deep beyond
    exact ⟨error, by simp only [readDocument, fails], cause⟩

end Documents

/-- A document whose numbers are integers is read back from its written form exactly if the reader
allows its depth, which is what is complained about otherwise.  The document is as deep as the
text it came from, which the reader has allowed, and the levels put around it. -/
theorem readDocument_pretty_iff {text : String} {document : Json}
    (accepted : readDocument text = .ok document) (numbers : document.HasWholeNumbers) :
    (readDocument document.pretty = .ok document ↔ document.depth ≤ maxDepth) ∧
      (maxDepth < document.depth → ∃ error,
        readDocument document.pretty = .error (.notJson error) ∧ error.cause = .tooDeep) ∧
      ∃ value, Json.read text = .ok value ∧ value.depth ≤ maxDepth ∧
        document.depth = value.depth + levelsAround value := by
  simp only [readDocument] at accepted
  split at accepted
  · next value reads =>
      obtain ⟨normal, shallow⟩ := isReadable_of_read reads
      obtain ⟨fits, deep⟩ := readDocument_pretty numbers (isNormal_of_ofJson normal accepted)
      refine ⟨?_, deep, value, reads, shallow, depth_of_ofJson accepted⟩
      constructor
      · intro same
        by_contra beyond
        obtain ⟨error, fails, -⟩ := deep (Nat.lt_of_not_le beyond)
        rw [same] at fails
        cases fails
      · intro within
        exact (fits within).trans (ofJson_of_ofJson accepted)
  · cases accepted

/-- A feature without a geometry. -/
def lake : Json :=
  .object
    [("geometry", .null),
     ("properties", .object [("count", .integer (-7)), ("name", .text "a \"b\"\n\x01")]),
     ("type", .text "Feature")]

theorem isNormal_lake : lake.IsNormal := by
  have properties : IsNormal
      (.object [("count", .integer (-7)), ("name", .text "a \"b\"\n\x01")]) := by
    apply IsNormal.object
    · exact List.pairwise_pair.mpr (by decide +kernel)
    · rw [List.forall_mem_cons, List.forall_mem_singleton]
      exact ⟨.integer ⟨by decide, by decide⟩, .text _⟩
  apply IsNormal.object
  · simp only [IsSorted, List.pairwise_cons, List.forall_mem_cons, List.not_mem_nil, false_implies,
      implies_true, and_true, List.Pairwise.nil]
    decide +kernel
  · rw [List.forall_mem_cons, List.forall_mem_cons, List.forall_mem_singleton]
    exact ⟨.null, properties, .text _⟩

theorem hasWholeNumbers_lake : lake.HasWholeNumbers := by
  apply HasWholeNumbers.object
  rw [List.forall_mem_cons, List.forall_mem_cons, List.forall_mem_singleton]
  refine ⟨.null, .object ?_, .text _⟩
  rw [List.forall_mem_cons, List.forall_mem_singleton]
  exact ⟨.integer _, .text _⟩

theorem readDocument_pretty_iff_lake :
    readDocument lake.pretty = .ok (collection lake) ∧ (collection lake).HasWholeNumbers ∧
      readDocument (collection lake).pretty = .ok (collection lake) := by
  have numbers := hasWholeNumbers_collection hasWholeNumbers_lake
  have depths : lake.depth = 2 ∧ (collection lake).depth = 4 := by
    rw [depth_collection]
    simp [lake, depth, depthOfMembers]
  have accepted : readDocument lake.pretty = .ok (collection lake) := by
    rw [(readDocument_pretty hasWholeNumbers_lake isNormal_lake).1 (by rw [depths.1]; decide)]
    rfl
  refine ⟨accepted, numbers, (readDocument_pretty_iff accepted numbers).1.mpr ?_⟩
  rw [depths.2]
  decide

/-- Arrays inside of each other around an empty one. -/
def nested : Nat → Json
  | 0 => .array []
  | levels + 1 => .array [nested levels]

theorem depth_nested (levels : Nat) : (nested levels).depth = levels + 1 := by
  induction levels with
  | zero => simp [nested, depth, depthOfItems]
  | succ levels ih => simp [nested, depth, depthOfItems, ih]

theorem isNormal_nested (levels : Nat) : (nested levels).IsNormal := by
  induction levels with
  | zero => exact .array fun _ none => absurd none List.not_mem_nil
  | succ levels ih => exact .array fun _ here => List.mem_singleton.mp here ▸ ih

theorem hasWholeNumbers_nested (levels : Nat) : (nested levels).HasWholeNumbers := by
  induction levels with
  | zero => exact .array fun _ none => absurd none List.not_mem_nil
  | succ levels ih => exact .array fun _ here => List.mem_singleton.mp here ▸ ih

/-- A geometry with as many levels as are allowed. -/
def deepPoint : Json := .object [("coordinates", nested 125), ("type", .text "Point")]

/-- A geometry that is accepted with all the levels allowed cannot be read back with the levels that
make a collection of it. -/
theorem deepPoint_not_read_back :
    ∃ document, readDocument deepPoint.pretty = .ok document ∧ document.HasWholeNumbers ∧
      readDocument document.pretty ≠ .ok document := by
  have normal : deepPoint.IsNormal := by
    apply IsNormal.object
    · exact List.pairwise_pair.mpr (by decide +kernel)
    · rw [List.forall_mem_cons, List.forall_mem_singleton]
      exact ⟨isNormal_nested 125, .text _⟩
  have numbers : deepPoint.HasWholeNumbers := by
    apply HasWholeNumbers.object
    rw [List.forall_mem_cons, List.forall_mem_singleton]
    exact ⟨hasWholeNumbers_nested 125, .text _⟩
  have levels : deepPoint.depth = 127 := by
    simp [deepPoint, depth, depthOfMembers, depth_nested]
  have accepted : ofJson deepPoint = .ok (collection (feature deepPoint)) := rfl
  refine ⟨collection (feature deepPoint), ?_, ?_, ?_⟩
  · rw [(readDocument_pretty numbers normal).1 (Nat.le_of_eq levels), accepted]
  · exact hasWholeNumbers_collection (hasWholeNumbers_feature numbers)
  · intro same
    have deeper : maxDepth < (collection (feature deepPoint)).depth := by
      have around : levelsAround deepPoint = 3 := rfl
      rw [depth_of_ofJson accepted, levels, around]
      decide
    obtain ⟨error, fails, -⟩ := (readDocument_pretty
      (hasWholeNumbers_collection (hasWholeNumbers_feature numbers))
      (isNormal_collection (isNormal_feature normal))).2 deeper
    rw [same] at fails
    cases fails

end Workflow.GeoLayer
