import Workflow.Proofs.Call.Reading

/-!
# Writing a call and reading it back

A call is written with every value in quotes and without blanks.  If its name is one and no value
holds a quote, it is read back as it was exactly when every key can be a key.
-/

namespace Workflow.Call

open Text

/-- A key can be read back: it is not empty, holds no separator and has no blanks around it. -/
structure IsKey (key : String) : Prop where
  noEquals : '=' ∉ key.toList
  noComma : ',' ∉ key.toList
  noClose : ')' ∉ key.toList
  trimmed : trim key.toList = key.toList
  notEmpty : key.toList ≠ []

theorem isKey_iff {key : String} :
    IsKey key ↔ ('=' ∉ key.toList ∧ ',' ∉ key.toList ∧ ')' ∉ key.toList) ∧
      trim key.toList = key.toList ∧ key.toList ≠ [] := by
  constructor
  · intro isKey
    exact ⟨⟨isKey.noEquals, isKey.noComma, isKey.noClose⟩, isKey.trimmed, isKey.notEmpty⟩
  · rintro ⟨⟨noEquals, noComma, noClose⟩, trimmed, notEmpty⟩
    exact ⟨noEquals, noComma, noClose, trimmed, notEmpty⟩

instance (key : String) : Decidable (IsKey key) := decidable_of_iff _ isKey_iff.symm

/-- A parameter as it is rendered. -/
def rendered (parameter : String × String) : WrittenParameter :=
  ⟨parameter.1.toList, .quoted [] parameter.2.toList []⟩

/-- A parameter list as it is rendered. -/
def renderedList : List (String × String) → WrittenList
  | [] => .blank []
  | first :: others => .filled (rendered first) (others.map rendered)

/-- A call as it is rendered. -/
def renderedCall (call : Call) : WrittenCall :=
  ⟨call.name.toList, [], renderedList call.parameters.entries⟩

theorem toList_renderParameter (parameter : String × String) :
    (renderParameter parameter).toList = (rendered parameter).text := by
  simp [renderParameter, rendered, WrittenParameter.text, WrittenValue.text]

theorem joined_eq_intercalate (first : WrittenParameter) (others : List WrittenParameter) :
    WrittenParameter.joined first others =
      [','].intercalate ((first :: others).map WrittenParameter.text) := by
  induction others generalizing first with
  | nil => simp [WrittenParameter.joined]
  | cons second others ih => simp [WrittenParameter.joined, ih]

theorem text_renderedList (parameters : List (String × String)) :
    (renderedList parameters).text =
      (",".intercalate (parameters.map renderParameter)).toList := by
  cases parameters with
  | nil => rfl
  | cons first others =>
      rw [renderedList, WrittenList.text, joined_eq_intercalate, String.toList_intercalate]
      congr 1
      simp [toList_renderParameter]

theorem toList_render (call : Call) : call.render.toList = (renderedCall call).text := by
  simp [render, renderedCall, WrittenCall.text, text_renderedList]

theorem meaning_rendered {parameter : String × String} (key : IsKey parameter.1) :
    (rendered parameter).meaning = parameter := by
  simp [rendered, WrittenParameter.meaning, WrittenValue.content, key.trimmed]

theorem isValid_rendered {parameter : String × String} (key : IsKey parameter.1)
    (quoteless : '"' ∉ parameter.2.toList) : (rendered parameter).IsValid := by
  refine ⟨key.noEquals, key.noComma, key.noClose, ?_, ?_⟩
  · rw [rendered, key.trimmed]
    exact key.notEmpty
  · exact ⟨allAsciiBlank_nil, quoteless, allAsciiBlank_nil⟩

theorem meaning_renderedList {parameters : List (String × String)}
    (keys : ∀ parameter ∈ parameters, IsKey parameter.1) :
    (renderedList parameters).meaning = parameters := by
  cases parameters with
  | nil => rfl
  | cons first others =>
      rw [renderedList, WrittenList.meaning, ← List.map_cons, List.map_map]
      conv_rhs => rw [← List.map_id (first :: others)]
      exact List.map_congr_left fun parameter member => meaning_rendered (keys parameter member)

theorem isValid_renderedList {parameters : List (String × String)}
    (distinct : (parameters.map Prod.fst).Nodup)
    (keys : ∀ parameter ∈ parameters, IsKey parameter.1)
    (quoteless : ∀ parameter ∈ parameters, '"' ∉ parameter.2.toList) :
    (renderedList parameters).IsValid := by
  have meaning := meaning_renderedList keys
  cases parameters with
  | nil => exact allAsciiBlank_nil
  | cons first others =>
      constructor
      · intro written member
        rw [← List.map_cons, List.mem_map] at member
        obtain ⟨parameter, among, rfl⟩ := member
        exact isValid_rendered (keys parameter among) (quoteless parameter among)
      · rw [renderedList, WrittenList.meaning] at meaning
        rw [meaning]
        exact distinct

theorem isKey_of_mem_meaning {list : WrittenList} (valid : list.IsValid)
    {parameter : String × String} (member : parameter ∈ list.meaning) : IsKey parameter.1 := by
  cases list with
  | blank blanks => cases member
  | filled first others =>
      obtain ⟨written, among, rfl⟩ := List.mem_map.mp member
      obtain ⟨noEquals, noComma, noClose, notBlank, -⟩ := valid.1 written among
      have inside : ∀ c ∈ trim written.key, c ∈ written.key := by
        obtain ⟨before, after, -, -, whole⟩ := exists_blanks_around written.key
        intro c here
        rw [whole]
        simp [here]
      constructor <;> simp only [WrittenParameter.meaning, String.toList_ofList]
      · exact fun here => noEquals (inside _ here)
      · exact fun here => noComma (inside _ here)
      · exact fun here => noClose (inside _ here)
      · exact trim_trim written.key
      · exact notBlank

theorem quote_notMem_of_mem_meaning {list : WrittenList} (valid : list.IsValid)
    {parameter : String × String} (member : parameter ∈ list.meaning) :
    '"' ∉ parameter.2.toList := by
  cases list with
  | blank blanks => cases member
  | filled first others =>
      obtain ⟨written, among, rfl⟩ := List.mem_map.mp member
      obtain ⟨-, -, -, -, value⟩ := valid.1 written among
      rw [WrittenParameter.meaning, String.toList_ofList]
      cases shape : written.value with
      | quoted before content after =>
          rw [shape] at value
          exact value.2.1
      | bare text =>
          rw [shape] at value
          exact value.2.2.2

/-- A call that was read has a name, and its values hold no quotes. -/
theorem isName_and_quoteless_of_read {line : List Char} {call : Call} (trimmed : trim line = line)
    (reads : read line = .ok call) :
    isName call.name.toList = true ∧
      ∀ parameter ∈ call.parameters.entries, '"' ∉ parameter.2.toList := by
  obtain ⟨written, ⟨named, -, valid⟩, -, name, meaning⟩ := exists_written_of_read trimmed reads
  constructor
  · rw [← name, String.toList_ofList]
    exact named
  · intro parameter member
    rw [← meaning] at member
    exact quote_notMem_of_mem_meaning valid member

theorem exists_render_eq_cons (call : Call) (named : isName call.name.toList = true) :
    ∃ c rest, call.render.toList = c :: rest ∧ isNameCharacter c = true := by
  obtain ⟨notEmpty, inName⟩ := Bool.and_eq_true_iff.mp named
  obtain ⟨c, rest, name⟩ := List.exists_cons_of_ne_nil (bne_iff_ne.mp notEmpty)
  refine ⟨c, _, by rw [toList_render, renderedCall, WrittenCall.text, name, List.cons_append], ?_⟩
  exact List.all_eq_true.mp inName c (by rw [name]; exact List.mem_cons_self)

theorem trim_render (call : Call) (named : isName call.name.toList = true) :
    trim call.render.toList = call.render.toList := by
  apply trim_eq_self
  · intro c first
    obtain ⟨start, rest, whole, inName⟩ := exists_render_eq_cons call named
    rw [whole] at first
    cases first
    exact isBlank_of_isNameCharacter inName
  · intro c last
    have close : call.render.toList.getLast? = some ')' := by
      rw [toList_render, WrittenCall.text, List.getLast?_eq_some_iff]
      exact ⟨(renderedCall call).name ++ ((renderedCall call).gap ++
        '(' :: (renderedCall call).list.text), by simp⟩
    rw [close] at last
    cases last
    decide

theorem read_render_iff (call : Call) (named : isName call.name.toList = true)
    (quoteless : ∀ parameter ∈ call.parameters.entries, '"' ∉ parameter.2.toList) :
    read call.render.toList = .ok call ↔
      ∀ parameter ∈ call.parameters.entries, IsKey parameter.1 := by
  constructor
  · intro reads parameter member
    obtain ⟨written, ⟨-, -, valid⟩, -, -, meaning⟩ :=
      exists_written_of_read (trim_render call named) reads
    rw [← meaning] at member
    exact isKey_of_mem_meaning valid member
  · intro keys
    have valid : (renderedCall call).IsValid :=
      ⟨named, fun _ member => absurd member List.not_mem_nil,
        isValid_renderedList call.parameters.distinct keys quoteless⟩
    obtain ⟨parameters, reads, entries⟩ := read_text valid
    have same : parameters = call.parameters :=
      OrderedMap.ext (entries.trans (meaning_renderedList keys))
    rw [toList_render, reads, same, renderedCall, String.ofList_toList]

end Workflow.Call
