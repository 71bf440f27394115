import Workflow.Proofs.Text.Trimming
import Workflow.Text.Items
import Mathlib.Data.List.Infix

/-!
# Laws of searching and of items

A pattern is found in a text exactly if it stands somewhere in it.  The items of a text are what
stands between its commas: joined items are found again if each of them is trimmed, is not empty
and holds no comma, and every item that is found is like that.  No other character gets lost than
commas and blanks.
-/

namespace Workflow.Text

variable {isSeparator : Char → Bool} {pattern text rest : List Char} {c : Char}

/-! ## Searching -/

/-- A pattern that starts a text and lacks one of its characters ends before that character. -/
theorem prefix_of_prefix_append_cons (starts : pattern <+: text ++ c :: rest)
    (lacks : c ∉ pattern) : pattern <+: text := by
  induction text generalizing pattern with
  | nil =>
      cases pattern with
      | nil => exact List.nil_prefix
      | cons first pattern =>
          obtain ⟨rfl, -⟩ := List.cons_prefix_cons.mp starts
          exact absurd List.mem_cons_self lacks
  | cons first text ih =>
      cases pattern with
      | nil => exact List.nil_prefix
      | cons own pattern =>
          rw [List.cons_append, List.cons_prefix_cons] at starts
          rw [List.mem_cons, not_or] at lacks
          exact List.cons_prefix_cons.mpr ⟨starts.1, ih starts.2 lacks.2⟩

theorem occurs_iff_infix : occurs pattern text = true ↔ pattern <:+: text := by
  rw [occurs]
  induction text with
  | nil =>
      rw [splitFirst, Option.isSome_map, isSome_stripStart_iff, List.prefix_nil, List.infix_nil]
  | cons c text ih =>
      rw [splitFirst, List.infix_cons_iff, ← ih, ← isSome_stripStart_iff]
      cases stripStart pattern (c :: text) with
      | some rest => simp
      | none => simp

theorem eq_append_of_stripStart (starts : stripStart pattern text = some rest) :
    text = pattern ++ rest := by
  induction pattern generalizing text with
  | nil =>
      cases starts
      rfl
  | cons p pattern ih =>
      cases text with
      | nil => cases starts
      | cons c text =>
          rw [stripStart] at starts
          split at starts
          · next same => rw [same, ih starts, List.cons_append]
          · cases starts

theorem eq_append_of_splitFirst {before after : List Char}
    (cut : splitFirst pattern text = some (before, after)) :
    text = before ++ (pattern ++ after) := by
  induction text generalizing before with
  | nil =>
      obtain ⟨rest, starts, same⟩ := Option.map_eq_some_iff.mp cut
      cases same
      rw [List.nil_append, ← eq_append_of_stripStart starts]
  | cons c text ih =>
      rw [splitFirst] at cut
      split at cut
      · next starts =>
          cases cut
          rw [List.nil_append, ← eq_append_of_stripStart starts]
      · obtain ⟨⟨front, rest⟩, later, same⟩ := Option.map_eq_some_iff.mp cut
        cases same
        rw [ih later, List.cons_append]

theorem splitFirst_eq_none (holds : c ∈ pattern) (lacks : c ∉ text) :
    splitFirst pattern text = none := by
  rw [← Option.not_isSome_iff_eq_none, ← occurs, occurs_iff_infix]
  intro inside
  exact lacks (inside.subset holds)

/-! ## Items -/

theorem pieces_eq_splitOnP (isSeparator : Char → Bool) (text : List Char) :
    pieces isSeparator text = text.splitOnP isSeparator := by
  induction text with
  | nil => rfl
  | cons c text ih =>
      rw [pieces, List.splitOnP_cons_eq_if_modifyHead, ih]
      split
      · rfl
      · cases parts : text.splitOnP isSeparator with
        | nil => exact absurd parts (List.splitOnP_ne_nil isSeparator text)
        | cons piece others => rfl

theorem pieces_ne_nil (isSeparator : Char → Bool) (text : List Char) :
    pieces isSeparator text ≠ [] := by
  rw [pieces_eq_splitOnP]
  exact List.splitOnP_ne_nil isSeparator text

theorem pieces_append_cons {separator : Char} (separates : isSeparator separator = true)
    (before after : List Char) :
    pieces isSeparator (before ++ separator :: after) =
      pieces isSeparator before ++ pieces isSeparator after := by
  rw [pieces_eq_splitOnP, pieces_eq_splitOnP, pieces_eq_splitOnP]
  exact List.splitOnP_append_cons before after separates

theorem isSeparator_of_mem_pieces {piece : List Char} (member : piece ∈ pieces isSeparator text)
    (inside : c ∈ piece) : isSeparator c = false := by
  induction text generalizing piece with
  | nil =>
      rw [pieces, List.mem_singleton] at member
      subst member
      cases inside
  | cons first text ih =>
      rw [pieces] at member
      split at member
      · rcases List.mem_cons.mp member with rfl | later
        · cases inside
        · exact ih later inside
      · next other =>
          split at member
          · next none => exact absurd none (pieces_ne_nil isSeparator text)
          · next piece others parts =>
              rcases List.mem_cons.mp member with rfl | later
              · rcases List.mem_cons.mp inside with rfl | inside
                · simpa using other
                · exact ih (parts ▸ List.mem_cons_self) inside
              · exact ih (parts ▸ List.mem_cons_of_mem _ later) inside

theorem isInfix_trim (text : List Char) : trim text <:+: text := by
  obtain ⟨before, after, -, -, whole⟩ := exists_blanks_around text
  exact ⟨before, after, by rw [List.append_assoc, ← whole]⟩

/-- A text that can be an item: there are no blanks around it, and it is neither empty nor does it
hold a comma. -/
structure IsItem (text : String) : Prop where
  nonempty : text ≠ ""
  trimmed : trimmed text = text
  noComma : ',' ∉ text.toList

theorem isItem_of_mem_items {text item : String} (member : item ∈ items text) : IsItem item := by
  obtain ⟨left, trims, found⟩ := List.mem_filterMap.mp member
  obtain ⟨piece, among, rfl⟩ := List.mem_map.mp trims
  split at found
  · cases found
  · next visible =>
      cases found
      refine ⟨?_, ?_, ?_⟩
      · intro empty
        apply visible
        rw [← String.toList_ofList (l := trim piece), empty]
        rfl
      · rw [Text.trimmed, String.toList_ofList, trim_trim]
      · rw [String.toList_ofList]
        intro inside
        have separates := isSeparator_of_mem_pieces among ((isInfix_trim piece).subset inside)
        cases separates

/-- Joined items are found again. -/
theorem items_intercalate {texts : List String} (each : ∀ text ∈ texts, IsItem text) :
    items (",".intercalate texts) = texts := by
  cases texts with
  | nil => rfl
  | cons first others =>
      have parts : commaPieces (",".intercalate (first :: others)).toList =
          (first :: others).map String.toList := by
        rw [commaPieces, pieces_eq_splitOnP, ← List.splitOn_eq_splitOnP,
          String.toList_intercalate]
        apply List.splitOn_intercalate
        · intro content member
          obtain ⟨text, among, rfl⟩ := List.mem_map.mp member
          exact (each text among).noComma
        · exact List.cons_ne_nil _ _
      rw [items, parts, List.map_map, List.filterMap_map]
      conv_rhs => rw [← List.filterMap_some (l := first :: others)]
      apply List.filterMap_congr
      intro text member
      have item := each text member
      have kept : trim text.toList = text.toList := by
        rw [← toList_trimmed, item.trimmed]
      have visible : text.toList ≠ [] := mt String.toList_eq_nil_iff.mp item.nonempty
      simp [kept, visible]

theorem mem_intercalate {separator text : String} {texts : List String} (member : text ∈ texts)
    (inside : c ∈ text.toList) : c ∈ (separator.intercalate texts).toList := by
  induction texts with
  | nil => cases member
  | cons first others ih =>
      cases others with
      | nil =>
          rw [List.mem_singleton.mp member] at inside
          rwa [String.intercalate_singleton]
      | cons second others =>
          rw [String.intercalate_cons_cons, String.toList_append, String.toList_append,
            List.mem_append, List.mem_append]
          rcases List.mem_cons.mp member with rfl | later
          · exact .inl (.inl inside)
          · exact .inr (ih later)

/-! ## Characters that are kept -/

section

variable {mark : Char}

theorem count_pieces (isSeparator : Char → Bool) (noSeparator : isSeparator mark = false)
    (text : List Char) : (pieces isSeparator text).flatten.count mark = text.count mark := by
  induction text with
  | nil => rfl
  | cons c text ih =>
      rw [pieces, List.count_cons, ← ih]
      split
      · next separates =>
          have other : ¬(c == mark) = true := by
            intro same
            rw [eq_of_beq same, noSeparator] at separates
            cases separates
          rw [if_neg other]
          rfl
      · split
        · next none => exact absurd none (pieces_ne_nil isSeparator text)
        · next piece others parts =>
            rw [parts, List.flatten_cons, List.flatten_cons, List.cons_append, List.count_cons]

theorem count_trim (visible : isBlank mark = false) (text : List Char) :
    (trim text).count mark = text.count mark := by
  obtain ⟨before, after, blankBefore, blankAfter, whole⟩ := exists_blanks_around text
  have outside {blanks : List Char} (blank : AllBlank blanks) : blanks.count mark = 0 := by
    rw [List.count_eq_zero]
    intro inside
    rw [blank mark inside] at visible
    cases visible
  conv_rhs => rw [whole]
  rw [List.count_append, List.count_append, outside blankBefore, outside blankAfter, Nat.zero_add,
    Nat.add_zero]

/-- All that splitting a text into items can lose are commas and blanks. -/
theorem count_items (noComma : mark ≠ ',') (visible : isBlank mark = false) (text : String) :
    ((items text).flatMap String.toList).count mark = text.toList.count mark := by
  have kept (parts : List (List Char)) :
      (((parts.map trim).filterMap fun item =>
        if item = [] then none else some (String.ofList item)).flatMap String.toList).count mark =
          parts.flatten.count mark := by
    induction parts with
    | nil => rfl
    | cons part parts ih =>
        rw [List.map_cons, List.filterMap_cons, List.flatten_cons, List.count_append, ← ih,
          ← count_trim visible part]
        by_cases blank : trim part = []
        · simp [blank]
        · simp [blank]
  rw [items, kept, commaPieces, count_pieces (· == ',') (beq_false_of_ne noComma)]

end

end Workflow.Text
