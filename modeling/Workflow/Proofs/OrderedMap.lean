import Workflow.OrderedMap
import Mathlib.Data.List.Basic

/-!
# Laws of ordered maps

Writing to a key changes what is found there and nothing else, and a key that is new goes to the
end of the map.
-/

namespace Workflow.OrderedMap

variable {α β : Type}

theorem contains_iff_mem_keys {map : OrderedMap α} {key : String} :
    map.contains key = true ↔ key ∈ map.entries.map Prod.fst := by
  simp only [contains, List.any_eq_true, beq_iff_eq, List.mem_map]

theorem write_of_notMem {key : String} {value : α} {entries : List (String × α)}
    (absent : key ∉ entries.map Prod.fst) :
    write key value entries = entries ++ [(key, value)] := by
  induction entries with
  | nil => rfl
  | cons entry rest ih =>
      simp only [List.map_cons, List.mem_cons, not_or] at absent
      have other : entry.1 ≠ key := fun same => absent.1 same.symm
      rw [write, if_neg other, ih absent.2, List.cons_append]

theorem entries_insert_of_not_contains {map : OrderedMap α} {key : String}
    (absent : map.contains key = false) (value : α) :
    (map.insert key value).entries = map.entries ++ [(key, value)] := by
  apply write_of_notMem
  intro present
  rw [contains_iff_mem_keys.mpr present] at absent
  cases absent

theorem find?_write (key asked : String) (value : α) (entries : List (String × α)) :
    ((write key value entries).find? fun entry => entry.1 == asked) =
      if asked = key then some (key, value) else entries.find? fun entry => entry.1 == asked := by
  induction entries with
  | nil =>
      by_cases same : asked = key
      · simp [write, same]
      · have other : key ≠ asked := fun equal => same equal.symm
        simp [write, same, other]
  | cons entry rest ih =>
      by_cases here : entry.1 = key
      · by_cases same : asked = key
        · simp [write, here, same]
        · have other : key ≠ asked := fun equal => same equal.symm
          simp [write, here, same, other]
      · rw [write, if_neg here, List.find?_cons, List.find?_cons, ih]
        by_cases same : asked = key
        · have other : (entry.1 == asked) = false := by simpa [same] using here
          rw [other, if_pos same]
        · rw [if_neg same, if_neg same]

theorem get?_insert (map : OrderedMap α) (key asked : String) (value : α) :
    (map.insert key value).get? asked = if asked = key then some value else map.get? asked := by
  rw [get?, insert, find?_write]
  split <;> rfl

theorem get?_mapValues (change : α → β) (map : OrderedMap α) (key : String) :
    (map.mapValues change).get? key = (map.get? key).map change := by
  rw [get?, get?, entries_mapValues, List.find?_map, Option.map_map, Option.map_map]
  rfl

theorem keys_mapValues (change : α → β) (map : OrderedMap α) :
    (map.mapValues change).keys = map.keys := by
  rw [keys, keys, entries_mapValues, List.map_map]
  rfl

theorem get?_eq_some_iff_mem {map : OrderedMap α} {key : String} {value : α} :
    map.get? key = some value ↔ (key, value) ∈ map.entries := by
  obtain ⟨entries, distinct⟩ := map
  simp only [get?]
  induction entries with
  | nil => simp
  | cons entry rest ih =>
      simp only [List.map_cons, List.nodup_cons] at distinct
      by_cases here : entry.1 = key
      · have elsewhere : ∀ found : α, (key, found) ∉ rest := by
          intro found member
          apply distinct.1
          rw [here]
          exact List.mem_map_of_mem (f := Prod.fst) member
        simp [here, elsewhere, Prod.ext_iff, eq_comm]
      · have other : (key, value) ≠ entry := fun same => here (by rw [← same])
        rw [List.find?_cons_of_neg (by simpa using here), ih distinct.2]
        simp [other]

theorem contains_iff_exists_get? {map : OrderedMap α} {key : String} :
    map.contains key = true ↔ ∃ value, map.get? key = some value := by
  simp only [contains_iff_mem_keys, List.mem_map, get?_eq_some_iff_mem]
  constructor
  · rintro ⟨⟨_, value⟩, member, rfl⟩
    exact ⟨value, member⟩
  · rintro ⟨value, member⟩
    exact ⟨(key, value), member, rfl⟩

theorem get?_eq_none_iff {map : OrderedMap α} {key : String} :
    map.get? key = none ↔ map.contains key = false := by
  rw [← Bool.not_eq_true, contains_iff_exists_get?, Option.eq_none_iff_forall_ne_some, not_exists]

/-- What is stored under other keys stays in its order. -/
theorem filter_write (key : String) (value : α) (entries : List (String × α)) :
    (write key value entries).filter (·.1 != key) = entries.filter (·.1 != key) := by
  induction entries with
  | nil => simp [write]
  | cons entry rest ih =>
      rw [write]
      split
      · next here => simp [here]
      · rw [List.filter_cons, List.filter_cons, ih]

theorem mem_write {key : String} {value : α} {entry : String × α} {entries : List (String × α)}
    (member : entry ∈ write key value entries) : entry = (key, value) ∨ entry ∈ entries := by
  induction entries with
  | nil => exact .inl (List.mem_singleton.mp member)
  | cons first rest ih =>
      rw [write] at member
      split at member
      · rcases List.mem_cons.mp member with written | kept
        · exact .inl written
        · exact .inr (List.mem_cons_of_mem _ kept)
      · rcases List.mem_cons.mp member with rfl | kept
        · exact .inr List.mem_cons_self
        · exact (ih kept).imp_right (List.mem_cons_of_mem _)

theorem mem_of_mem_foldl_insert {entry : String × α} {pairs : List (String × α)}
    {map : OrderedMap α} (member : entry ∈
      (pairs.foldl (fun map pair => map.insert pair.1 pair.2) map).entries) :
    entry ∈ map.entries ∨ entry ∈ pairs := by
  induction pairs generalizing map with
  | nil => exact .inl member
  | cons pair rest ih =>
      rcases ih member with inserted | later
      · rcases mem_write inserted with rfl | kept
        · exact .inr List.mem_cons_self
        · exact .inl kept
      · exact .inr (List.mem_cons_of_mem _ later)

/-- The map of a list of pairs has no other entries. -/
theorem mem_of_mem_ofList {entry : String × α} {pairs : List (String × α)}
    (member : entry ∈ (ofList pairs).entries) : entry ∈ pairs :=
  (mem_of_mem_foldl_insert member).resolve_left List.not_mem_nil

/-! ## Erasing -/

theorem contains_erase_iff {map : OrderedMap α} {key other : String} :
    (map.erase key).contains other = true ↔ map.contains other = true ∧ other ≠ key := by
  simp only [contains, erase, List.any_eq_true, List.mem_filter, beq_iff_eq, bne_iff_ne]
  constructor
  · rintro ⟨entry, ⟨member, differs⟩, rfl⟩
    exact ⟨⟨entry, member, rfl⟩, differs⟩
  · rintro ⟨⟨entry, member, rfl⟩, differs⟩
    exact ⟨entry, ⟨member, differs⟩, rfl⟩

/-- The map without the entries at some keys. -/
def without (map : OrderedMap α) (keys : List String) : OrderedMap α where
  entries := map.entries.filter fun entry => !keys.contains entry.1
  distinct := map.distinct.sublist (List.filter_sublist.map Prod.fst)

theorem without_nil (map : OrderedMap α) : map.without [] = map := by
  apply ext
  simp [without]

theorem without_erase (map : OrderedMap α) (key : String) (keys : List String) :
    (map.erase key).without keys = map.without (key :: keys) := by
  apply ext
  simp only [without, erase, List.filter_filter]
  apply List.filter_congr
  intro entry _
  rw [List.contains_cons, Bool.not_or, Bool.and_comm]
  rfl

theorem keys_without (map : OrderedMap α) (keys : List String) :
    (map.without keys).keys = map.keys.filter fun key => !keys.contains key := by
  rw [OrderedMap.keys, OrderedMap.keys, List.filter_map]
  rfl

theorem contains_without_iff {map : OrderedMap α} {key : String} {keys : List String} :
    (map.without keys).contains key = true ↔ map.contains key = true ∧ key ∉ keys := by
  rw [contains_iff_mem_keys, contains_iff_mem_keys, ← OrderedMap.keys, ← OrderedMap.keys,
    keys_without, List.mem_filter]
  simp

theorem without_eq_empty_iff {map : OrderedMap α} {keys : List String} :
    map.without keys = empty ↔ ∀ key ∈ map.keys, key ∈ keys := by
  constructor
  · intro none key member
    by_contra absent
    have stays := contains_without_iff.mpr ⟨contains_iff_mem_keys.mpr member, absent⟩
    rw [none] at stays
    cases stays
  · intro all
    apply ext
    rw [without, entries_empty, List.filter_eq_nil_iff]
    intro entry member
    simpa using all entry.1 (List.mem_map_of_mem member)

end Workflow.OrderedMap
