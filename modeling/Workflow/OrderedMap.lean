/-!
# Maps that keep the order of arrival

An ordered map is a list of entries with distinct keys.  Writing to a key that is present
replaces its value in place; a new key goes to the end; erasing keeps the order of the
rest.
-/

namespace Workflow

/-- Entries with distinct keys, in the order in which their keys arrived. -/
structure OrderedMap (α : Type) where
  entries : List (String × α)
  distinct : (entries.map Prod.fst).Nodup
  deriving Repr

namespace OrderedMap

variable {α : Type}

/-- The map without entries. -/
def empty : OrderedMap α := ⟨[], List.nodup_nil⟩

instance : Inhabited (OrderedMap α) := ⟨empty⟩

instance [DecidableEq α] : DecidableEq (OrderedMap α) := fun left right =>
  if same : left.entries = right.entries then
    isTrue (by cases left; cases right; cases same; rfl)
  else isFalse fun equal => same (equal ▸ rfl)

/-- Two maps with the same entries in the same order are equal. -/
@[ext] theorem ext {left right : OrderedMap α} (same : left.entries = right.entries) :
    left = right := by
  cases left; cases right; cases same; rfl

/-- The keys in order. -/
def keys (map : OrderedMap α) : List String := map.entries.map Prod.fst

def values (map : OrderedMap α) : List α := map.entries.map Prod.snd

def get? (map : OrderedMap α) (key : String) : Option α :=
  (map.entries.find? fun entry => entry.1 == key).map Prod.snd

def contains (map : OrderedMap α) (key : String) : Bool :=
  map.entries.any fun entry => entry.1 == key

def size (map : OrderedMap α) : Nat := map.entries.length

/-- The entries after writing `value` at `key`. -/
def write (key : String) (value : α) : List (String × α) → List (String × α)
  | [] => [(key, value)]
  | entry :: rest => if entry.1 = key then (key, value) :: rest else entry :: write key value rest

theorem keys_write (key : String) (value : α) (entries : List (String × α)) :
    (write key value entries).map Prod.fst =
      if key ∈ entries.map Prod.fst then entries.map Prod.fst
      else entries.map Prod.fst ++ [key] := by
  induction entries with
  | nil => simp [write]
  | cons entry rest ih =>
    by_cases same : entry.1 = key
    · simp [write, same]
    · have other : ¬ key = entry.1 := fun equal => same equal.symm
      simp only [write, if_neg same, List.map_cons, ih, List.mem_cons, other, false_or]
      split <;> rfl

/-- The map with `value` at `key`. -/
def insert (map : OrderedMap α) (key : String) (value : α) : OrderedMap α where
  entries := write key value map.entries
  distinct := by
    rw [keys_write]
    by_cases present : key ∈ map.entries.map Prod.fst
    · simpa [present] using map.distinct
    · simp only [if_neg present]
      refine List.nodup_append.mpr ⟨map.distinct, by simp, fun other member last here => ?_⟩
      rw [List.mem_singleton] at here
      subst here
      rintro rfl
      exact present member

/-- The map without an entry at `key`. -/
def erase (map : OrderedMap α) (key : String) : OrderedMap α where
  entries := map.entries.filter fun entry => entry.1 != key
  distinct := map.distinct.sublist (List.filter_sublist.map Prod.fst)

/-- The map that a list of pairs describes; a repeated key keeps its first place and takes
its last value. -/
def ofList (pairs : List (String × α)) : OrderedMap α :=
  pairs.foldl (fun map pair => map.insert pair.1 pair.2) empty

def mapValues {β : Type} (change : α → β) (map : OrderedMap α) : OrderedMap β where
  entries := map.entries.map fun entry => (entry.1, change entry.2)
  distinct := by simpa [List.map_map, Function.comp_def] using map.distinct

@[simp] theorem entries_empty : (empty : OrderedMap α).entries = [] := rfl

@[simp] theorem entries_mapValues {β : Type} (change : α → β) (map : OrderedMap α) :
    (map.mapValues change).entries = map.entries.map fun entry => (entry.1, change entry.2) := rfl

end OrderedMap

end Workflow
