/-!
# Maps in order of insertion

A map is a list of entries with distinct keys. Inserting under a present key keeps its place
and replaces its value; a new key goes to the end.

Main results:

- `keys_insert`, `keys_erase` : order of the keys after an operation.
- `get?_insert`, `get?_erase` : the values after an operation.
-/

namespace ScannerDiscovery

/-- Entries with distinct keys, in order of insertion. -/
structure OrderedMap (κ ν : Type) where
  entries : List (κ × ν)
  distinct : (entries.map Prod.fst).Nodup
  deriving DecidableEq

namespace OrderedMap

variable {κ ν : Type} [DecidableEq κ]

/-! ## Lists of entries -/

/-- Entries with a value put under a key. -/
def put (key : κ) (value : ν) : List (κ × ν) → List (κ × ν)
  | [] => [(key, value)]
  | (k, v) :: rest => if k = key then (k, value) :: rest else (k, v) :: put key value rest

/-- A key that is put anew comes last; one that was there keeps its place. -/
theorem keys_put (key : κ) (value : ν) (entries : List (κ × ν)) :
    (put key value entries).map Prod.fst =
      if key ∈ entries.map Prod.fst then entries.map Prod.fst
      else entries.map Prod.fst ++ [key] := by
  induction entries with
  | nil => simp [put]
  | cons head rest ih =>
    obtain ⟨k, v⟩ := head
    by_cases hk : k = key
    · simp [put, hk]
    · simp only [put, hk, if_false, List.map_cons, ih, List.mem_cons]
      by_cases hm : key ∈ rest.map Prod.fst
      · simp [hm]
      · simp [hm, Ne.symm hk]

/-- Keys stay distinct when an entry is put. -/
theorem nodup_put (key : κ) (value : ν) {entries : List (κ × ν)}
    (h : (entries.map Prod.fst).Nodup) : ((put key value entries).map Prod.fst).Nodup := by
  rw [keys_put]
  split
  · exact h
  · rename_i hk
    rw [List.nodup_append]
    refine ⟨h, by simp, ?_⟩
    rintro a ha b hb rfl
    exact hk (List.mem_singleton.1 hb ▸ ha)

/-- The entry that has been put is looked up under its key, and any other one as before. -/
theorem lookup_put (key k : κ) (value : ν) (entries : List (κ × ν)) :
    (put key value entries).lookup k = if k = key then some value else entries.lookup k := by
  induction entries with
  | nil =>
    by_cases h : k = key
    · simp [put, h]
    · simp [put, List.lookup_cons, h, beq_eq_false_iff_ne.2 h]
  | cons head rest ih =>
    obtain ⟨k', v⟩ := head
    unfold put
    split
    · rename_i hk
      subst hk
      by_cases h : k = k'
      · simp [h]
      · simp [List.lookup_cons, h, beq_eq_false_iff_ne.2 h]
    · rename_i hk
      by_cases h : k = k'
      · subst h
        simp [hk]
      · simp [List.lookup_cons, beq_eq_false_iff_ne.2 h, ih]

/-! ## Maps -/

/-- The map without entries. -/
def empty : OrderedMap κ ν := ⟨[], List.nodup_nil⟩

/-- The map with a value put under a key. -/
def insert (map : OrderedMap κ ν) (key : κ) (value : ν) : OrderedMap κ ν :=
  ⟨put key value map.entries, nodup_put key value map.distinct⟩

/-- The map without a key. -/
def erase (map : OrderedMap κ ν) (key : κ) : OrderedMap κ ν :=
  ⟨map.entries.filter (·.1 ≠ key),
    map.distinct.sublist ((List.filter_sublist).map Prod.fst)⟩

/-- The value under a key. -/
def get? (map : OrderedMap κ ν) (key : κ) : Option ν :=
  map.entries.lookup key

/-- The keys, in order of insertion. -/
def keys (map : OrderedMap κ ν) : List κ :=
  map.entries.map Prod.fst

/-- The values, in order of insertion of their keys. -/
def values (map : OrderedMap κ ν) : List ν :=
  map.entries.map Prod.snd

/-- The map that results from putting entries one after another. -/
def ofList (entries : List (κ × ν)) : OrderedMap κ ν :=
  entries.foldl (fun map entry => map.insert entry.1 entry.2) empty

/-! ## Operations through the views -/

/-- A present key keeps its place; a new key goes to the end. -/
theorem keys_insert (map : OrderedMap κ ν) (key : κ) (value : ν) :
    (map.insert key value).keys =
      if key ∈ map.keys then map.keys else map.keys ++ [key] :=
  keys_put key value map.entries

/-- An erased key is taken out of the keys, and the others keep their order. -/
theorem keys_erase (map : OrderedMap κ ν) (key : κ) :
    (map.erase key).keys = map.keys.filter (· ≠ key) := by
  simp [keys, erase, List.filter_map, Function.comp_def]

/-- Nothing is found in the empty map. -/
@[simp]
theorem get?_empty (key : κ) : (empty : OrderedMap κ ν).get? key = none := rfl

/-- The value inserted last is found under its key, and any other one as before. -/
theorem get?_insert (map : OrderedMap κ ν) (key k : κ) (value : ν) :
    (map.insert key value).get? k = if k = key then some value else map.get? k :=
  lookup_put key k value map.entries

/-- Nothing is found under an erased key, and any other one as before. -/
theorem get?_erase (map : OrderedMap κ ν) (key k : κ) :
    (map.erase key).get? k = if k = key then none else map.get? k := by
  simp only [get?, erase]
  generalize map.entries = entries
  induction entries with
  | nil => simp
  | cons head rest ih =>
    obtain ⟨k', v⟩ := head
    by_cases hk : k' = key
    · subst hk
      simp only [List.filter_cons, ne_eq, not_true_eq_false, decide_false, Bool.false_eq_true,
        if_false, ih]
      by_cases h : k = k'
      · simp [h]
      · simp [List.lookup_cons, h, beq_eq_false_iff_ne.2 h]
    · simp only [List.filter_cons, ne_eq, hk, not_false_eq_true, decide_true, if_true]
      by_cases h : k = k'
      · subst h
        simp [hk]
      · simp only [List.lookup_cons, beq_eq_false_iff_ne.2 h]
        exact ih

end OrderedMap

end ScannerDiscovery
