import Mathlib.Data.List.Induction
import Mathlib.Data.List.Nodup
import ScannerDiscovery.OrderedMap

/-!
# Keys of ordered maps

Main definition:

- `Collects` : the map of entries that have been put one after another.

Main results:

- `mem_keys_iff`, `get?_eq_some_iff` : the keys and entries of a map through its values.
- `erase_comm`, `entries_erase_of_cons` : the entries left without some keys.
- `countP_keys_insert`, `countP_keys_erase` : how many keys have a property after an operation.
- `collects_ofList`, `ofList_entries` : the map that results from entries.
-/

namespace ScannerDiscovery.OrderedMap

variable {κ ν : Type} [DecidableEq κ]

/-- The keys are those that have a value. -/
theorem mem_keys_iff {map : OrderedMap κ ν} {key : κ} :
    key ∈ map.keys ↔ (map.get? key).isSome = true := by
  rw [get?, List.lookup_isSome_iff, keys, List.mem_map]
  constructor
  · rintro ⟨entry, hentry, rfl⟩
    exact ⟨entry, hentry, beq_self_eq_true _⟩
  · rintro ⟨entry, hentry, hkey⟩
    exact ⟨entry, hentry, (beq_iff_eq.1 hkey).symm⟩

theorem notMem_keys_iff {map : OrderedMap κ ν} {key : κ} :
    key ∉ map.keys ↔ map.get? key = none := by
  rw [mem_keys_iff, Bool.not_eq_true, Option.isSome_eq_false_iff, Option.isNone_iff_eq_none]

/-- The value under a key is that of its entry. -/
theorem get?_eq_some_iff {map : OrderedMap κ ν} {key : κ} {value : ν} :
    map.get? key = some value ↔ (key, value) ∈ map.entries := by
  rw [get?, List.lookup_eq_some_iff]
  constructor
  · rintro ⟨before, after, hentries, -⟩
    simp [hentries]
  · intro hmem
    obtain ⟨before, after, hentries⟩ := List.append_of_mem hmem
    refine ⟨before, after, hentries, ?_⟩
    intro entry hentry
    have hdistinct := map.distinct
    rw [hentries, List.map_append, List.map_cons, List.nodup_middle, List.nodup_cons] at hdistinct
    have hne : key ≠ entry.1 := by
      rintro rfl
      exact hdistinct.1 (List.mem_append_left _ (List.mem_map.2 ⟨entry, hentry, rfl⟩))
    simpa using hne

/-- A map without values is empty. -/
theorem eq_empty_of_get? {map : OrderedMap κ ν} (h : ∀ key, map.get? key = none) :
    map = empty := by
  obtain ⟨entries, distinct⟩ := map
  cases entries with
  | nil => rfl
  | cons entry rest => simpa [get?, List.lookup_cons] using h entry.1

/-- Erasing a key that is absent changes nothing. -/
theorem erase_of_get?_eq_none {map : OrderedMap κ ν} {key : κ} (absent : map.get? key = none) :
    map.erase key = map := by
  obtain ⟨entries, distinct⟩ := map
  simp only [erase, mk.injEq, List.filter_eq_self]
  intro entry hentry
  have hne : entry.1 ≠ key := by
    rintro rfl
    have present := get?_eq_some_iff.2 (show (entry.1, entry.2) ∈ (⟨entries, distinct⟩ :
      OrderedMap κ ν).entries from hentry)
    rw [absent] at present
    cases present
  simpa using hne

/-- Keys can be erased in any order. -/
theorem erase_comm (map : OrderedMap κ ν) (key key' : κ) :
    (map.erase key).erase key' = (map.erase key').erase key := by
  simp only [erase, mk.injEq, List.filter_filter]
  congr 1
  funext entry
  exact Bool.and_comm _ _

/-- Without the key of the first entry the other entries are left. -/
theorem entries_erase_of_cons {map : OrderedMap κ ν} {key : κ} {value : ν} {rest : List (κ × ν)}
    (h : map.entries = (key, value) :: rest) : (map.erase key).entries = rest := by
  have hdistinct := map.distinct
  rw [h, List.map_cons, List.nodup_cons] at hdistinct
  change map.entries.filter (·.1 ≠ key) = rest
  rw [h, List.filter_cons_of_neg (by simp), List.filter_eq_self]
  intro entry hentry
  have hne : entry.1 ≠ key := by
    rintro rfl
    exact hdistinct.1 (List.mem_map.2 ⟨entry, hentry, rfl⟩)
  simpa using hne

/-- A new key adds to the keys with a property if it has it. -/
theorem countP_keys_insert {map : OrderedMap κ ν} {key : κ} (new : map.get? key = none)
    (value : ν) (P : κ → Bool) :
    (map.insert key value).keys.countP P = map.keys.countP P + if P key then 1 else 0 := by
  rw [keys_insert, if_neg (notMem_keys_iff.2 new), List.countP_append]
  simp [List.countP_cons]

/-- A present key leaves the keys with a property if it has it. -/
theorem countP_keys_erase {map : OrderedMap κ ν} {key : κ} {value : ν}
    (current : map.get? key = some value) (P : κ → Bool) :
    map.keys.countP P = (map.erase key).keys.countP P + if P key then 1 else 0 := by
  have hmem : key ∈ map.keys := mem_keys_iff.2 (by simp [current])
  have hperm := List.perm_cons_erase hmem
  have hnodup : map.keys.Nodup := map.distinct
  rw [hperm.countP_eq, List.countP_cons, keys_erase, hnodup.erase_eq_filter]
  congr 3
  funext k
  rw [Bool.eq_iff_iff]
  simp

/-! ## Entries one after another -/

/-- Whether a map is that of entries put one after another: each key has the place of its first
entry and the value of its last one. -/
structure Collects (entries : List (κ × ν)) (map : OrderedMap κ ν) : Prop where
  distinct : map.keys.Nodup
  mem_keys : ∀ key, key ∈ map.keys ↔ key ∈ entries.map Prod.fst
  inOrder : map.keys.Pairwise fun key key' =>
    (entries.map Prod.fst).idxOf key < (entries.map Prod.fst).idxOf key'
  latest : ∀ key value, map.get? key = some value ↔
    ∃ before after, entries = before ++ (key, value) :: after ∧ key ∉ after.map Prod.fst

theorem ofList_concat (entries : List (κ × ν)) (entry : κ × ν) :
    ofList (entries ++ [entry]) = (ofList entries).insert entry.1 entry.2 := by
  rw [ofList, List.foldl_append]
  rfl

theorem mem_keys_ofList (entries : List (κ × ν)) (key : κ) :
    key ∈ (ofList entries).keys ↔ key ∈ entries.map Prod.fst := by
  induction entries using List.reverseRecOn with
  | nil => rfl
  | append_singleton entries entry ih =>
      rw [ofList_concat, keys_insert, List.map_append, List.mem_append, ← ih]
      split
      · next present =>
          refine ⟨.inl, fun mem => mem.elim id fun last => ?_⟩
          rwa [List.mem_singleton.1 last]
      · exact List.mem_append

/-- The keys stand in the order of their first entries. -/
theorem pairwise_keys_ofList (entries : List (κ × ν)) :
    (ofList entries).keys.Pairwise fun key key' =>
      (entries.map Prod.fst).idxOf key < (entries.map Prod.fst).idxOf key' := by
  induction entries using List.reverseRecOn with
  | nil => exact .nil
  | append_singleton entries entry ih =>
      rw [ofList_concat, keys_insert, List.map_append]
      -- a further entry moves none of the keys that have come before
      have kept : (ofList entries).keys.Pairwise fun key key' =>
          (entries.map Prod.fst ++ [entry].map Prod.fst).idxOf key <
            (entries.map Prod.fst ++ [entry].map Prod.fst).idxOf key' := by
        refine ih.imp_of_mem fun {key key'} hkey hkey' earlier => ?_
        rwa [List.idxOf_append_of_mem ((mem_keys_ofList entries key).1 hkey),
          List.idxOf_append_of_mem ((mem_keys_ofList entries key').1 hkey')]
      split
      · exact kept
      · next new =>
          refine List.pairwise_append.2 ⟨kept, List.pairwise_singleton .., ?_⟩
          intro key hkey key' hkey'
          obtain rfl := List.mem_singleton.1 hkey'
          rw [mem_keys_ofList] at hkey new
          rw [List.idxOf_append_of_mem hkey, List.idxOf_append_of_notMem new]
          exact Nat.lt_add_right _ (List.idxOf_lt_length_of_mem hkey)

/-- Under each key stands the value of its last entry. -/
theorem get?_ofList (entries : List (κ × ν)) (key : κ) :
    (ofList entries).get? key = entries.reverse.lookup key := by
  induction entries using List.reverseRecOn with
  | nil => rfl
  | append_singleton entries entry ih =>
      rw [ofList_concat, get?_insert, List.reverse_concat, List.lookup_cons, ih]
      by_cases same : key = entry.1
      · simp [same]
      · simp [same, beq_eq_false_iff_ne.2 same]

/-- A map of entries is that of putting them one after another. -/
theorem collects_ofList (entries : List (κ × ν)) : Collects entries (ofList entries) where
  distinct := (ofList entries).distinct
  mem_keys := mem_keys_ofList entries
  inOrder := pairwise_keys_ofList entries
  latest key value := by
    rw [get?_ofList, List.lookup_eq_some_iff]
    constructor
    · rintro ⟨after, before, hentries, others⟩
      refine ⟨before.reverse, after.reverse, ?_, ?_⟩
      · rw [← List.reverse_reverse entries, hentries]
        simp
      · intro mem
        obtain ⟨entry, hentry, rfl⟩ := List.mem_map.1 mem
        simpa using others entry (List.mem_reverse.1 hentry)
    · rintro ⟨before, after, rfl, others⟩
      refine ⟨after.reverse, before.reverse, by simp, fun entry hentry => ?_⟩
      have hne : key ≠ entry.1 := by
        rintro rfl
        exact others (List.mem_map.2 ⟨entry, List.mem_reverse.1 hentry, rfl⟩)
      simpa using hne

theorem put_of_notMem {key : κ} {entries : List (κ × ν)} (new : key ∉ entries.map Prod.fst)
    (value : ν) : put key value entries = entries ++ [(key, value)] := by
  induction entries with
  | nil => rfl
  | cons entry rest ih =>
      rw [List.map_cons, List.mem_cons, not_or] at new
      rw [put, if_neg (Ne.symm new.1), ih new.2, List.cons_append]

/-- Entries with distinct keys are those of their map. -/
theorem entries_ofList {entries : List (κ × ν)} (distinct : (entries.map Prod.fst).Nodup) :
    (ofList entries).entries = entries := by
  induction entries using List.reverseRecOn with
  | nil => rfl
  | append_singleton entries entry ih =>
      rw [List.map_append, List.nodup_append] at distinct
      obtain ⟨distinct, -, apart⟩ := distinct
      have new : entry.1 ∉ entries.map Prod.fst := fun mem =>
        apart _ mem _ (List.mem_singleton.2 rfl) rfl
      rw [ofList_concat, insert]
      simp only [ih distinct, put_of_notMem new]

theorem ofList_entries (map : OrderedMap κ ν) : ofList map.entries = map := by
  have same := entries_ofList map.distinct
  generalize ofList map.entries = other at same
  obtain ⟨entries, distinct⟩ := map
  obtain ⟨others, distinct'⟩ := other
  obtain rfl : others = entries := same
  rfl

end ScannerDiscovery.OrderedMap
