import ScannerDiscovery.Ip.Address
import ScannerDiscovery.Text.Quoted

/-!
# Sets of addresses in order of insertion

A device announces only a handful of addresses, so a set is a plain list that is searched from
the front.

Main results:

- `toList_add`, `mem_add` : elements and order after adding.
- `nodup_add`, `nodup_remove` : no two elements are equal.
-/

namespace ScannerDiscovery.Ip

/-- Addresses in order of insertion. -/
structure AddressSet where
  toList : List Address
  deriving DecidableEq

namespace AddressSet

/-- The set without elements. -/
def empty : AddressSet := ⟨[]⟩

/-- The number of elements. -/
def size (set : AddressSet) : Nat :=
  set.toList.length

/-- Whether an address is an element. -/
def contains (set : AddressSet) (x : Address) : Bool :=
  set.toList.contains x

/-- The set with an address that the caller knows to be absent. -/
def push (set : AddressSet) (x : Address) : AddressSet :=
  ⟨set.toList ++ [x]⟩

/-- The set with an address, and whether it is new. -/
def add (set : AddressSet) (x : Address) : AddressSet × Bool :=
  if set.contains x then (set, false) else (set.push x, true)

/-- The set without the first occurrence of an address. -/
def remove (set : AddressSet) (x : Address) : AddressSet :=
  ⟨set.toList.erase x⟩

/-- The elements as text, in order and quoted. -/
def text (set : AddressSet) : String :=
  "AddressSet([" ++ ", ".intercalate (set.toList.map fun x => Text.quoted x.text) ++ "])"

/-! ## Membership and order -/

/-- An address that is pushed comes last. -/
@[simp]
theorem toList_push (set : AddressSet) (x : Address) :
    (set.push x).toList = set.toList ++ [x] := rfl

/-- Removing an address takes it out of the list, and leaves the others in order. -/
@[simp]
theorem toList_remove (set : AddressSet) (x : Address) :
    (set.remove x).toList = set.toList.erase x := rfl

/-- What a set contains is what it lists. -/
@[simp]
theorem contains_iff (set : AddressSet) (x : Address) :
    set.contains x = true ↔ x ∈ set.toList := by
  simp [contains]

/-- Adding an address changes nothing if it is present and appends it otherwise. -/
theorem toList_add (set : AddressSet) (x : Address) :
    (set.add x).1.toList = if x ∈ set.toList then set.toList else set.toList ++ [x] := by
  unfold add
  split <;> simp_all

/-- An address added is an element, and the others are as before. -/
theorem mem_add (set : AddressSet) (x y : Address) :
    y ∈ (set.add x).1.toList ↔ y = x ∨ y ∈ set.toList := by
  rw [toList_add]
  split
  · constructor
    · exact Or.inr
    · rintro (rfl | h) <;> assumption
  · simp [or_comm]

/-- Adding keeps the elements distinct. -/
theorem nodup_add {set : AddressSet} (h : set.toList.Nodup) (x : Address) :
    (set.add x).1.toList.Nodup := by
  rw [toList_add]
  split
  · exact h
  · rename_i hx
    rw [List.nodup_append]
    refine ⟨h, by simp, ?_⟩
    rintro a ha b hb rfl
    exact hx (List.mem_singleton.1 hb ▸ ha)

/-- Removing keeps the elements distinct. -/
theorem nodup_remove {set : AddressSet} (h : set.toList.Nodup) (x : Address) :
    (set.remove x).toList.Nodup :=
  h.erase x

end AddressSet

end ScannerDiscovery.Ip
