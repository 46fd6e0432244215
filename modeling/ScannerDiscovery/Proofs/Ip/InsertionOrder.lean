import Mathlib.Data.List.Dedup
import Mathlib.Data.List.Perm.Basic
import Mathlib.Data.Nat.Digits.Defs
import Mathlib.Tactic.Tauto
import ScannerDiscovery.Ip.AddressSet

/-!
# Sets of addresses keep the order of insertion

Whatever calls are made on a set of addresses, as long as none is pushed while it is present, the
elements are the addresses that have been added and not been removed since.  Each of them comes
once, and they are listed in the order in which they were last inserted.  Addresses are compared by
family, value and scope.

Main definitions:

- `V4.value`, `V6.value`, `Address.Same` : what addresses are compared by.
- `AddressSet.Call`, `AddressSet.perform`, `AddressSet.run` : calls on a set, and what they lead to.
- `AddressSet.StillAdded` : an address has been added and not been removed since.
- `AddressSet.insertions` : the addresses that calls insert, as often as they take effect.
- `AddressSet.ListsLatest` : the elements stand where they were last inserted.
- `AddressSet.InInsertionOrder` : what holds after any calls.

Main results:

- `V4.value_injective`, `V6.value_injective`, `Address.same_iff` : addresses are equal exactly if
  family, value and scope are.
- `mem_perform`, `mem_run` : the elements after a call, and after any calls.
- `ListsLatest.perform`, `ListsLatest.run` : every call leaves the elements where they belong.
- `keeps_insertion_order` : the laws of the set.
-/

namespace ScannerDiscovery.Ip

/-! ## What addresses are compared by -/

/-- The number that an IPv4 address is, its octets being digits. -/
def V4.value (x : V4) : Nat :=
  Nat.ofDigits (2 ^ 8) ([x.d, x.c, x.b, x.a].map UInt8.toNat)

/-- The number that an IPv6 address is, its groups being digits. -/
def V6.value (x : V6) : Nat :=
  Nat.ofDigits (2 ^ 16) (x.groups.reverse.map UInt16.toNat)

/-- Digits are determined by how many they are and the number that they denote. -/
theorem eq_of_ofDigits_map {α : Type} {digit : α → Nat} (distinct : digit.Injective) {b : Nat}
    (hb : 1 < b) (small : ∀ a, digit a < b) {l m : List α} (length : l.length = m.length)
    (same : Nat.ofDigits b (l.map digit) = Nat.ofDigits b (m.map digit)) : l = m := by
  have digits : l.map digit = m.map digit := by
    refine Nat.ofDigits_inj_of_len_eq hb (by simpa using length) ?_ ?_ same
    · simpa using fun a _ => small a
    · simpa using fun a _ => small a
  exact List.map_injective_iff.2 distinct digits

theorem V4.value_injective : V4.value.Injective := by
  intro x y same
  have octets : [x.d, x.c, x.b, x.a] = [y.d, y.c, y.b, y.a] :=
    eq_of_ofDigits_map (fun _ _ => UInt8.toNat_inj.1) (by decide) UInt8.toNat_lt rfl same
  cases x
  cases y
  simp_all

theorem V6.value_injective : V6.value.Injective := by
  intro x y same
  have length : x.groups.reverse.length = y.groups.reverse.length := by
    simp [x.length_eq, y.length_eq]
  have groups : x.groups.reverse = y.groups.reverse :=
    eq_of_ofDigits_map (fun _ _ => UInt16.toNat_inj.1) (by decide) UInt16.toNat_lt length same
  cases x
  cases y
  simpa using groups

namespace Address

/-- The number that an address is. -/
def value : Address → Nat
  | v4 x => x.value
  | v6 x _ => x.value

/-- The scope of an address. IPv4 addresses have none. -/
def scope? : Address → Option String
  | v4 _ => none
  | v6 _ scope => scope

/-- Whether two addresses agree in family, value and scope. -/
structure Same (x y : Address) : Prop where
  family : x.family = y.family
  value : x.value = y.value
  scope : x.scope? = y.scope?

/-- Addresses are equal exactly if family, value and scope are. -/
theorem same_iff {x y : Address} : x.Same y ↔ x = y := by
  constructor
  · rintro ⟨family, value, scope⟩
    cases x with
    | v4 x =>
        cases y with
        | v4 y => rw [V4.value_injective value]
        | v6 y _ => cases family
    | v6 x _ =>
        cases y with
        | v4 y => cases family
        | v6 y _ => exact congr (congrArg v6 (V6.value_injective value)) scope
  · rintro rfl
    exact ⟨rfl, rfl, rfl⟩

end Address

namespace AddressSet

/-! ## Calls -/

/-- A call on a set. -/
inductive Call
  | add (x : Address)
  | push (x : Address)
  | remove (x : Address)
  | contains (x : Address)
  | iterate

/-- What a call answers. -/
inductive Answer
  | nothing
  | flag (holds : Bool)
  | elements (xs : List Address)

/-- What a call leads to, and its answer. Iterating gives the elements at the time of the call,
whatever happens to the set meanwhile. -/
def perform (set : AddressSet) : Call → AddressSet × Answer
  | .add x => (set.add x).map id .flag
  | .push x => (set.push x, .nothing)
  | .remove x => (set.remove x, .nothing)
  | .contains x => (set, .flag (set.contains x))
  | .iterate => (set, .elements set.toList)

/-- What calls lead to, one after another. -/
def run (set : AddressSet) (calls : List Call) : AddressSet :=
  calls.foldl (fun set call => (set.perform call).1) set

@[simp]
theorem run_nil (set : AddressSet) : set.run [] = set := rfl

@[simp]
theorem run_cons (set : AddressSet) (call : Call) (rest : List Call) :
    set.run (call :: rest) = (set.perform call).1.run rest := rfl

/-- Whether a call may be made: an address is pushed only while it is absent. -/
def Allows (set : AddressSet) : Call → Prop
  | .push x => set.contains x = false
  | _ => True

/-- Whether calls may be made one after another. -/
def AllowsAll (set : AddressSet) : List Call → Prop
  | [] => True
  | call :: rest => set.Allows call ∧ (set.perform call).1.AllowsAll rest

/-- Whether a call adds an address, present or not. -/
def Call.Adds (call : Call) (x : Address) : Prop :=
  call = .add x ∨ call = .push x

/-- Whether an address has been added by calls and not been removed since. -/
def StillAdded (calls : List Call) (x : Address) : Prop :=
  ∃ earlier call later, calls = earlier ++ call :: later ∧ call.Adds x ∧ .remove x ∉ later

/-- The address that a call inserts. Adding one takes effect only if it is new. -/
def inserted? (set : AddressSet) : Call → Option Address
  | .add x => if (set.add x).2 then some x else none
  | .push x => some x
  | _ => none

/-- The addresses that calls insert, in order and as often as they do. -/
def insertions (set : AddressSet) : List Call → List Address
  | [] => []
  | call :: rest => (set.inserted? call).toList ++ (set.perform call).1.insertions rest

variable {set : AddressSet} {x : Address} {call : Call} {calls : List Call} {past : List Address}

/-- What has been added last of all is still there, and what is removed is not. -/
theorem stillAdded_cons : StillAdded (call :: calls) x ↔
    StillAdded calls x ∨ call.Adds x ∧ .remove x ∉ calls := by
  constructor
  · rintro ⟨earlier, other, later, split, adds, kept⟩
    cases earlier with
    | nil =>
        obtain ⟨rfl, rfl⟩ := List.cons.inj split
        exact .inr ⟨adds, kept⟩
    | cons first earlier =>
        obtain ⟨-, rfl⟩ := List.cons.inj split
        exact .inl ⟨earlier, other, later, rfl, adds, kept⟩
  · rintro (⟨earlier, other, later, rfl, adds, kept⟩ | ⟨adds, kept⟩)
    · exact ⟨call :: earlier, other, later, rfl, adds, kept⟩
    · exact ⟨[], call, calls, rfl, adds, kept⟩

theorem not_stillAdded_nil : ¬StillAdded [] x := by
  rintro ⟨earlier, call, later, split, -⟩
  simp at split

/-! ## Elements after calls -/

theorem contains_eq_false_iff : set.contains x = false ↔ x ∉ set.toList := by
  rw [← Bool.not_eq_true, contains_iff]

/-- An address that is present is not added again. -/
theorem add_of_present (present : set.contains x = true) : set.add x = (set, false) := by
  rw [add, if_pos present]

/-- An address that is absent is added at the end. -/
theorem add_of_absent (absent : set.contains x = false) : set.add x = (set.push x, true) := by
  rw [add, absent, if_neg Bool.false_ne_true]

/-- Adding an address says that it is new exactly if the set changes by it. -/
theorem add_true_iff (set : AddressSet) (x : Address) :
    (set.add x).2 = true ↔ (set.add x).1 ≠ set := by
  have longer : set.push x ≠ set := fun same => by
    simpa using congrArg (fun s => s.toList.length) same
  cases present : set.contains x with
  | true => simp [add_of_present present]
  | false => simp [add_of_absent present, longer]

/-- An address that is absent is not removed. -/
theorem remove_of_absent (absent : set.contains x = false) : set.remove x = set := by
  rw [remove, List.erase_of_not_mem (contains_eq_false_iff.1 absent)]

/-- An element after a call has been added by it or was there before and has not been removed. -/
theorem mem_perform (nodup : set.toList.Nodup) (call : Call) (x : Address) :
    x ∈ (set.perform call).1.toList ↔ call.Adds x ∨ x ∈ set.toList ∧ call ≠ .remove x := by
  cases call with
  | add y => simp [perform, Call.Adds, mem_add, eq_comm]
  | push y => simp [perform, Call.Adds, eq_comm, or_comm]
  -- Only one occurrence is erased, so nothing would be said of the address if it came twice.
  | remove y => simp [perform, Call.Adds, nodup.mem_erase_iff, and_comm, eq_comm]
  | contains y => simp [perform, Call.Adds]
  | iterate => simp [perform, Call.Adds]

/-! ## Order of the elements -/

/-- The last occurrence of an element is kept, and a new one is the last. -/
theorem dedup_concat {α : Type} [DecidableEq α] (l : List α) (a : α) :
    (l ++ [a]).dedup = l.dedup.filter (· != a) ++ [a] := by
  induction l with
  | nil => rfl
  | cons b l ih =>
      rw [List.cons_append]
      by_cases later : b ∈ l
      · rw [List.dedup_cons_of_mem (List.mem_append_left _ later), ih,
          List.dedup_cons_of_mem later]
      · rw [List.dedup_cons_of_notMem later]
        by_cases same : b = a
        · rw [List.dedup_cons_of_mem (by simp [same]), ih,
            List.filter_cons_of_neg (by simp [same])]
        · rw [List.dedup_cons_of_notMem (by simp [later, same]), ih,
            List.filter_cons_of_pos (by simp [same]), List.cons_append]

/-- Whether the elements are the addresses of past insertions that are still there, each of them
where it was last inserted. That no two are equal is part of it. -/
def ListsLatest (set : AddressSet) (past : List Address) : Prop :=
  set.toList = past.dedup.filter set.contains

theorem listsLatest_empty : ListsLatest .empty [] := rfl

namespace ListsLatest

/-- A list of latest insertions has no repetitions. -/
theorem nodup (latest : ListsLatest set past) : set.toList.Nodup := by
  have distinct := past.nodup_dedup.filter set.contains
  rwa [← latest] at distinct

/-- An address that is absent is inserted at the end. -/
theorem push (latest : ListsLatest set past) (absent : set.contains x = false) :
    ListsLatest (set.push x) (past ++ [x]) := by
  -- An earlier insertion of the address is dropped; it was not listed before either.
  have others : ∀ y, ((set.push x).contains y && y != x) = set.contains y := by
    intro y
    by_cases same : y = x
    · simp [same, absent]
    · simp [same, contains]
  have last : [x].filter (set.push x).contains = [x] := by
    simp [contains]
  calc (set.push x).toList
      = past.dedup.filter set.contains ++ [x] := congrArg (· ++ [x]) latest
    _ = (past.dedup.filter (· != x)).filter (set.push x).contains ++ [x] := by
        simp only [List.filter_filter, others]
    _ = (past ++ [x]).dedup.filter (set.push x).contains := by
        rw [dedup_concat, List.filter_append, last]

/-- The elements that stay when an address is removed keep their places. -/
theorem remove (latest : ListsLatest set past) (x : Address) :
    ListsLatest (set.remove x) past := by
  have others : ∀ y, (y != x && set.contains y) = (set.remove x).contains y := by
    intro y
    rw [Bool.eq_iff_iff]
    simp [latest.nodup.mem_erase_iff]
  calc (set.remove x).toList
      = set.toList.filter (· != x) := latest.nodup.erase_eq_filter x
    _ = (past.dedup.filter set.contains).filter (· != x) := congrArg (List.filter _) latest
    _ = past.dedup.filter (set.remove x).contains := by
        simp only [List.filter_filter, others]

/-- Every call that may be made leaves the elements where they were last inserted. -/
theorem perform (latest : ListsLatest set past) (allowed : set.Allows call) :
    ListsLatest (set.perform call).1 (past ++ (set.inserted? call).toList) := by
  have unchanged : ListsLatest set (past ++ []) := by rwa [List.append_nil]
  cases call with
  | add y =>
      rw [AddressSet.perform, inserted?]
      cases present : set.contains y with
      | true =>
          rw [add_of_present present]
          exact unchanged
      | false =>
          rw [add_of_absent present]
          exact latest.push present
  | push y => exact latest.push allowed
  | remove y =>
      have kept := latest.remove y
      rwa [← List.append_nil past] at kept
  | contains y => exact unchanged
  | iterate => exact unchanged

/-- So do calls, one after another. -/
theorem run (latest : ListsLatest set past) (allowed : set.AllowsAll calls) :
    ListsLatest (set.run calls) (past ++ set.insertions calls) := by
  induction calls generalizing set past with
  | nil =>
      rw [insertions, List.append_nil]
      exact latest
  | cons call rest ih =>
      have next := ih (latest.perform allowed.1) allowed.2
      rw [List.append_assoc] at next
      exact next

/-- An element after calls has been added by them and not removed since, or was there before and
has not been removed at all. -/
theorem mem_run (latest : ListsLatest set past) (allowed : set.AllowsAll calls) (x : Address) :
    x ∈ (set.run calls).toList ↔ StillAdded calls x ∨ x ∈ set.toList ∧ .remove x ∉ calls := by
  induction calls generalizing set past with
  | nil => simp [not_stillAdded_nil]
  | cons call rest ih =>
      -- What the first call adds is what was there before the others.
      rw [run_cons, ih (latest.perform allowed.1) allowed.2, mem_perform latest.nodup,
        stillAdded_cons, List.mem_cons, not_or, ne_comm]
      tauto

end ListsLatest

/-! ## Adding in any order -/

/-- Any additions are allowed. -/
theorem allowsAll_adds (set : AddressSet) (xs : List Address) :
    set.AllowsAll (xs.map .add) := by
  induction xs generalizing set with
  | nil => trivial
  | cons x xs ih => exact ⟨trivial, ih _⟩

/-- Adding addresses one by one gives them and the elements before. -/
theorem mem_run_adds (set : AddressSet) (xs : List Address) (x : Address) :
    x ∈ (set.run (xs.map .add)).toList ↔ x ∈ xs ∨ x ∈ set.toList := by
  induction xs generalizing set with
  | nil => simp
  | cons y xs ih =>
      have first : x ∈ (set.perform (.add y)).1.toList ↔ x = y ∨ x ∈ set.toList := mem_add set y x
      rw [List.map_cons, run_cons, ih, first, List.mem_cons]
      tauto

/-- Addresses may be added in any order. -/
theorem ListsLatest.perm_run_adds (latest : ListsLatest set past) {xs ys : List Address}
    (perm : xs.Perm ys) :
    (set.run (xs.map .add)).toList.Perm (set.run (ys.map .add)).toList := by
  have nodup (zs : List Address) : (set.run (zs.map .add)).toList.Nodup :=
    (latest.run (allowsAll_adds set zs)).nodup
  refine (List.perm_ext_iff_of_nodup (nodup xs) (nodup ys)).2 fun x => ?_
  rw [mem_run_adds, mem_run_adds, perm.mem_iff]

/-! ## The laws -/

/-- The set that calls lead to from the beginning on. -/
def after (calls : List Call) : AddressSet :=
  run .empty calls

/-- After allowed calls a set lists the latest insertions. -/
theorem listsLatest_after (allowed : AllowsAll .empty calls) :
    ListsLatest (after calls) (insertions .empty calls) :=
  listsLatest_empty.run allowed

/-- What holds of a set after calls, and of any call that comes next. -/
structure InInsertionOrder (calls : List Call) : Prop where
  /-- No two elements agree in family, value and scope. -/
  distinct : (after calls).toList.Pairwise fun x y => ¬x.Same y
  /-- An address is contained exactly if an element agrees with it. -/
  found_iff (x : Address) : (after calls).contains x = true ↔ ∃ y ∈ (after calls).toList, y.Same x
  /-- An address is contained exactly if it has been added and not been removed since. -/
  contains_iff (x : Address) : (after calls).contains x = true ↔ StillAdded calls x
  /-- The elements are listed in the order in which they were last inserted. -/
  order : (after calls).toList =
    (insertions .empty calls).dedup.filter (after calls).contains
  /-- Adding an address answers whether the set changes by it. -/
  added (x : Address) : ∃ new, ((after calls).perform (.add x)).2 = .flag new ∧
    (new = true ↔ ((after calls).perform (.add x)).1 ≠ after calls)
  /-- Removing an address that is absent changes nothing. -/
  removed (x : Address) (absent : (after calls).contains x = false) :
    ((after calls).perform (.remove x)).1 = after calls
  /-- Asking for an address and iterating change nothing and tell what the set is. -/
  asked (x : Address) :
    (after calls).perform (.contains x) = (after calls, .flag ((after calls).contains x))
  iterated : (after calls).perform .iterate = (after calls, .elements (after calls).toList)
  /-- Adding addresses one by one gives the same members, and as many, in whatever order. -/
  permuted {xs ys : List Address} (perm : xs.Perm ys) :
    (∀ x, ((after calls).run (xs.map .add)).contains x =
      ((after calls).run (ys.map .add)).contains x) ∧
      ((after calls).run (xs.map .add)).size = ((after calls).run (ys.map .add)).size

/-- After any calls by which no address is pushed while it is present, the set has its elements in
order of insertion. -/
theorem keeps_insertion_order (calls : List Call) (allowed : AllowsAll .empty calls) :
    InInsertionOrder calls where
  distinct := by
    have nodup := (listsLatest_after allowed).nodup
    exact nodup.imp fun different same => different (Address.same_iff.1 same)
  found_iff x := by
    simp [Address.same_iff]
  contains_iff x := by
    rw [AddressSet.contains_iff, after, listsLatest_empty.mem_run allowed]
    simp [empty]
  order := listsLatest_after allowed
  added x := ⟨_, rfl, add_true_iff (after calls) x⟩
  removed _ absent := remove_of_absent absent
  asked _ := rfl
  iterated := rfl
  permuted perm := by
    have members := (listsLatest_after allowed).perm_run_adds perm
    refine ⟨fun x => ?_, members.length_eq⟩
    rw [Bool.eq_iff_iff, AddressSet.contains_iff, AddressSet.contains_iff, members.mem_iff]

/-- The IPv4 address of the number one. -/
def one : Address :=
  .v4 ⟨0, 0, 0, 1⟩

/-- The IPv6 address of the same number, with or without a scope. -/
def loopback (scope : Option String) : Address :=
  .v6 ⟨[0, 0, 0, 0, 0, 0, 0, 1], rfl⟩ scope

/-- All these addresses are told apart. One that is added while it is present stays where it is; one
that is removed and pushed anew comes last. -/
def oneCalls : List Call :=
  [.add one, .add (loopback none), .push (loopback (some "2")), .add one, .iterate,
    .add (loopback (some "3")), .remove one, .remove one, .contains one, .push one,
    .remove (loopback (some "3"))]

theorem ones_in_order :
    AllowsAll .empty oneCalls ∧
      (after oneCalls).toList = [loopback none, loopback (some "2"), one] ∧
      StillAdded oneCalls one ∧ ¬StillAdded oneCalls (loopback (some "3")) ∧
      ((after oneCalls).run ([one, loopback (some "4")].map .add)).size =
        ((after oneCalls).run ([loopback (some "4"), one].map .add)).size := by
  have allowed : AllowsAll .empty oneCalls :=
    ⟨trivial, trivial, rfl, trivial, trivial, trivial, trivial, trivial, trivial, rfl, trivial,
      trivial⟩
  have laws := keeps_insertion_order oneCalls allowed
  refine ⟨allowed, ?_, ?_, ?_, (laws.permuted (.swap ..)).2⟩
  · rw [laws.order]
    decide
  · rw [← laws.contains_iff]
    decide
  · rw [← laws.contains_iff]
    decide

/-- An address that is pushed while it is present outlives its removal. -/
example : (after [.push one, .push one, .remove one]).contains one = true := by
  decide

end AddressSet

end ScannerDiscovery.Ip
