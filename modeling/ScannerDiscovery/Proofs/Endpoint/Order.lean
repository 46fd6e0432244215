import Mathlib.Data.List.Sort
import Mathlib.Data.String.Basic
import ScannerDiscovery.Endpoint

/-!
# The canonical order of endpoints

Keys of endpoints are totally ordered, and endpoints with the same key are the same unless their
URI is given under two protocols.  So the canonical list of unmixed endpoints increases strictly,
and it depends on nothing but which endpoints there are.

Main definitions:

- `SortKey.Before` : the strict order of keys.
- `Unmixed`, `OfProto` : no URI is given under two protocols; all are given under one.

Main results:

- `mem_sortAndDedup` : the canonical list has the endpoints it is made of.
- `strict_sortAndDedup` : it increases strictly.
- `sortAndDedup_congr` : the same endpoints make the same list.
-/

namespace ScannerDiscovery.Endpoint

/-! ## Keys -/

namespace SortKey

theorem le_total (x y : SortKey) : x.le y = true ∨ y.le x = true := by
  obtain ⟨l, v, u⟩ := x
  obtain ⟨l', v', u'⟩ := y
  have texts := String.le_total u u'
  cases l <;> cases l' <;> cases v <;> cases v' <;> simp_all [le]

theorem le_trans {x y z : SortKey} (hxy : x.le y = true) (hyz : y.le z = true) :
    x.le z = true := by
  obtain ⟨l, v, u⟩ := x
  obtain ⟨l', v', u'⟩ := y
  obtain ⟨l'', v'', u''⟩ := z
  have texts : u ≤ u' → u' ≤ u'' → u ≤ u'' := String.le_trans
  cases l <;> cases l' <;> cases l'' <;> cases v <;> cases v' <;> cases v'' <;> simp_all [le]

/-- Two keys that come before one another are the same. -/
theorem le_antisymm {x y : SortKey} (hxy : x.le y = true) (hyx : y.le x = true) : x = y := by
  obtain ⟨l, v, u⟩ := x
  obtain ⟨l', v', u'⟩ := y
  have texts : u ≤ u' → u' ≤ u → u = u' := String.le_antisymm
  cases l <;> cases l' <;> cases v <;> cases v' <;> simp_all [le]

/-- Whether one key comes strictly before another. -/
def Before (x y : SortKey) : Prop :=
  x.le y = true ∧ x ≠ y

instance (x y : SortKey) : Decidable (x.Before y) :=
  inferInstanceAs (Decidable (_ ∧ _))

theorem Before.trans {x y z : SortKey} (hxy : x.Before y) (hyz : y.Before z) : x.Before z := by
  refine ⟨le_trans hxy.1 hyz.1, ?_⟩
  rintro rfl
  exact hxy.2 (le_antisymm hxy.1 hyz.1)

theorem Before.asymm {x y : SortKey} (hxy : x.Before y) : ¬y.Before x :=
  fun hyx => hxy.2 (le_antisymm hxy.1 hyx.1)

end SortKey

theorem uri_sortKey (e : Endpoint) : e.sortKey.uri = e.uri := by
  unfold sortKey
  split <;> rfl

/-- The key of an endpoint depends on its URI alone, and contains it. -/
theorem sortKey_eq_iff {e f : Endpoint} : e.sortKey = f.sortKey ↔ e.uri = f.uri := by
  constructor
  · intro key
    rw [← uri_sortKey, key, uri_sortKey]
  · intro uri
    rw [sortKey, sortKey, uri]

/-! ## Lists in order -/

/-- No endpoint is lost with the repetitions. -/
theorem mem_collapse (endpoints : List Endpoint) (e : Endpoint) :
    e ∈ collapse endpoints ↔ e ∈ endpoints := by
  induction endpoints with
  | nil => rfl
  | cons first rest ih =>
      rw [List.mem_cons, ← ih]
      cases hrest : collapse rest with
      | nil => simp [collapse, hrest]
      | cons second others =>
          simp only [collapse, hrest]
          split
          · rename_i same
            simp [same]
          · rw [List.mem_cons]

/-- The canonical list has the endpoints it is made of. -/
theorem mem_sortAndDedup (endpoints : List Endpoint) (e : Endpoint) :
    e ∈ sortAndDedup endpoints ↔ e ∈ endpoints := by
  rw [sortAndDedup, mem_collapse, List.mem_mergeSort]

/-- Whether no URI is given under two protocols. -/
def Unmixed (endpoints : List Endpoint) : Prop :=
  ∀ e ∈ endpoints, ∀ f ∈ endpoints, e.uri = f.uri → e = f

/-- Whether all endpoints are of one protocol. -/
def OfProto (proto : Proto) (endpoints : List Endpoint) : Prop :=
  ∀ e ∈ endpoints, e.proto = proto

/-- Endpoints of one protocol are told apart by their URIs. -/
theorem OfProto.unmixed {proto : Proto} {endpoints : List Endpoint}
    (one : OfProto proto endpoints) : Unmixed endpoints := by
  intro e he f hf uri
  have proto := (one e he).trans (one f hf).symm
  obtain ⟨p, u⟩ := e
  obtain ⟨q, v⟩ := f
  obtain rfl : p = q := proto
  obtain rfl : u = v := uri
  rfl

/-- Whether endpoints are mixed depends on which they are, not on their order. -/
theorem Unmixed.of_mem_iff {es fs : List Endpoint} (unmixed : Unmixed es)
    (same : ∀ e, e ∈ fs ↔ e ∈ es) : Unmixed fs :=
  fun e he f hf => unmixed e ((same e).1 he) f ((same f).1 hf)

/-- Whether endpoints increase strictly in the canonical order. -/
def Strict (endpoints : List Endpoint) : Prop :=
  endpoints.Pairwise fun e f => e.sortKey.Before f.sortKey

instance (endpoints : List Endpoint) : Decidable (Strict endpoints) :=
  inferInstanceAs (Decidable (endpoints.Pairwise _))

/-- Without equal neighbours unmixed endpoints in order increase strictly. -/
theorem strict_collapse {endpoints : List Endpoint} (unmixed : Unmixed endpoints)
    (sorted : endpoints.Pairwise fun e f => e.sortKey.le f.sortKey = true) :
    Strict (collapse endpoints) := by
  induction endpoints with
  | nil => exact List.Pairwise.nil
  | cons first rest ih =>
      obtain ⟨least, sorted⟩ := List.pairwise_cons.1 sorted
      have strict := ih (fun e he f hf => unmixed e (List.mem_cons_of_mem _ he) f
        (List.mem_cons_of_mem _ hf)) sorted
      have mem (e : Endpoint) : e ∈ collapse rest ↔ e ∈ rest := mem_collapse rest e
      cases hrest : collapse rest with
      | nil => simp [collapse, hrest, Strict]
      | cons second others =>
          rw [hrest] at strict mem
          simp only [collapse, hrest]
          split
          · exact strict
          · rename_i different
            have hsecond := (mem second).1 List.mem_cons_self
            have before : first.sortKey.Before second.sortKey :=
              ⟨least second hsecond, fun key => different (unmixed first List.mem_cons_self second
                (List.mem_cons_of_mem _ hsecond) (sortKey_eq_iff.1 key))⟩
            refine List.pairwise_cons.2 ⟨?_, strict⟩
            intro e he
            rcases List.mem_cons.1 he with rfl | he
            · exact before
            · exact before.trans ((List.pairwise_cons.1 strict).1 e he)

/-- Sorting puts endpoints in order. -/
theorem sorted_mergeSort (endpoints : List Endpoint) :
    (endpoints.mergeSort fun e f => e.sortKey.le f.sortKey).Pairwise
      fun e f => e.sortKey.le f.sortKey = true := by
  apply List.pairwise_mergeSort
  · exact fun _ _ _ => SortKey.le_trans
  · intro e f
    rw [Bool.or_eq_true]
    exact SortKey.le_total _ _

/-- The canonical list of unmixed endpoints increases strictly. -/
theorem strict_sortAndDedup {endpoints : List Endpoint} (unmixed : Unmixed endpoints) :
    Strict (sortAndDedup endpoints) :=
  strict_collapse (unmixed.of_mem_iff fun _ => List.mem_mergeSort) (sorted_mergeSort endpoints)

theorem Strict.nodup {endpoints : List Endpoint} (strict : Strict endpoints) : endpoints.Nodup :=
  List.Pairwise.imp (fun before heq => before.2 (congrArg sortKey heq)) strict

/-- Lists that increase strictly are the same if they have the same endpoints. -/
theorem Strict.eq_of_mem_iff {es fs : List Endpoint} (hes : Strict es) (hfs : Strict fs)
    (same : ∀ e, e ∈ es ↔ e ∈ fs) : es = fs := by
  have perm : es.Perm fs := (List.perm_ext_iff_of_nodup hes.nodup hfs.nodup).2 same
  exact perm.eq_of_pairwise (fun e f _ _ hef hfe => absurd hfe hef.asymm) hes hfs

/-- The canonical list of unmixed endpoints depends on nothing but which endpoints there are. -/
theorem sortAndDedup_congr {es fs : List Endpoint} (unmixed : Unmixed es)
    (same : ∀ e, e ∈ es ↔ e ∈ fs) : sortAndDedup es = sortAndDedup fs := by
  have unmixed' : Unmixed fs := unmixed.of_mem_iff fun e => (same e).symm
  apply (strict_sortAndDedup unmixed).eq_of_mem_iff (strict_sortAndDedup unmixed')
  intro e
  rw [mem_sortAndDedup, mem_sortAndDedup, same]

end ScannerDiscovery.Endpoint
