import Mathlib.Data.List.Destutter
import ScannerDiscovery.Proofs.Endpoint.Order

/-!
# How far the canonical list is canonical

The canonical list of any endpoints is in order, and making it once more changes nothing.  The order
looks at the URI of an endpoint, but not at its protocol: endpoints of one URI stay in the order in
which they were given, and a repetition among them goes only next to its equal.  So the list depends
on nothing but which endpoints there are as long as no URI is given under two protocols, and then
it repeats nothing; otherwise there is another arrangement of the same endpoints that gives
another list.

Main definitions:

- `Precedes` : the canonical order, told from the addresses that URIs name.

Main results:

- `sorted_sortAndDedup`, `sortAndDedup_idem` : the list is in order, and stays as it is.
- `filter_uri_sortAndDedup` : what is left of the endpoints of one URI.
- `canonical_iff_unmixed` : when the list depends on the set of endpoints alone.
- `protocols_kept_apart` : a URI under two protocols, listed three times.
-/

namespace ScannerDiscovery.Endpoint

/-! ## The order -/

/-- Whether the URI of an endpoint names a link-local address. -/
def isLinkLocal (e : Endpoint) : Bool :=
  (address? e.uri).any (·.isLinkLocal)

/-- Whether the URI of an endpoint names an IPv6 address. -/
def isIpv6 (e : Endpoint) : Bool :=
  (address? e.uri).any (·.family == .ipv6)

/-- Whether one endpoint may stand before another: those beyond the link stand before link-local
ones, among these IPv6 addresses before all else, and then the code points of the URIs decide. -/
def Precedes (e f : Endpoint) : Prop :=
  (e.isLinkLocal = false ∧ f.isLinkLocal = true) ∨
    e.isLinkLocal = f.isLinkLocal ∧
      ((e.isIpv6 = true ∧ f.isIpv6 = false) ∨ e.isIpv6 = f.isIpv6 ∧ e.uri ≤ f.uri)

theorem sortKey_eq (e : Endpoint) : e.sortKey = ⟨e.isLinkLocal, !e.isIpv6, e.uri⟩ := by
  unfold sortKey isLinkLocal isIpv6
  cases address? e.uri <;> rfl

/-- The keys are ordered as the endpoints are. -/
theorem precedes_iff {e f : Endpoint} : e.Precedes f ↔ e.sortKey.le f.sortKey = true := by
  rw [sortKey_eq, sortKey_eq, Precedes]
  cases e.isLinkLocal <;> cases f.isLinkLocal <;> cases e.isIpv6 <;> cases f.isIpv6 <;>
    simp [SortKey.le]

/-! ## Equal neighbours -/

/-- The first endpoint of a list stays the first. -/
theorem head?_collapse_cons (e : Endpoint) (rest : List Endpoint) :
    (collapse (e :: rest)).head? = some e := by
  cases hrest : collapse rest with
  | nil => simp [collapse, hrest]
  | cons f others => by_cases h : e = f <;> simp [collapse, hrest, h]

/-- Of equal neighbours one is kept. -/
theorem collapse_cons (e : Endpoint) (rest : List Endpoint) :
    collapse (e :: rest) = if rest.head? = some e then collapse rest else e :: collapse rest := by
  cases rest with
  | nil => rfl
  | cons f rest =>
      obtain ⟨others, hothers⟩ := List.head?_eq_some_iff.1 (head?_collapse_cons f rest)
      rw [collapse, hothers, List.head?_cons]
      by_cases h : e = f
      · simp [h]
      · simp [h, Ne.symm h]

theorem collapse_eq_destutter (endpoints : List Endpoint) :
    collapse endpoints = endpoints.destutter (· ≠ ·) := by
  have each (rest : List Endpoint) (e : Endpoint) :
      collapse (e :: rest) = rest.destutter' (· ≠ ·) e := by
    induction rest generalizing e with
    | nil => rfl
    | cons f rest ih =>
        rw [collapse_cons, List.head?_cons]
        by_cases h : e = f
        · rw [if_pos (by rw [h]), ih, List.destutter'_cons_neg _ (by simp [h]), h]
        · rw [if_neg (by simpa using Ne.symm h), ih, List.destutter'_cons_pos _ h]
  cases endpoints with
  | nil => rfl
  | cons e rest => exact each rest e

/-- The canonical list is in order. -/
theorem sorted_sortAndDedup (endpoints : List Endpoint) :
    (sortAndDedup endpoints).Pairwise Precedes := by
  rw [sortAndDedup, collapse_eq_destutter]
  exact ((sorted_mergeSort endpoints).sublist (List.destutter_sublist _ _)).imp precedes_iff.2

/-- Of endpoints that are in order only equal neighbours are collapsed. -/
theorem sortAndDedup_of_sorted {endpoints : List Endpoint}
    (sorted : endpoints.Pairwise fun e f => e.sortKey.le f.sortKey = true) :
    sortAndDedup endpoints = collapse endpoints := by
  rw [sortAndDedup, List.mergeSort_of_pairwise sorted]

/-- Making the canonical list once more changes nothing. -/
theorem sortAndDedup_idem (endpoints : List Endpoint) :
    sortAndDedup (sortAndDedup endpoints) = sortAndDedup endpoints := by
  rw [sortAndDedup_of_sorted ((sorted_sortAndDedup endpoints).imp precedes_iff.1), sortAndDedup]
  simp only [collapse_eq_destutter, List.destutter_idem]

/-! ## Endpoints of one URI -/

/-- Sorting leaves the endpoints of one URI in their order. -/
theorem filter_uri_mergeSort (endpoints : List Endpoint) (uri : String) :
    (endpoints.mergeSort fun e f => e.sortKey.le f.sortKey).filter (·.uri = uri) =
      endpoints.filter (·.uri = uri) := by
  have ties : (endpoints.filter (·.uri = uri)).Pairwise
      fun e f => e.sortKey.le f.sortKey = true := by
    refine List.pairwise_of_forall_mem_list fun e he f hf => ?_
    have huri : e.uri = f.uri := by
      simp only [List.mem_filter, decide_eq_true_eq] at he hf
      rw [he.2, hf.2]
    rw [sortKey_eq_iff.2 huri]
    exact (SortKey.le_total f.sortKey f.sortKey).elim id id
  have kept : (endpoints.filter (·.uri = uri)).Sublist
      (endpoints.mergeSort fun e f => e.sortKey.le f.sortKey) := by
    apply List.sublist_mergeSort
    · exact fun _ _ _ => SortKey.le_trans
    · intro e f
      rw [Bool.or_eq_true]
      exact SortKey.le_total _ _
    · exact ties
    · exact List.filter_sublist
  have sub := kept.filter (·.uri = uri)
  rw [List.filter_filter] at sub
  simp only [Bool.and_self] at sub
  exact (sub.eq_of_length ((List.mergeSort_perm _ _).symm.filter _).length_eq).symm

/-- In a list that is in order an endpoint is repeated at once if it is among those of its URI:
between two endpoints of one URI there is none of another. -/
theorem head?_filter_uri {e : Endpoint} {rest : List Endpoint}
    (sorted : (e :: rest).Pairwise fun e f => e.sortKey.le f.sortKey = true) :
    (rest.filter (·.uri = e.uri)).head? = some e ↔ rest.head? = some e := by
  cases rest with
  | nil => rfl
  | cons f rest =>
      by_cases hf : f.uri = e.uri
      · simp [hf]
      · obtain ⟨least, sorted⟩ := List.pairwise_cons.1 sorted
        have between {g : Endpoint} (hg : g ∈ rest) : g.uri ≠ e.uri := by
          intro huri
          have key : e.sortKey = g.sortKey := sortKey_eq_iff.2 huri.symm
          have below := least f List.mem_cons_self
          rw [key] at below
          have same := SortKey.le_antisymm ((List.pairwise_cons.1 sorted).1 g hg) below
          exact hf ((sortKey_eq_iff.1 same).trans huri)
        have ne : f ≠ e := fun h => hf (congrArg Endpoint.uri h)
        rw [List.filter_cons_of_neg (by simpa using hf),
          List.filter_eq_nil_iff.2 (by simpa using fun g hg => between hg)]
        simp [ne]

/-- In a list that is in order equal neighbours are those among the endpoints of one URI. -/
theorem filter_uri_collapse {endpoints : List Endpoint}
    (sorted : endpoints.Pairwise fun e f => e.sortKey.le f.sortKey = true) (uri : String) :
    (collapse endpoints).filter (·.uri = uri) = collapse (endpoints.filter (·.uri = uri)) := by
  induction endpoints with
  | nil => rfl
  | cons e rest ih =>
      have ih := ih (List.pairwise_cons.1 sorted).2
      by_cases he : e.uri = uri
      · subst he
        rw [collapse_cons, List.filter_cons_of_pos (by simp), collapse_cons]
        simp only [head?_filter_uri sorted]
        split
        · exact ih
        · rw [List.filter_cons_of_pos (by simp), ih]
      · rw [collapse_cons, List.filter_cons_of_neg (by simpa using he), ← ih]
        split
        · rfl
        · rw [List.filter_cons_of_neg (by simpa using he)]

/-- Of the endpoints of one URI those are left, in the order in which they were given, that do not
repeat the one before. -/
theorem filter_uri_sortAndDedup (endpoints : List Endpoint) (uri : String) :
    (sortAndDedup endpoints).filter (·.uri = uri) =
      (endpoints.filter (·.uri = uri)).destutter (· ≠ ·) := by
  rw [sortAndDedup, filter_uri_collapse (sorted_mergeSort endpoints), filter_uri_mergeSort,
    collapse_eq_destutter]

/-- If every arrangement of some endpoints gives the same list, they are unmixed. -/
theorem unmixed_of_congr {es : List Endpoint}
    (congr : ∀ fs, (∀ e, e ∈ fs ↔ e ∈ es) → sortAndDedup fs = sortAndDedup es) : Unmixed es := by
  intro e he f hf uri
  -- Of two endpoints of one URI either comes first if it is put in front.
  have first {a b : Endpoint} (ha : a ∈ es) (hb : b ∈ es) (huri : a.uri = b.uri) :
      ((sortAndDedup es).filter (·.uri = b.uri)).head? = some a := by
    have same : ∀ e, e ∈ a :: b :: es ↔ e ∈ es := by
      intro e
      simp only [List.mem_cons]
      exact ⟨fun h => h.elim (· ▸ ha) (·.elim (· ▸ hb) id), fun h => .inr (.inr h)⟩
    rw [← congr _ same, filter_uri_sortAndDedup, List.filter_cons_of_pos (by simpa using huri),
      ← collapse_eq_destutter, head?_collapse_cons]
  have hfirst := first he hf uri
  rw [← uri, first hf he uri.symm] at hfirst
  exact (Option.some.inj hfirst).symm

/-! ## The canonical form -/

/-- The canonical list has the endpoints it is made of, is in order, and stays as it is when it is
made again; of the endpoints of one URI it has, in the order given, those that do not repeat the
one before.  It has each endpoint once, and is the same for every arrangement of the same
endpoints, exactly if no URI is given under two protocols. -/
theorem canonical_iff_unmixed (es : List Endpoint) :
    (∀ e, e ∈ sortAndDedup es ↔ e ∈ es) ∧
      (sortAndDedup es).Pairwise Precedes ∧
      sortAndDedup (sortAndDedup es) = sortAndDedup es ∧
      (∀ uri, (sortAndDedup es).filter (·.uri = uri) =
        (es.filter (·.uri = uri)).destutter (· ≠ ·)) ∧
      ((∀ fs, (∀ e, e ∈ fs ↔ e ∈ es) →
        (sortAndDedup fs).Nodup ∧ sortAndDedup fs = sortAndDedup es) ↔ Unmixed es) := by
  refine ⟨mem_sortAndDedup es, sorted_sortAndDedup es, sortAndDedup_idem es,
    filter_uri_sortAndDedup es, ?_, ?_⟩
  · intro canonical
    exact unmixed_of_congr fun fs same => (canonical fs same).2
  · intro unmixed fs same
    exact ⟨(strict_sortAndDedup (unmixed.of_mem_iff same)).nodup,
      (sortAndDedup_congr unmixed fun e => (same e).symm).symm⟩

/-- A URI under two protocols is listed as often as the protocols take turns, and the one that comes
first is listed first. -/
theorem protocols_kept_apart :
    let scan : Endpoint := ⟨.escl, "http://192.168.1.10:80/eSCL/"⟩
    let service : Endpoint := ⟨.wsd, "http://192.168.1.10:80/eSCL/"⟩
    sortAndDedup [scan, service, scan] = [scan, service, scan] ∧
      ¬(sortAndDedup [scan, service, scan]).Nodup ∧
      sortAndDedup [scan, service] ≠ sortAndDedup [service, scan] := by
  intro scan service
  -- the order does not look at protocols, so that all three lists are in order
  have twice : sortAndDedup [scan, service, scan] = collapse [scan, service, scan] :=
    sortAndDedup_of_sorted (by decide +kernel)
  have scanFirst : sortAndDedup [scan, service] = collapse [scan, service] :=
    sortAndDedup_of_sorted (by decide +kernel)
  have serviceFirst : sortAndDedup [service, scan] = collapse [service, scan] :=
    sortAndDedup_of_sorted (by decide +kernel)
  rw [twice, scanFirst, serviceFirst]
  decide

end ScannerDiscovery.Endpoint
