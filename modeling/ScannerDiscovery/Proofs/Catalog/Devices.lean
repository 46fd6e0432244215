import ScannerDiscovery.Catalog.Devices
import ScannerDiscovery.Proofs.Endpoint.Order
import ScannerDiscovery.Proofs.OrderedMap

/-!
# Every finding belongs to a device

The merged view leaves out no finding that has an identifier: there is one device with that
identifier, and it has the method, the interface and the endpoints of the finding.

Main results:

- `exists_device` : the device of a finding.
- `nodup_uuid_devices` : there is no other.
-/

namespace ScannerDiscovery

namespace Device

/-- Numbers, of which each is dropped that is repeated by the next one left. -/
def withoutRepeats (numbers : List Int) : List Int :=
  numbers.foldr (fun n larger => if larger.head? = some n then larger else n :: larger) []

theorem withoutRepeats_cons (n : Int) (rest : List Int) :
    withoutRepeats (n :: rest) =
      if (withoutRepeats rest).head? = some n then withoutRepeats rest
      else n :: withoutRepeats rest := rfl

/-- No number is lost with the repetitions. -/
theorem mem_withoutRepeats {n : Int} {numbers : List Int} :
    n ∈ withoutRepeats numbers ↔ n ∈ numbers := by
  induction numbers with
  | nil => rfl
  | cons first rest ih =>
      rw [withoutRepeats_cons, List.mem_cons, ← ih]
      split
      · rename_i same
        have present := List.mem_of_head? same
        exact ⟨.inr, fun h => h.elim (fun heq => heq ▸ present) id⟩
      · exact List.mem_cons

theorem mem_sortedNumbers (numbers : List Int) (n : Int) :
    n ∈ sortedNumbers numbers ↔ n ∈ numbers :=
  mem_withoutRepeats.trans List.mem_mergeSort

variable {findings : List Snapshot} {uuid : Uuid} {s : Snapshot}

/-- A device has the identifier that it is assembled for. -/
theorem uuid_assemble {device : Device} (made : assemble findings uuid = some device) :
    device.uuid = uuid := by
  obtain ⟨first, -, rfl⟩ := Option.map_eq_some_iff.1 made
  rfl

/-- The device with the identifier of a finding has what the finding says. -/
theorem exists_assemble (hs : s ∈ findings) (known : s.uuid = some uuid) :
    ∃ device, assemble findings uuid = some device ∧ s.method ∈ device.methods ∧
      s.ifindex ∈ device.ifindexes ∧ ∀ endpoint ∈ s.endpoints, endpoint ∈ device.endpoints := by
  have mine : s ∈ findings.filter (·.uuid = some uuid) :=
    List.mem_filter.2 ⟨hs, decide_eq_true known⟩
  obtain ⟨first, hfirst⟩ : ∃ first, (findings.filter (·.uuid = some uuid)).head? = some first :=
    Option.isSome_iff_exists.1 (List.isSome_head?.2 (List.ne_nil_of_mem mine))
  refine ⟨_, by rw [assemble, hfirst]; rfl, ?_, ?_, ?_⟩
  · exact List.mem_filter.2 ⟨Method.mem_all _, List.any_eq_true.2 ⟨s, mine, by simp⟩⟩
  · exact (mem_sortedNumbers _ _).2 (List.mem_map_of_mem mine)
  · intro endpoint hendpoint
    exact (Endpoint.mem_sortAndDedup _ _).2 (List.mem_flatMap_of_mem mine hendpoint)

end Device

namespace Catalog

/-- Every finding that has an identifier belongs to a device. -/
theorem exists_device {c : Catalog} {key : FindingKey} {s : Snapshot} {uuid : Uuid}
    (shown : c.findings.get? key = some s) (known : s.uuid = some uuid) :
    ∃ device ∈ c.devices, device.uuid = uuid ∧ s.method ∈ device.methods ∧
      s.ifindex ∈ device.ifindexes ∧ ∀ endpoint ∈ s.endpoints, endpoint ∈ device.endpoints := by
  have hs : s ∈ c.findings.values := List.mem_map_of_mem (OrderedMap.get?_eq_some_iff.1 shown)
  obtain ⟨device, made, has⟩ := Device.exists_assemble hs known
  refine ⟨device, ?_, Device.uuid_assemble made, has⟩
  exact List.mem_mergeSort.2
    (List.mem_filterMap.2 ⟨uuid, (Device.mem_uuids_iff _ _).2 ⟨s, hs, known⟩, made⟩)

/-- No two devices have the same identifier. -/
theorem nodup_uuid_devices (c : Catalog) : (c.devices.map (·.uuid)).Nodup := by
  have listed (uuids : List Uuid) (nodup : uuids.Nodup) :
      ((uuids.filterMap (Device.assemble c.findings.values)).map (·.uuid)).Nodup := by
    refine nodup.sublist ?_
    clear nodup
    induction uuids with
    | nil => exact List.Sublist.slnil
    | cons uuid rest ih =>
        cases made : Device.assemble c.findings.values uuid with
        | none => simpa [made] using ih.cons uuid
        | some device => simpa [made, Device.uuid_assemble made] using ih
  exact ((List.mergeSort_perm _ _).map _).nodup_iff.2 (listed _ (Device.uuids_nodup _))

end Catalog

end ScannerDiscovery
