import Mathlib.Data.Prod.Lex
import ScannerDiscovery.Proofs.Catalog.Devices
import ScannerDiscovery.Proofs.Catalog.History
import ScannerDiscovery.Proofs.Uuid.Written

/-!
# The merged view

The devices of a catalog are its findings joined by identifier: for each identifier there is one
device, which has exactly what its findings say and the name of the first of them.  They are listed
in the order of folded names and identifiers, and no two of them are equal in it.  But for the
names, what they say depends on nothing but which findings there are.

Main definitions:

- `Device.Merges` : whether a device is made of the findings with its identifier.
- `Device.Before` : the order in which devices are listed.
- `Device.facts` : what a device says apart from its names.

Main results:

- `mem_devices_iff` : the devices of a catalog.
- `perm_facts_devices` : the same findings make the same devices but for their names.
- `merged_view_exact` : the merged view after any commands.
-/

namespace ScannerDiscovery

namespace Device

/-! ## One device -/

/-- Whether a device is what the findings with its identifier make, among findings in order.  Its
names are those of the first of them, of which the model may be missing; it has their methods and
interfaces without repetition and in order, and their endpoints as a canonical list. -/
structure Merges (findings : List Snapshot) (d : Device) : Prop where
  named : ∃ first, findings.find? (·.uuid = some d.uuid) = some first ∧ d.name = first.name ∧
    d.model = (first.model.filter (· ≠ "")).getD first.name
  methods : d.methods =
    Method.all.filter fun m => ∃ s ∈ findings, s.uuid = some d.uuid ∧ s.method = m
  ifindexes : ∀ n, n ∈ d.ifindexes ↔ ∃ s ∈ findings, s.uuid = some d.uuid ∧ s.ifindex = n
  increasing : d.ifindexes.Pairwise (· < ·)
  endpoints : d.endpoints =
    Endpoint.sortAndDedup ((findings.filter (·.uuid = some d.uuid)).flatMap (·.endpoints))

theorem modelOf_eq (first : Snapshot) :
    modelOf first = (first.model.filter (· ≠ "")).getD first.name := by
  unfold modelOf
  cases first.model with
  | none => rfl
  | some model => by_cases h : model = "" <;> simp [Option.filter, h]

/-- Numbers in order increase strictly without repeats. -/
theorem increasing_withoutRepeats {numbers : List Int} (sorted : numbers.Pairwise (· ≤ ·)) :
    (withoutRepeats numbers).Pairwise (· < ·) := by
  induction numbers with
  | nil => exact List.Pairwise.nil
  | cons n rest ih =>
      obtain ⟨least, sorted⟩ := List.pairwise_cons.1 sorted
      have increasing := ih sorted
      rw [withoutRepeats_cons]
      split
      · exact increasing
      · rename_i different
        refine List.pairwise_cons.2 ⟨?_, increasing⟩
        cases hleft : withoutRepeats rest with
        | nil => simp
        | cons first larger =>
            rw [hleft] at increasing different
            have among : first ∈ rest := mem_withoutRepeats.1 (hleft ▸ List.mem_cons_self)
            have hfirst : n < first := by
              have hle := least first among
              have hne : first ≠ n := by simpa using different
              omega
            refine List.forall_mem_cons.2 ⟨hfirst, fun m hm => ?_⟩
            exact hfirst.trans ((List.pairwise_cons.1 increasing).1 m hm)

theorem increasing_sortedNumbers (numbers : List Int) :
    (sortedNumbers numbers).Pairwise (· < ·) :=
  increasing_withoutRepeats (List.pairwise_mergeSort' (· ≤ ·) numbers)

variable {findings : List Snapshot} {uuid : Uuid} {d : Device}

/-- A device that is assembled from findings is made of those with its identifier. -/
theorem merges_assemble (made : assemble findings uuid = some d) : d.Merges findings := by
  obtain ⟨first, hfirst, rfl⟩ := Option.map_eq_some_iff.1 made
  refine ⟨⟨first, ?_, rfl, modelOf_eq first⟩, ?_, ?_, increasing_sortedNumbers _, rfl⟩
  · rw [← List.head?_filter, hfirst]
  · refine List.filter_congr fun m _ => ?_
    rw [Bool.eq_iff_iff]
    simp
  · intro n
    rw [mem_sortedNumbers]
    simp [and_assoc]

/-- There is a device for an identifier exactly if a finding has it. -/
theorem isSome_assemble (findings : List Snapshot) (uuid : Uuid) :
    (assemble findings uuid).isSome = true ↔ ∃ s ∈ findings, s.uuid = some uuid := by
  simp [assemble]

/-! ## What a device says apart from its names -/

/-- What a device says apart from its names. -/
def facts (d : Device) : Uuid × List Method × List Int × List Endpoint :=
  (d.uuid, d.methods, d.ifindexes, d.endpoints)

/-- Devices that are made of the same findings say the same. -/
theorem Merges.facts_eq {others : List Snapshot} {d d' : Device} (merges : d.Merges findings)
    (merges' : d'.Merges others) (uuid : d.uuid = d'.uuid)
    (same : ∀ s, s ∈ findings ↔ s ∈ others)
    (escl : ∀ s ∈ findings, Endpoint.OfProto .escl s.endpoints) : d.facts = d'.facts := by
  have methods : d.methods = d'.methods := by
    rw [merges.methods, merges'.methods, uuid]
    simp only [same]
  have ifindexes : d.ifindexes = d'.ifindexes := by
    have perm : d.ifindexes.Perm d'.ifindexes := by
      refine (List.perm_ext_iff_of_nodup (merges.increasing.imp Int.ne_of_lt)
        (merges'.increasing.imp Int.ne_of_lt)).2 fun n => ?_
      rw [merges.ifindexes, merges'.ifindexes, uuid]
      simp only [same]
    exact perm.eq_of_pairwise (fun _ _ _ _ h h' => absurd h (Int.lt_asymm h')) merges.increasing
      merges'.increasing
  have endpoints : d.endpoints = d'.endpoints := by
    rw [merges.endpoints, merges'.endpoints, uuid]
    have one : Endpoint.OfProto .escl
        ((findings.filter (·.uuid = some d'.uuid)).flatMap (·.endpoints)) := by
      intro e he
      obtain ⟨s, hs, hmem⟩ := List.mem_flatMap.1 he
      exact escl s (List.mem_of_mem_filter hs) e hmem
    refine Endpoint.sortAndDedup_congr one.unmixed fun e => ?_
    simp only [List.mem_flatMap, List.mem_filter, same]
  rw [facts, facts, uuid, methods, ifindexes, endpoints]

/-! ## The order of devices -/

/-- Whether one device is listed before another: by folded names, and then by identifiers. -/
def Before (x y : Device) : Prop :=
  Text.caseFold x.name < Text.caseFold y.name ∨
    Text.caseFold x.name = Text.caseFold y.name ∧ x.uuid.text < y.uuid.text

/-- The place of a device in the list. -/
def place (d : Device) : String ×ₗ String :=
  toLex (Text.caseFold d.name, d.uuid.text)

/-- Devices are ordered by their place. -/
theorem le_iff (x y : Device) : x.le y = true ↔ x.place ≤ y.place := by
  rw [place, place, Prod.Lex.toLex_le_toLex, le]
  by_cases h : Text.caseFold x.name = Text.caseFold y.name
  · simp [h]
  · simp [h, lt_iff_le_and_ne]

/-- Devices with different identifiers are at different places. -/
theorem before_of_le {x y : Device} (h : x.place ≤ y.place) (ne : x.uuid ≠ y.uuid) :
    x.Before y := by
  refine (Prod.Lex.toLex_le_toLex.1 h).imp_right fun ⟨name, text⟩ => ⟨name, ?_⟩
  exact lt_of_le_of_ne text fun same => ne (Uuid.text_injective same)

end Device

namespace Catalog

/-- The devices of a catalog are those that can be assembled from its findings. -/
theorem mem_devices_iff {c : Catalog} {d : Device} :
    d ∈ c.devices ↔ Device.assemble c.findings.values d.uuid = some d := by
  rw [devices, List.mem_mergeSort, List.mem_filterMap]
  constructor
  · rintro ⟨uuid, -, made⟩
    rwa [Device.uuid_assemble made]
  · intro made
    have known := (Device.isSome_assemble _ _).1 (Option.isSome_of_eq_some made)
    exact ⟨d.uuid, (Device.mem_uuids_iff _ _).2 known, made⟩

/-- The identifiers of devices are those of findings. -/
theorem mem_uuid_devices_iff (c : Catalog) (uuid : Uuid) :
    uuid ∈ c.devices.map (·.uuid) ↔ ∃ s ∈ c.findings.values, s.uuid = some uuid := by
  rw [← Device.isSome_assemble, List.mem_map]
  constructor
  · rintro ⟨d, hd, rfl⟩
    exact Option.isSome_of_eq_some (mem_devices_iff.1 hd)
  · intro some
    obtain ⟨d, made⟩ := Option.isSome_iff_exists.1 some
    obtain rfl := Device.uuid_assemble made
    exact ⟨d, mem_devices_iff.2 made, rfl⟩

/-- The devices are listed in order, and no two are equal in it. -/
theorem before_devices (c : Catalog) : c.devices.Pairwise Device.Before := by
  have sorted : c.devices.Pairwise fun x y => x.le y = true := by
    apply List.pairwise_mergeSort
    · intro x y z
      simp only [Device.le_iff]
      exact le_trans
    · intro x y
      rw [Bool.or_eq_true, Device.le_iff, Device.le_iff]
      exact le_total _ _
  have distinct : c.devices.Pairwise fun x y => x.uuid ≠ y.uuid :=
    List.pairwise_map.1 c.nodup_uuid_devices
  exact (sorted.and distinct).imp fun h => Device.before_of_le ((Device.le_iff _ _).1 h.1) h.2

theorem nodup_facts_devices (c : Catalog) : (c.devices.map Device.facts).Nodup := by
  refine List.Nodup.of_map Prod.fst ?_
  rw [List.map_map]
  exact c.nodup_uuid_devices

/-- The same findings make devices that say the same but for their names. -/
theorem perm_facts_devices {c c' : Catalog}
    (same : ∀ s, s ∈ c.findings.values ↔ s ∈ c'.findings.values)
    (escl : ∀ s ∈ c.findings.values, Endpoint.OfProto .escl s.endpoints) :
    (c.devices.map Device.facts).Perm (c'.devices.map Device.facts) := by
  have among {c c' : Catalog} (same : ∀ s, s ∈ c.findings.values ↔ s ∈ c'.findings.values)
      (escl : ∀ s ∈ c.findings.values, Endpoint.OfProto .escl s.endpoints)
      {fact : Uuid × List Method × List Int × List Endpoint}
      (h : fact ∈ c.devices.map Device.facts) : fact ∈ c'.devices.map Device.facts := by
    obtain ⟨d, hd, rfl⟩ := List.mem_map.1 h
    have known : d.uuid ∈ c'.devices.map (·.uuid) := by
      rw [mem_uuid_devices_iff]
      simp only [← same]
      exact (mem_uuid_devices_iff c _).1 (List.mem_map_of_mem hd)
    obtain ⟨d', hd', uuid⟩ := List.mem_map.1 known
    rw [(Device.merges_assemble (mem_devices_iff.1 hd)).facts_eq
      (Device.merges_assemble (mem_devices_iff.1 hd')) uuid.symm same escl]
    exact List.mem_map_of_mem hd'
  refine (List.perm_ext_iff_of_nodup c.nodup_facts_devices c'.nodup_facts_devices).2 fun fact => ?_
  exact ⟨among same escl, among (fun s => (same s).symm) fun s hs => escl s ((same s).2 hs)⟩

end Catalog

/-! ## After any commands -/

/-- After any commands there is one device for each identifier of a stored finding and no other;
each is made of the findings with its identifier, of which the first is the one whose stay in the
catalog began first; and the devices increase strictly in order.  Whenever the same findings are
stored, all with scan endpoints, the devices say the same but for their names. -/
theorem merged_view_exact {ω : Type} (audience : Audience ω) (world : ω)
    (commands : List Command) :
    let past := commands.reverse
    let c := (audience.record world commands).catalog
    (∀ key, c.findings.get? key = latest? key past) ∧
      c.findings.keys.Pairwise (CameBefore past) ∧
      (∀ uuid, (c.devices.map (·.uuid)).count uuid =
        if ∃ s ∈ c.findings.values, s.uuid = some uuid then 1 else 0) ∧
      (∀ d ∈ c.devices, d.Merges c.findings.values) ∧
      c.devices.Pairwise Device.Before ∧
      ∀ (world' : ω) (commands' : List Command),
        let c' := (audience.record world' commands').catalog
        (∀ s, s ∈ c.findings.values ↔ s ∈ c'.findings.values) →
        (∀ s ∈ c.findings.values, Endpoint.OfProto .escl s.endpoints) →
        (c.devices.map Device.facts).Perm (c'.devices.map Device.facts) := by
  intro past c
  have hc : c = .ofPast past := audience.catalog_record world commands
  refine ⟨?_, ?_, ?_, ?_, c.before_devices, ?_⟩
  · rw [hc]
    exact Catalog.get?_ofPast past
  · rw [hc]
    exact Catalog.keys_ofPast past
  · intro uuid
    rw [c.nodup_uuid_devices.count]
    simp only [Catalog.mem_uuid_devices_iff]
  · intro d hd
    exact Device.merges_assemble (Catalog.mem_devices_iff.1 hd)
  · intro world' commands' c' same escl
    exact Catalog.perm_facts_devices same escl

/-- A scanner in the lobby. -/
def lobbyScanner : Snapshot where
  service := .uscan
  ifindex := 2
  name := "Lobby"
  model := some "Flatbed"
  uuid := some ⟨1⟩
  addresses := []
  endpoints := [⟨.escl, "http://192.168.1.10:80/eSCL/"⟩]

/-- The printer that it belongs to. -/
def lobbyPrinter : Snapshot where
  service := .ipp
  ifindex := 3
  name := "Printer"
  model := none
  uuid := some ⟨1⟩
  addresses := []
  endpoints := []

/-- Published in either order, scanner and printer make one device that goes by the name of the
first, and says the same otherwise. -/
theorem lobby_merged_either_way :
    let audience : Audience Unit := ⟨fun _ world => (.ok (), world), by simp⟩
    let c := (audience.record () [.publish lobbyScanner, .publish lobbyPrinter]).catalog
    let c' := (audience.record () [.publish lobbyPrinter, .publish lobbyScanner]).catalog
    c.devices.map (·.name) = ["Lobby"] ∧ c'.devices.map (·.name) = ["Printer"] ∧
      (c.devices.map Device.facts).Perm (c'.devices.map Device.facts) := by
  intro audience c c'
  have stored : c.findings.values = [lobbyScanner, lobbyPrinter] := by decide +kernel
  have stored' : c'.findings.values = [lobbyPrinter, lobbyScanner] := by decide +kernel
  refine ⟨by decide +kernel, by decide +kernel, ?_⟩
  refine (merged_view_exact audience () [.publish lobbyScanner, .publish lobbyPrinter]).2.2.2.2.2
    () [.publish lobbyPrinter, .publish lobbyScanner] ?_ ?_
  · intro s
    rw [stored, stored']
    simp [or_comm]
  · rw [stored]
    simp [Endpoint.OfProto, lobbyScanner, lobbyPrinter]

end ScannerDiscovery
