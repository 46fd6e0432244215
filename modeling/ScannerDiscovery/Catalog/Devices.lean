import ScannerDiscovery.Catalog.Basic

/-!
# Devices

Findings that share an identifier belong to one device. The merged view lists the devices with
everything their findings say, in order of name and identifier.

Main results:

- `uuids_nodup` : no identifier is listed twice.
- `mem_uuids_iff` : the identifiers listed are those of the findings.
-/

namespace ScannerDiscovery

/-- A device assembled from all findings that share its identifier. Methods, interfaces and
endpoints are distinct and in order. -/
structure Device where
  uuid : Uuid
  name : String
  model : String
  methods : List Method
  ifindexes : List Int
  endpoints : List Endpoint
  deriving DecidableEq

namespace Device

/-- The elements of a list, each at its first occurrence. -/
def firstOccurrences {α : Type} [DecidableEq α] (xs : List α) : List α :=
  xs.foldr (fun x later => x :: later.filter (· ≠ x)) []

/-- The identifiers of findings, each at its first occurrence. -/
def uuids (findings : List Snapshot) : List Uuid :=
  firstOccurrences (findings.filterMap (·.uuid))

/-- The distinct elements of a list of numbers, in order. -/
def sortedNumbers (numbers : List Int) : List Int :=
  (numbers.mergeSort (· ≤ ·)).foldr
    (fun n larger => if larger.head? = some n then larger else n :: larger) []

/-- The name of a device's model: that of its first finding, or else the finding's name. -/
def modelOf (first : Snapshot) : String :=
  match first.model with
  | some model => if model = "" then first.name else model
  | none => first.name

/-- The device with an identifier, assembled from its findings; nothing if there are none. -/
def assemble (findings : List Snapshot) (uuid : Uuid) : Option Device :=
  let mine := findings.filter (·.uuid = some uuid)
  mine.head?.map fun first => {
    uuid
    name := first.name
    model := modelOf first
    methods := Method.all.filter fun m => mine.any (·.method = m)
    ifindexes := sortedNumbers (mine.map (·.ifindex))
    endpoints := Endpoint.sortAndDedup (mine.flatMap (·.endpoints)) }

/-- Whether one device is listed before another or is the same. -/
def le (x y : Device) : Bool :=
  let (n, m) := (Text.caseFold x.name, Text.caseFold y.name)
  if n = m then x.uuid.text ≤ y.uuid.text else n ≤ m

/-! ## Identifiers -/

/-- Nothing is lost when only first occurrences are kept, -/
@[simp]
theorem mem_firstOccurrences {α : Type} [DecidableEq α] (xs : List α) (x : α) :
    x ∈ firstOccurrences xs ↔ x ∈ xs := by
  induction xs with
  | nil => simp [firstOccurrences]
  | cons y rest ih =>
    have unfolded : firstOccurrences (y :: rest) =
        y :: (firstOccurrences rest).filter (· ≠ y) := rfl
    rw [unfolded, List.mem_cons, List.mem_filter, ih, List.mem_cons]
    by_cases h : x = y <;> simp [h]

/-- and each of them is kept once. -/
theorem nodup_firstOccurrences {α : Type} [DecidableEq α] (xs : List α) :
    (firstOccurrences xs).Nodup := by
  induction xs with
  | nil => exact List.nodup_nil
  | cons y rest ih => exact List.nodup_cons.2 ⟨by simp, ih.sublist List.filter_sublist⟩

/-- The identifiers listed are those of the findings. -/
theorem mem_uuids_iff (findings : List Snapshot) (uuid : Uuid) :
    uuid ∈ uuids findings ↔ ∃ s ∈ findings, s.uuid = some uuid := by
  simp [uuids]

/-- No identifier is listed twice. -/
theorem uuids_nodup (findings : List Snapshot) : (uuids findings).Nodup :=
  nodup_firstOccurrences _

end Device

/-- All devices, in order of case-folded name and identifier. -/
def Catalog.devices (c : Catalog) : List Device :=
  ((Device.uuids c.findings.values).filterMap (Device.assemble c.findings.values)).mergeSort
    Device.le

end ScannerDiscovery
