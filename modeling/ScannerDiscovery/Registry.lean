import ScannerDiscovery.Finding

/-!
# The registry of findings

The registry numbers findings in order of creation and keeps the live ones apart from those
that have been removed. At most one live finding exists for a key.

Main results:

- `find?_create` : a finding created for a new key is found under it.
-/

namespace ScannerDiscovery

/-- Live findings in order of creation, and those that have been removed. -/
structure Registry where
  live : List Finding
  removed : List Finding
  deriving DecidableEq

namespace Registry

/-- The registry before the first finding. -/
def empty : Registry := ⟨[], []⟩

/-- The number of findings ever made. -/
def made (r : Registry) : Nat :=
  r.live.length + r.removed.length

/-- The live finding for a key. -/
def find? (r : Registry) (key : FindingKey) : Option Finding :=
  r.live.find? fun f => f.key == key

/-- The finding with a number, live or removed. -/
def get? (r : Registry) (number : Nat) : Option Finding :=
  (r.live ++ r.removed).find? fun f => f.number == number

/-- The registry with a new live finding, and that finding. -/
def create (r : Registry) (service : Service) (ifindex : Int) (name : String)
    (inInitialScan : Bool) : Registry × Finding :=
  let f : Finding := { number := r.made, service, ifindex, name, inInitialScan }
  ({ r with live := r.live ++ [f] }, f)

/-- The registry with one finding changed, live or removed. -/
def modify (r : Registry) (number : Nat) (change : Finding → Finding) : Registry :=
  let update := fun f : Finding => if f.number = number then change f else f
  ⟨r.live.map update, r.removed.map update⟩

/-- The registry with a live finding removed, and that finding as it was. A removed finding is
in its last stage and has no outstanding resolves. -/
def remove (r : Registry) (number : Nat) : Option (Registry × Finding) :=
  (r.live.find? fun f => f.number == number).map fun f =>
    ({ live := r.live.filter (·.number ≠ number)
       removed := { f with state := .deleted, tracker := .empty } :: r.removed }, f)

/-- The published findings, in order of creation. -/
def published (r : Registry) : List Finding :=
  r.live.filter (·.isPublished)

/-- All findings ever made, in order of creation. -/
def all (r : Registry) : List Finding :=
  (List.range r.made).filterMap r.get?

/-! ## Look-up after an operation -/

/-- A finding created for a new key is found under it. -/
theorem find?_create {r : Registry} {service : Service} {ifindex : Int} {name : String}
    (h : r.find? (.of service ifindex name) = none) (inInitialScan : Bool) :
    (r.create service ifindex name inInitialScan).1.find? (.of service ifindex name) =
      some (r.create service ifindex name inInitialScan).2 := by
  unfold find? at h
  simp only [find?, create, List.find?_append, h, Option.none_or]
  simp [Finding.key]

end Registry

end ScannerDiscovery
