import ScannerDiscovery.Endpoint
import ScannerDiscovery.Ip.AddressSet
import ScannerDiscovery.Text.CaseFold
import ScannerDiscovery.Uuid.Derived

/-!
# Findings

A finding is one service instance, seen on one interface under one service type. It collects
what its resolves bring to light until all of them are completed.

Main definitions:

- `Tracker` : the outstanding resolves of a finding.
- `FindingKey` : what tells findings apart; the case of the instance name does not.
- `Finding`, `Snapshot` : the working record and the copy that the catalog gets.
-/

namespace ScannerDiscovery

/-! ## Outstanding resolves -/

/-- A handle that a transport gives out for an operation. The handle of a lookup says what is
looked up. -/
inductive Ticket
  | number (n : Int)
  | label (text : String)
  | lookup (n : Nat) (name : String) (family : Ip.Family)
  deriving DecidableEq

/-- The outstanding resolves of a finding, in the order they were begun. -/
structure Tracker where
  pending : List Ticket
  deriving DecidableEq

namespace Tracker

/-- The tracker without outstanding resolves. -/
def empty : Tracker := ⟨[]⟩

/-- The tracker with a resolve outstanding. -/
def begin (t : Tracker) (op : Ticket) : Tracker :=
  if op ∈ t.pending then t else ⟨t.pending ++ [op]⟩

/-- The tracker without a resolve, whether it was outstanding, and whether none is left. -/
def complete (t : Tracker) (op : Ticket) : Tracker × Bool × Bool :=
  let rest := t.pending.erase op
  (⟨rest⟩, op ∈ t.pending, rest.isEmpty)

/-- The tracker without outstanding resolves, and those dropped. -/
def clear (t : Tracker) : Tracker × List Ticket :=
  (empty, t.pending)

end Tracker

/-! ## Keys -/

/-- What tells findings apart: service type, interface, and case-folded instance name. -/
structure FindingKey where
  service : Service
  ifindex : Int
  name : String
  deriving DecidableEq

/-- The key of an instance. -/
def FindingKey.of (service : Service) (ifindex : Int) (name : String) : FindingKey :=
  ⟨service, ifindex, Text.caseFold name⟩

/-- The interface of events whose interface is unknown. -/
def unspecifiedInterface : Int := 0

/-! ## Findings -/

/-- The stages of a finding's life. -/
inductive FindingState
  | discovering
  | finalizing
  | published
  | unpublished
  | deleted
  deriving DecidableEq, Repr

/-- The name of a stage. -/
def FindingState.text : FindingState → String
  | discovering => "discovering"
  | finalizing => "finalizing"
  | published => "published"
  | unpublished => "unpublished"
  | deleted => "deleted"

/-- The stage with a given name. -/
def FindingState.ofText? (name : String) : Option FindingState :=
  [discovering, finalizing, published, unpublished, deleted].find? fun s => s.text == name

/-- A copy of a finding for the catalog. -/
structure Snapshot where
  service : Service
  ifindex : Int
  name : String
  model : Option String
  uuid : Option Uuid
  addresses : List Ip.Address
  endpoints : List Endpoint
  deriving DecidableEq

/-- The method that a snapshot was discovered by. -/
def Snapshot.method (s : Snapshot) : Method :=
  s.service.method

/-- The key of a snapshot. -/
def Snapshot.key (s : Snapshot) : FindingKey :=
  .of s.service s.ifindex s.name

/-- A finding. Findings are numbered in order of creation. The name is Unicode text, like that of
the report which the finding was created for. -/
structure Finding where
  number : Nat
  service : Service
  ifindex : Int
  name : String
  inInitialScan : Bool
  model : Option String := none
  uuid : Option Uuid := none
  addresses : Ip.AddressSet := .empty
  endpoints : List Endpoint := []
  isPublishable : Bool := false
  isPublished : Bool := false
  state : FindingState := .discovering
  tracker : Tracker := .empty
  deriving DecidableEq

namespace Finding

/-- The method that a finding belongs to. -/
def method (f : Finding) : Method :=
  f.service.method

/-- The key of a finding. -/
def key (f : Finding) : FindingKey :=
  .of f.service f.ifindex f.name

/-- The copy of a finding for the catalog. -/
def snapshot (f : Finding) : Snapshot where
  service := f.service
  ifindex := f.ifindex
  name := f.name
  model := f.model
  uuid := f.uuid
  addresses := f.addresses.toList
  endpoints := f.endpoints

/-- A snapshot has the key of the finding that it was taken of. -/
@[simp]
theorem key_snapshot (f : Finding) : f.snapshot.key = f.key := rfl

end Finding

end ScannerDiscovery
