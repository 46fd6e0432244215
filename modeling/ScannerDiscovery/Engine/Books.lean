import ScannerDiscovery.Engine.Request
import ScannerDiscovery.Gate
import ScannerDiscovery.Registry

/-!
# The books of discovery

The registry of findings and the gate of the initial scan are kept together: a finding created
in the initial phase of its service is an outstanding task of its method until it is finalized
or deleted.

Main definitions:

- `Books.lower`, `Books.allForNow`, `Books.fireAll` : the gate, with the catalog told of methods
  that are done.
- `Books.getOrCreate`, `Books.delete`, `Books.deleteAll` : the registry, with the catalog told
  of published findings that go away.
-/

namespace ScannerDiscovery

/-- The registry of findings and the gate of the initial scan. -/
structure Books where
  gate : Gate
  registry : Registry
  deriving DecidableEq

/-- The books before discovery. -/
def Books.initial : Books := ⟨.initial, .empty⟩

/-- A state that contains the books. -/
class KeepsBooks (σ : Type) where
  books : σ → Books
  withBooks : σ → Books → σ

instance : KeepsBooks Books where
  books := id
  withBooks _ books := books

namespace Books

variable {σ : Type} [KeepsBooks σ]

/-- A routine over a state with books, with the faults of discovery. -/
abbrev Work (σ α : Type) := Routine requests σ Fault α

/-- The books. -/
def get : Work σ Books := do
  return KeepsBooks.books (← Routine.get)

/-- Changes the books. -/
def modify (change : Books → Books) : Work σ Unit :=
  Routine.modify fun state => KeepsBooks.withBooks state (change (KeepsBooks.books state))

/-- Replaces the gate. -/
def setGate (gate : Gate) : Work σ Unit :=
  modify fun books => { books with gate }

/-- Replaces the registry. -/
def setRegistry (registry : Registry) : Work σ Unit :=
  modify fun books => { books with registry }

/-- Changes one finding. -/
def modifyFinding (number : Nat) (change : Finding → Finding) : Work σ Unit :=
  modify fun books => { books with registry := books.registry.modify number change }

/-! ## The gate -/

/-- Tells the catalog that methods are done. -/
def report : List Method → Work σ Unit
  | [] => pure ()
  | m :: rest => do
    Routine.ask (I := requests) (.scanDone m)
    report rest

/-- One outstanding task less. A count below zero would be a violation. -/
def lower (m : Method) : Work σ Unit := do
  match (← get).gate.dec m with
  | none => Routine.raise (.invariant (.counterUnderflow m))
  | some (gate, fired) =>
    setGate gate
    report fired

/-- Takes note that a service has reported all it had cached. -/
def allForNow (s : Service) : Work σ Unit := do
  let (gate, fired) := (← get).gate.allForNow s
  setGate gate
  match fired with
  | none => Routine.raise (.invariant (.counterUnderflow s.method))
  | some fired => report fired

/-- Ends all initial phases and reports every method done that has not been reported before. -/
def fireAll : Work σ Unit := do
  let (gate, fired) := (← get).gate.fireAll
  setGate gate
  report fired

/-! ## The registry -/

/-- The live finding of an instance, created if there is none, and whether it was. A finding
created in the initial phase of its service is counted. -/
def getOrCreate (books : Books) (service : Service) (ifindex : Int) (name : String) :
    Books × Finding × Bool :=
  match books.registry.find? (.of service ifindex name) with
  | some f => (books, f, false)
  | none =>
    let counted := books.gate.inInitialScan service
    let (registry, f) := books.registry.create service ifindex name counted
    let gate := if counted then books.gate.inc service.method else books.gate
    (⟨gate, registry⟩, f, true)

/-- Takes a finding out of the initial scan, if it is counted there. -/
def uncount (f : Finding) : Work σ Unit := do
  if f.inInitialScan then
    modifyFinding f.number fun f => { f with inInitialScan := false }
    lower f.method

/-- Withdraws a finding from the catalog if it is published. -/
def unpublish (f : Finding) : Work σ Unit := do
  if f.isPublished then
    Routine.ofExcept (← Routine.ask (I := requests) (.withdraw f.snapshot))
    modifyFinding f.number fun f => { f with isPublished := false }

/-- Deletes a finding: it is withdrawn, removed and no longer counted, and its outstanding
resolves are released. A finding that is not live is only withdrawn. -/
def delete (release : Finding → List Ticket → Work σ Unit) (number : Nat) : Work σ Unit := do
  match (← get).registry.get? number with
  | none => pure ()
  | some f =>
    unpublish f
    match (← get).registry.remove number with
    | none => pure ()
    | some (registry, f) =>
      setRegistry registry
      uncount f
      release f f.tracker.pending

/-- Deletes findings one after another. -/
def deleteEach (release : Finding → List Ticket → Work σ Unit) : List Nat → Work σ Unit
  | [] => pure ()
  | number :: rest => do
    delete release number
    deleteEach release rest

/-- Deletes every live finding, in order of creation. -/
def deleteAll (release : Finding → List Ticket → Work σ Unit) : Work σ Unit := do
  deleteEach release ((← get).registry.live.map (·.number))

end Books

end ScannerDiscovery
