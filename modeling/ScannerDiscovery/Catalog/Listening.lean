import ScannerDiscovery.Catalog.Basic
import ScannerDiscovery.Fault
import ScannerDiscovery.Routine

/-!
# Listening to the catalog

Whoever wants to know what is in the catalog registers as a listener and is called at each
change. The listeners are called one after another, when the change has been made. A listener may
fail; the others are called all the same.

Main definitions:

- `Catalog.tellEach` : calls listeners one after another.
- `Catalog.publishing`, `Catalog.withdrawing` : updates with the calls that follow them.
- `Command` : everything that a catalog can be told to do with its findings and listeners.
-/

namespace ScannerDiscovery

namespace Catalog

/-- The calls of listeners, and how each may end. -/
abbrev hearings : Interface := ⟨CatalogCall, fun _ => Except Fault Unit⟩

/-- A routine of the catalog. -/
abbrev Work (α : Type) := Routine hearings Catalog Fault α

/-- Passes over what a listener has failed with, unless the program is to be ended. -/
def passOver : Except Fault Unit → Work Unit
  | .error .interrupted => Routine.raise .interrupted
  | _ => pure ()

/-- Tells listeners of a change. What one of them fails with is its own affair. -/
def tellEach (action : CatalogAction) (snapshot : Snapshot) : List String → Work Unit
  | [] => pure ()
  | listener :: rest => do
    passOver (← Routine.ask (I := hearings) ⟨listener, action, snapshot⟩)
    tellEach action snapshot rest

/-- Publishes a finding and tells the listeners. -/
def publishing (snapshot : Snapshot) : Work Unit := do
  Routine.modify fun c => { c with findings := c.findings.insert snapshot.key snapshot }
  tellEach .publish snapshot (← Routine.get).listeners

/-- Withdraws a finding and tells the listeners. An unknown finding is ignored. -/
def withdrawing (snapshot : Snapshot) : Work Unit := do
  if ((← Routine.get).findings.get? snapshot.key).isSome then
    Routine.modify fun c => { c with findings := c.findings.erase snapshot.key }
    tellEach .withdraw snapshot (← Routine.get).listeners

end Catalog

/-- What a catalog can be told to do with its findings and listeners. -/
inductive Command
  | publish (snapshot : Snapshot)
  | withdraw (snapshot : Snapshot)
  | addListener (name : String)
  deriving DecidableEq

/-- Does what a command says. -/
def Command.work : Command → Catalog.Work Unit
  | publish snapshot => Catalog.publishing snapshot
  | withdraw snapshot => Catalog.withdrawing snapshot
  | addListener name => Routine.modify fun c => c.addListener name

end ScannerDiscovery
