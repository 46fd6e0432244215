import ScannerDiscovery.Finding
import ScannerDiscovery.OrderedMap

/-!
# The device catalog

The catalog keeps the latest snapshot of every published finding, tells its listeners of each
change, and knows which methods have finished their initial scan.

Main results:

- `findings_publish`, `findings_withdraw` : the snapshots after an update.
- `isReady_iff` : the catalog is ready when every method is done.
-/

namespace ScannerDiscovery

/-- What happens to a snapshot in the catalog. -/
inductive CatalogAction
  | publish
  | withdraw
  deriving DecidableEq, Repr

/-- The name of an action. -/
def CatalogAction.text : CatalogAction → String
  | publish => "publish"
  | withdraw => "withdraw"

/-- A call of a listener. -/
structure CatalogCall where
  listener : String
  action : CatalogAction
  snapshot : Snapshot
  deriving DecidableEq

/-- Published snapshots by key, methods that are done, and listeners in order of
registration. -/
structure Catalog where
  findings : OrderedMap FindingKey Snapshot
  reported : PerMethod Bool
  listeners : List String

namespace Catalog

/-- The catalog before the first finding. -/
def empty : Catalog := ⟨.empty, .const false, []⟩

/-- The calls that tell all listeners of a change. A listener that fails is passed over, so the
calls do not depend on one another. -/
def calls (c : Catalog) (action : CatalogAction) (snapshot : Snapshot) : List CatalogCall :=
  c.listeners.map fun listener => ⟨listener, action, snapshot⟩

/-- The catalog with a finding published, and the calls to make. A finding that is present is
replaced in its place. -/
def publish (c : Catalog) (snapshot : Snapshot) : Catalog × List CatalogCall :=
  ({ c with findings := c.findings.insert snapshot.key snapshot }, c.calls .publish snapshot)

/-- The catalog with a finding withdrawn, and the calls to make. An unknown finding is
ignored. -/
def withdraw (c : Catalog) (snapshot : Snapshot) : Catalog × List CatalogCall :=
  if (c.findings.get? snapshot.key).isSome then
    ({ c with findings := c.findings.erase snapshot.key }, c.calls .withdraw snapshot)
  else (c, [])

/-- The catalog after the initial scan of a method. -/
def scanDone (c : Catalog) (m : Method) : Catalog :=
  { c with reported := c.reported.set m true }

/-- Whether a method has finished its initial scan. -/
def isDone (c : Catalog) (m : Method) : Bool :=
  c.reported.get m

/-- Whether every method has finished its initial scan. -/
def isReady (c : Catalog) : Bool :=
  Method.all.all c.isDone

/-- The catalog with one more listener. -/
def addListener (c : Catalog) (listener : String) : Catalog :=
  { c with listeners := c.listeners ++ [listener] }

/-! ## Views -/

/-- A published snapshot is stored under its own key. -/
theorem findings_publish (c : Catalog) (snapshot : Snapshot) :
    (c.publish snapshot).1.findings = c.findings.insert snapshot.key snapshot := rfl

/-- A withdrawn snapshot is no longer stored, and all others are. -/
theorem findings_withdraw (c : Catalog) (snapshot : Snapshot) (key : FindingKey) :
    (c.withdraw snapshot).1.findings.get? key =
      if key = snapshot.key then none else c.findings.get? key := by
  unfold withdraw
  split
  · exact OrderedMap.get?_erase _ _ _
  · rename_i h
    split
    · rename_i hk
      simpa [hk] using h
    · rfl

/-- The catalog is ready when every method is done. -/
theorem isReady_iff (c : Catalog) : c.isReady = true ↔ ∀ m, c.isDone m = true := by
  simp only [isReady, List.all_eq_true]
  exact ⟨fun h m => h m (Method.mem_all m), fun h m _ => h m⟩

end Catalog

end ScannerDiscovery
