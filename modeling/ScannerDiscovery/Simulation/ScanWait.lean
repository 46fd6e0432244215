import ScannerDiscovery.Catalog.Basic
import ScannerDiscovery.Simulation.Progress
import ScannerDiscovery.Simulation.Schedule

/-!
# Waiting for the initial scan

A catalog in virtual time, with calls scheduled that report methods done.

Main definitions:

- `ScanWait.wait` : waits until every method is done or a timeout is over.
- `ScanWait.settle` : makes the calls that are due.
-/

namespace ScannerDiscovery.Simulation

/-- A catalog, and the calls scheduled that report methods done. An alarm without a method is a
deadline. -/
structure ScanWait where
  catalog : Catalog
  schedule : Schedule Binary64 (Option Method)

namespace ScanWait

/-- A new catalog with its clock at zero. -/
def initial : ScanWait := ⟨.empty, ⟨0, []⟩⟩

/-- Schedules a call that reports a method done after a delay. -/
def reportAfter (w : ScanWait) (delay : Binary64) (m : Method) : ScanWait :=
  { w with schedule := w.schedule.arm delay (some m) }

/-- Lets the next alarm ring that is due by a limit, and says whether it was a deadline. -/
def ringBy? (limit : Option Binary64) (w : ScanWait) : Option (Bool × ScanWait) :=
  (w.schedule.ring? limit).map fun
    | (some m, schedule) => (false, ⟨w.catalog.scanDone m, schedule⟩)
    | (none, schedule) => (true, { w with schedule })

/-- Makes the calls that are due. -/
def settle (w : ScanWait) : ScanWait :=
  keepOn (fun w => (ringBy? (some w.schedule.now) w).map (·.2)) w.schedule.alarms.length w

/-- Waits until every method has finished its initial scan, and says whether that was before the
timeout was over. A timeout that is over at once is not waited for at all. There is no result if
the waiting never ends. -/
def wait (w : ScanWait) (timeout : Option Binary64) : Option (Bool × ScanWait) :=
  if isOver timeout then some (false, w)
  else
    let schedule := match timeout with
      | some t => w.schedule.arm t none
      | none => w.schedule
    (ringUntil (·.catalog.isReady) (ringBy? none) (schedule.alarms.length + 1) { w with schedule }).map
      fun (result, w) => (result, { w with schedule := w.schedule.disarm Option.isNone })

end ScanWait

end ScannerDiscovery.Simulation
