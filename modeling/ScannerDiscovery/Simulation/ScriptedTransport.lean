import ScannerDiscovery.Engine.Event

/-!
# A transport that follows a script

A stand-in for the network under the engine: it hands out handles, reports one client state for
each start, and fails where its script says so.

Main definitions:

- `ScriptedTransport.startClient`, `ScriptedTransport.stopClient` : the client.
- `ScriptedTransport.startBrowse`, `ScriptedTransport.stopBrowse` : browses.
- `ScriptedTransport.resolve` : resolves.
-/

namespace ScannerDiscovery.Simulation

/-- How an operation fails: as transports do, or in a way of its own. -/
inductive FailureKind
  | transport
  | other
  deriving DecidableEq, Repr

/-- The script: which operations fail and how, what state a started client reports, and the
handle of the next resolve. -/
structure ScriptedTransport where
  failClient : Option FailureKind := none
  failStopClient : Option FailureKind := none
  failBrowse : List String := []
  failStopBrowse : Option FailureKind := none
  failResolve : Option FailureKind := none
  failResolveAfter : Int := 0
  report : Option ClientState := some .running
  nextResolve : Int := 1
  starts : Nat := 0

namespace ScriptedTransport

/-- The fault of an operation that fails. -/
def fault (operation : String) (cause : Option String) : FailureKind → Fault
  | .transport => .transport ⟨operation, cause⟩
  | .other => .foreign (operation ++ " broke")

/-- The outcome of an operation that fails if the script says so. -/
def outcome (kind : Option FailureKind) (operation : String) (cause : Option String := none) :
    Except Fault Unit :=
  match kind with
  | none => .ok ()
  | some kind => .error (fault operation cause kind)

/-- Starts the client, and gives what it reports. Failed starts are counted too. -/
def startClient (t : ScriptedTransport) :
    Except Fault Unit × List Notice × ScriptedTransport :=
  let result := outcome t.failClient "start_client" (some "no memory")
  (result, if result.isOk then t.report.toList.map Notice.client else [],
    { t with starts := t.starts + 1 })

/-- The end of stopping the client. -/
def stopClient (t : ScriptedTransport) : Except Fault Unit :=
  outcome t.failStopClient "stop_client"

/-- The handle of a browse: its service and the number of client starts. -/
def browseHandle (t : ScriptedTransport) (service : Service) : Ticket :=
  .label ("browse:" ++ service.text ++ ":" ++ toString t.starts)

/-- Starts browsing for a service. -/
def startBrowse (t : ScriptedTransport) (service : Service) : Except Fault Ticket :=
  if t.failBrowse.contains service.text then
    .error (.transport ⟨"browse " ++ service.text, none⟩)
  else .ok (t.browseHandle service)

/-- The end of stopping a browse. -/
def stopBrowse (t : ScriptedTransport) : Except Fault Unit :=
  outcome t.failStopBrowse "stop_browse"

/-- Starts resolving an instance. A number of calls may succeed before the script's failure. -/
def resolve (t : ScriptedTransport) (name : String) : Except Fault Ticket × ScriptedTransport :=
  let postponed := decide (0 < t.failResolveAfter)
  let t := if postponed then { t with failResolveAfter := t.failResolveAfter - 1 } else t
  match outcome (if postponed then none else t.failResolve) ("resolve " ++ name) with
  | .error fault => (.error fault, t)
  | .ok () => (.ok (.number t.nextResolve), { t with nextResolve := t.nextResolve + 1 })

end ScriptedTransport

end ScannerDiscovery.Simulation
