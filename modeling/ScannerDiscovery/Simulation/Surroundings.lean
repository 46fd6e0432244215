import ScannerDiscovery.Engine.Lifecycle
import ScannerDiscovery.Simulation.Network
import ScannerDiscovery.Simulation.ScriptedTransport

/-!
# The surroundings of a simulated engine

Everything that the engine asks for is done here: transport operations go to the transport that
carries the engine, snapshots to the catalog, timers to the loop, and answers to those who asked.

Main definition:

- `Surroundings.answer` : answers a request of the engine.
-/

namespace ScannerDiscovery.Simulation

/-- The transport that carries an engine: one that follows a script, or the multicast client. -/
inductive Carrier
  | scripted (script : ScriptedTransport)
  | multicast (client : Mdns.Client)

/-- What surrounds an engine. The catalog can be made to refuse updates; replies to questions are
kept until they are collected. -/
structure Surroundings where
  catalog : Catalog := .empty
  refusesPublish : Bool := false
  refusesWithdraw : Bool := false
  carrier : Carrier
  site : Site
  replies : List (Nat × Except Fault Reply) := []

namespace Surroundings

/-- The surroundings with more actions in their trace. -/
def note (w : Surroundings) (lines : List Line) : Surroundings :=
  { w with site := { w.site with trace := w.site.trace ++ lines } }

/-- The surroundings with another loop. -/
def withLoop (w : Surroundings) (change : Loop → Loop) : Surroundings :=
  { w with site := { w.site with loop := change w.site.loop } }

/-- Runs a routine of the multicast client and hands its reports to the engine. -/
def perform {α : Type} (w : Surroundings) (client : Mdns.Client) (engine : Engine)
    (work : Mdns.Client.Work α) : Except Fault α × Engine × Surroundings :=
  let (result, client, site) := w.site.perform client work
  (result, engine.deliver site.outbox,
    { w with carrier := .multicast client, site := { site with outbox := [] } })

/-! ## Transport operations -/

/-- Starts the transport's client. -/
def startClient (w : Surroundings) (engine : Engine) :
    Except Fault Unit × Engine × Surroundings :=
  match w.carrier with
  | .scripted script =>
    let (result, notices, script) := script.startClient
    (result, engine.deliver notices,
      { w with carrier := .scripted script }.note [.startClient])
  | .multicast client => w.perform client engine Mdns.Client.openSession

/-- Stops the transport's client. -/
def stopClient (w : Surroundings) (engine : Engine) :
    Except Fault Unit × Engine × Surroundings :=
  match w.carrier with
  | .scripted script => (script.stopClient, engine, w.note [.stopClient])
  | .multicast client => w.perform client engine Mdns.Client.closeSession

/-- Starts browsing for a service. -/
def startBrowse (w : Surroundings) (engine : Engine) (service : Service) :
    Except Fault Ticket × Engine × Surroundings :=
  match w.carrier with
  | .scripted script => (script.startBrowse service, engine, w.note [.startBrowse service])
  | .multicast client =>
    let (result, engine, w) := w.perform client engine (Mdns.Client.startBrowse service)
    (result.map Mdns.Browse.handle, engine, w)

/-- Stops a browse. -/
def stopBrowse (w : Surroundings) (engine : Engine) (handle : Ticket) :
    Except Fault Unit × Engine × Surroundings :=
  match w.carrier with
  | .scripted script => (script.stopBrowse, engine, w.note [.stopBrowse handle])
  | .multicast client =>
    match Mdns.Client.browseNumber? handle with
    | some browse => w.perform client engine (Mdns.Client.stopBrowse browse)
    | none => (.ok (), engine, w)

/-- Starts resolving an instance. -/
def resolve (w : Surroundings) (engine : Engine) (service : Service) (name : String)
    (ifindex : Int) (family : Ip.Family) : Except Fault Ticket × Engine × Surroundings :=
  match w.carrier with
  | .scripted script =>
    let (result, script) := script.resolve name
    let w := { w with carrier := .scripted script }
    match result with
    | .ok op => (.ok op, engine, w.note [.resolve op service name ifindex family])
    | .error fault => (.error fault, engine, w)
  | .multicast client =>
    let (result, engine, w) := w.perform client engine (Mdns.Client.resolve service name family)
    (result.map Mdns.Resolve.handle, engine, w)

/-- Cancels a resolve. -/
def cancelResolve (w : Surroundings) (engine : Engine) (op : Ticket) : Engine × Surroundings :=
  match w.carrier with
  | .scripted _ => (engine, w.note [.cancelResolve op])
  | .multicast client =>
    match Mdns.Client.resolveNumber? op with
    | some number => (w.perform client engine (Mdns.Client.cancelResolve number)).2
    | none => (engine, w)

/-! ## The catalog -/

/-- Publishes a snapshot, unless the catalog refuses. -/
def publish (w : Surroundings) (snapshot : Snapshot) : Except Fault Unit × Surroundings :=
  let w := w.note [.publish snapshot]
  if w.refusesPublish then (.error (.foreign "publish refused"), w)
  else
    let (catalog, calls) := w.catalog.publish snapshot
    (.ok (), { w with catalog }.note (calls.map Line.catalogHeard))

/-- Withdraws a snapshot, unless the catalog refuses. -/
def withdraw (w : Surroundings) (snapshot : Snapshot) : Except Fault Unit × Surroundings :=
  let w := w.note [.withdraw snapshot]
  if w.refusesWithdraw then (.error (.foreign "withdraw refused"), w)
  else
    let (catalog, calls) := w.catalog.withdraw snapshot
    (.ok (), { w with catalog }.note (calls.map Line.catalogHeard))

/-- Takes note that a method has finished its initial scan. -/
def scanDone (w : Surroundings) (m : Method) : Surroundings :=
  { w with catalog := w.catalog.scanDone m }.note [.scanDone m]

/-! ## All requests -/

/-- Answers a request of the engine. -/
def answer (request : Request) (engine : Engine) (w : Surroundings) :
    request.Answer × Engine × Surroundings :=
  match request with
  | .startClient => w.startClient engine
  | .stopClient => w.stopClient engine
  | .startBrowse service => w.startBrowse engine service
  | .stopBrowse handle => w.stopBrowse engine handle
  | .resolve service name ifindex family => w.resolve engine service name ifindex family
  | .cancelResolve op => ((), w.cancelResolve engine op)
  | .publish snapshot =>
    let (result, w) := w.publish snapshot
    (result, engine, w)
  | .withdraw snapshot =>
    let (result, w) := w.withdraw snapshot
    (result, engine, w)
  | .scanDone m => ((), engine, w.scanDone m)
  | .hear listener ifindex address => (.ok (), engine, w.note [.heard listener ifindex address])
  | .armRestart generation =>
    ((), engine, w.withLoop (·.enqueue (.sleepUntilRestart generation)))
  | .disarmRestart generation => ((), engine, w.withLoop (·.cancelRestart generation))
  | .settle ticket outcome => ((), engine, { w with replies := w.replies ++ [(ticket, outcome)] })

end Surroundings

end ScannerDiscovery.Simulation
