import ScannerDiscovery.Mdns.Request
import ScannerDiscovery.Number.Binary64

/-!
# The multicast client

The transport that the engine drives over a network library. The library has no report that all
cached services have been seen; it is made up once a browse has seen no new service for a quiet
period. Every lookup reports its end exactly once unless it is cancelled before.

Main definitions:

- `Client.openSession`, `Client.closeSession` : a session with the network library.
- `Client.startBrowse`, `Client.stopBrowse`, `Client.onChange`, `Client.onQuiet` : browses.
- `Client.resolve`, `Client.cancelResolve`, `Client.beginLookup`, `Client.endLookup` : lookups.
-/

namespace ScannerDiscovery.Mdns

/-- A browse: its number, its service, whether it has a watcher and a quiet timer, and whether it
has reported all that was cached. -/
structure Browse where
  number : Nat
  service : Service
  isWatched : Bool := false
  isArmed : Bool := false
  hasReported : Bool := false
  deriving DecidableEq

/-- A resolve: its number, and what it looks up. -/
structure Resolve where
  number : Nat
  service : Service
  name : String
  family : Ip.Family
  deriving DecidableEq

/-- The handle of a browse. -/
def Browse.handle (browse : Nat) : Ticket :=
  .number browse

/-- The handle of a resolve. -/
def Resolve.handle (resolve : Resolve) : Ticket :=
  .lookup resolve.number resolve.name resolve.family

/-- The state of the client. Browses and resolves are numbered in the order they succeed. -/
structure Client where
  /-- The families that are looked up. -/
  ipVersion : IpVersion
  /-- The timeout of a lookup in milliseconds; none if it is no number of milliseconds. -/
  timeout : Option Int
  /-- Whether a session is open. Without one nothing is reported. -/
  isOpen : Bool := false
  /-- The open browses, in order. -/
  browses : List Browse := []
  /-- The resolves under way. -/
  resolves : List Resolve := []
  /-- The number of the next browse. -/
  nextBrowse : Nat := 0
  /-- The number of the next resolve. -/
  nextResolve : Nat := 0

/-- The client of given settings. The timeout is a whole number of milliseconds. -/
def Client.new (ipVersion : IpVersion) (resolveTimeout : Binary64) : Client :=
  { ipVersion, timeout := (resolveTimeout * 1000).truncate? }

namespace Client

open Routine (get modify raise)

/-- A routine of the client. -/
abbrev Work (α : Type) := Routine requests Client Fault α

/-- Pauses for the answer to a request. -/
def ask (request : Request) : Work request.Answer :=
  Routine.ask (I := requests) request

/-- Fails with a transport fault. -/
def refuse {α : Type} (operation cause : String) : Work α :=
  raise (.transport ⟨operation, some cause⟩)

/-- Turns a fault of the network library into a transport fault. An interrupt is passed on. -/
def accepted (operation : String) : Except Fault Unit → Work Unit
  | .ok () => pure ()
  | .error .interrupted => raise .interrupted
  | .error fault => refuse operation fault.message

/-- Passes on a fault. -/
def passed : Except Fault Unit → Work Unit
  | .ok () => pure ()
  | .error fault => raise fault

/-! ## Browses -/

/-- An open browse. -/
def browse? (c : Client) (number : Nat) : Option Browse :=
  c.browses.find? (·.number = number)

/-- Changes an open browse. -/
def modifyBrowse (number : Nat) (change : Browse → Browse) : Work Unit :=
  modify fun c => { c with
    browses := c.browses.map fun b => if b.number = number then change b else b }

/-- Starts the quiet period of an open browse afresh, unless it has reported. -/
def armQuiet (number : Nat) : Work Unit := do
  match (← get).browse? number with
  | none => pure ()
  | some browse =>
    if !browse.hasReported then
      if browse.isArmed then ask (.disarmQuiet number)
      modifyBrowse number fun b => { b with isArmed := true }
      ask (.armQuiet number)

/-- Drops a browse with its quiet timer. -/
def dropBrowse (browse : Browse) : Work Unit := do
  modify fun c => { c with browses := c.browses.filter (·.number ≠ browse.number) }
  if browse.isArmed then ask (.disarmQuiet browse.number)

/-- Takes back a browse whose watcher could not be opened. The timer that a watcher may have armed
by then would find nothing to report; it goes as well, since the number is used again. -/
def withdrawBrowse (number : Nat) : Work Unit := do
  match (← get).browse? number with
  | none => pure ()
  | some browse =>
    dropBrowse browse
    modify fun c => { c with nextBrowse := number }

/-- Starts browsing for a service. The browse is open before its watcher is, which reports what is
cached while it is being opened. -/
def startBrowse (service : Service) : Work Nat := do
  let operation := "browse " ++ service.text
  let c ← get
  if !c.isOpen then refuse operation "client not running"
  else
    let number := c.nextBrowse
    modify fun c => { c with
      browses := c.browses ++ [{ number, service }], nextBrowse := number + 1 }
    match ← ask (.openWatcher number service) with
    | .ok () =>
      modifyBrowse number fun b => { b with isWatched := true }
      armQuiet number
      return number
    | .error .interrupted => raise .interrupted
    | .error fault =>
      withdrawBrowse number
      refuse operation fault.message

/-- Stops a browse, if it is open. -/
def stopBrowse (number : Nat) : Work Unit := do
  match (← get).browse? number with
  | none => pure ()
  | some browse =>
    dropBrowse browse
    if browse.isWatched then passed (← ask (.closeWatcher number))

/-- Reports what a watcher has seen. Only new instances start the quiet period afresh. -/
def onChange (number : Nat) (fullName : String) (change : Change) : Work Unit := do
  let c ← get
  match c.browse? number with
  | none => pure ()
  | some browse =>
    let name := some (instanceName fullName browse.service)
    if c.isOpen then
      match change with
      | .added =>
        ask (.report (.browse {
          service := browse.service, kind := .new, name
          ifindex := unspecifiedInterface, families := c.ipVersion.families }))
        armQuiet number
      | .removed =>
        ask (.report (.browse {
          service := browse.service, kind := .remove, name, ifindex := unspecifiedInterface }))
      | .updated => pure ()

/-- Reports that a browse has seen everything, at the end of its quiet period. -/
def onQuiet (number : Nat) : Work Unit := do
  let c ← get
  match c.browse? number with
  | none => pure ()
  | some browse =>
    if c.isOpen then
      modifyBrowse number fun b => { b with hasReported := true }
      ask (.report (.browse { service := browse.service, kind := .allForNow }))

/-! ## Resolves -/

/-- A resolve under way. -/
def resolve? (c : Client) (number : Nat) : Option Resolve :=
  c.resolves.find? (·.number = number)

/-- Starts resolving an instance for one address family. -/
def resolve (service : Service) (name : String) (family : Ip.Family) : Work Resolve := do
  let operation := "resolve " ++ name
  let c ← get
  if !c.isOpen then refuse operation "client not running"
  else if family ∉ c.ipVersion.families then refuse operation (family.text ++ " not enabled")
  else
    let resolve : Resolve := { number := c.nextResolve, service, name, family }
    modify fun c => { c with
      resolves := c.resolves ++ [resolve], nextResolve := c.nextResolve + 1 }
    ask (.startTask resolve.number)
    return resolve

/-- Cancels a resolve, if it is under way. -/
def cancelResolve (number : Nat) : Work Unit := do
  if ((← get).resolve? number).isSome then
    modify fun c => { c with resolves := c.resolves.filter (·.number ≠ number) }
    ask (.cancelTask number)

/-- What a resolve reports about an answer: the address picked, if there is one and the port is
not zero. -/
def resolvedBy (resolve : Resolve) (answer : Answer) : ResolveEvent :=
  let op := resolve.handle
  match pickAddress answer.v4 answer.v6 resolve.family with
  | .ok (some address, ifindex) =>
    match answer.port with
    | some port =>
      if port = 0 then { op, kind := .failure }
      else { op, kind := .found, address := some address, port
             txt := Txt.decode answer.properties, ifindex }
    | none => { op, kind := .failure }
  | _ => { op, kind := .failure }

/-- Reports the end of a lookup. Lookups that have been cancelled report nothing. -/
def endLookup (number : Nat) (result : LookupResult) : Work Unit := do
  match (← get).resolve? number with
  | none => pure ()
  | some resolve =>
    modify fun c => { c with resolves := c.resolves.filter (·.number ≠ number) }
    let event := match result with
      | .answered answer => resolvedBy resolve answer
      | _ => { op := resolve.handle, kind := .failure }
    if (← get).isOpen then ask (.report (.resolve event))

/-- The first step of a resolve's task: looks the instance up. Without a session it does
nothing; without a usable timeout the lookup fails. -/
def beginLookup (number : Nat) : Work Unit := do
  let c ← get
  match c.resolve? number with
  | none => pure ()
  | some resolve =>
    if c.isOpen then
      match c.timeout with
      | some timeout =>
        let name := fullName resolve.name resolve.service
        match ← ask (.lookUp number resolve.service name timeout) with
        | some result => endLookup number result
        | none => pure ()
      | none => endLookup number (.failed "timeout is not a number")

/-! ## Sessions -/

/-- Opens a session with the network library. -/
def openSession : Work Unit := do
  let c ← get
  if c.isOpen then refuse "start_client" "client already running"
  else
    accepted "start_client" (← ask (.openClient c.ipVersion))
    modify fun c => { c with isOpen := true }
    ask (.report (.client .running))

/-- Stops browses one after another. -/
def stopEach : List Browse → Work Unit
  | [] => pure ()
  | browse :: rest => do
    stopBrowse browse.number
    stopEach rest

/-- Cancels resolves one after another. -/
def cancelEach : List Resolve → Work Unit
  | [] => pure ()
  | resolve :: rest => do
    cancelResolve resolve.number
    cancelEach rest

/-- Closes the session with everything that belongs to it. -/
def closeSession : Work Unit := do
  stopEach (← get).browses
  cancelEach (← get).resolves
  if (← get).isOpen then
    modify fun c => { c with isOpen := false }
    passed (← ask .closeClient)

/-! ## Handles -/

/-- The number of the browse that a handle stands for. -/
def browseNumber? : Ticket → Option Nat
  | .number n => if 0 ≤ n then some n.toNat else none
  | _ => none

/-- The number of the resolve that a handle stands for. -/
def resolveNumber? : Ticket → Option Nat
  | .lookup n _ _ => some n
  | _ => none

/-- The handle of a resolve stands for its number. -/
theorem resolveNumber?_handle (resolve : Resolve) :
    resolveNumber? resolve.handle = some resolve.number := rfl

end Client

/-- The name of the transport. -/
def transportName : String := "zeroconf"

end ScannerDiscovery.Mdns
