import ScannerDiscovery.Engine.Client

/-!
# Handling events

How the engine handles each kind of event: new instances are resolved for every family, resolve
results are collected in their finding, and a finding without outstanding resolves is finalized
and published.

Main definitions:

- `Engine.onBrowse`, `Engine.onResolve`, `Engine.onClientState`, `Engine.onRestartDue` : the
  handlers.
- `Engine.dispatch` : handles any event.
-/

namespace ScannerDiscovery.Engine

open Routine (get modify raise ofExcept)

/-! ## Browse events -/

/-- Starts resolving a finding for families. If one resolve cannot be started, the client is
restarted. -/
def resolveEach (f : Finding) : List Ip.Family → Work Unit
  | [] => pure ()
  | family :: rest => do
    match ← ask (.resolve f.service f.name f.ifindex family) with
    | .error (.transport _) => restartDefer
    | .error fault => raise fault
    | .ok op =>
      Books.modifyFinding f.number fun f => { f with tracker := f.tracker.begin op }
      modify fun e => { e with resolving := e.resolving.insert op f.number }
      resolveEach f rest

/-- Creates and resolves a finding for an instance that is new. -/
def browseNew (event : BrowseEvent) : Work Unit := do
  let e ← get
  let (books, f, created) :=
    e.books.getOrCreate event.service event.ifindex (event.name.getD "")
  if created then
    modify fun e => { e with books }
    resolveEach f (if event.families.isEmpty then e.ipVersion.families else event.families)

/-- Handles a report of a browse. Reports of stopped browses are ignored. -/
def onBrowse (event : BrowseEvent) : Work Unit := do
  if (← get).browserRunning then
    match event.kind with
    | .new => browseNew event
    | .remove =>
      match (← get).registry.find? (.of event.service event.ifindex (event.name.getD "")) with
      | some f => deleteFinding f.number
      | none => pure ()
    | .failure => restartDefer
    | .cacheExhausted => pure ()
    | .allForNow => Books.allForNow event.service

/-! ## Resolve events -/

/-- Adds the endpoint of a resolved scan service to its finding, unless there is no usable
address: a link-local IPv6 address without an interface cannot be connected to. -/
def addEndpoint (f : Finding) (event : ResolveEvent) (address : Ip.Address) : Work Unit := do
  let ifindex := event.ifindex.getD f.ifindex
  if address.family = .ipv6 && address.isLinkLocal && ifindex = unspecifiedInterface then
    pure ()
  else
    match Endpoint.make f.service address event.port (event.txt.value? "rs") ifindex with
    | .error broken => raise (.invariant broken)
    | .ok endpoint =>
      Books.modifyFinding f.number fun f =>
        { f with endpoints := endpoint :: f.endpoints, isPublishable := true }

/-- A finding with what a resolve has brought to light. Model and identifier are taken from the
first resolve that has them. -/
def collect (event : ResolveEvent) (f : Finding) : Finding :=
  { f with
    model := if f.model.isNone then event.txt.value? "ty" else f.model
    uuid := if f.uuid.isNone then Uuid.parse? (event.txt.value? "uuid") else f.uuid
    addresses := match event.address with
      | some address => (f.addresses.add address).1
      | none => f.addresses }

/-- Takes over what a resolve has found, and marks the finding as publishable by the rule of its
service. -/
def resolveFound (f : Finding) (event : ResolveEvent) : Work Unit := do
  Books.modifyFinding f.number (collect event)
  if f.service.isScan then
    match event.address with
    | some address => addEndpoint f event address
    | none => pure ()
  else if f.service.publishRule = .txtScanFlag then
    match event.txt.value? "scan" with
    | some flag =>
      if Text.lower flag = "t" then
        Books.modifyFinding f.number fun f => { f with isPublishable := true }
    | none => pure ()
  else Books.modifyFinding f.number fun f => { f with isPublishable := true }

/-- A finding brought into its final form: endpoints in canonical order, and a model and an
identifier in any case. Every name that is Unicode text has an identifier (`Uuid.ofName`), so
that there is no way for this to fail half done. -/
def completed (f : Finding) : Finding :=
  { f with
    state := .finalizing
    endpoints := Endpoint.sortAndDedup f.endpoints
    model := some (f.model.getD f.name)
    uuid := some (f.uuid.getD (Uuid.ofName f.name)) }

/-- Finalizes a finding: it is published if it is publishable, and in any case no longer
counted toward the initial scan. -/
def finalize (number : Nat) : Work Unit := do
  Books.modifyFinding number completed
  match (← get).registry.get? number with
  | none => pure ()
  | some f =>
    if f.isPublishable && !f.isPublished then
      let f := { f with isPublished := true, state := .published }
      Books.modifyFinding number fun _ => f
      ofExcept (← ask (.publish f.snapshot))
    else
      Books.modifyFinding number fun f => { f with state := .unpublished }
    Books.uncount f

/-- Tells listeners of an address, as they are registered when the telling begins. What they fail
with is their own affair: every answer that a listener can give is passed over. -/
def tellEach (ifindex : Int) (address : Ip.Address) : List String → Work Unit
  | [] => pure ()
  | listener :: rest => do
    let _ ← ask (.hear listener ifindex address)
    tellEach ifindex address rest

/-- Handles the completion of a resolve that a finding is waiting for. -/
def resolveCompleted (f : Finding) (event : ResolveEvent) : Work Unit := do
  let (tracker, wasPending, nowEmpty) := f.tracker.complete event.op
  if wasPending then
    Books.modifyFinding f.number fun f => { f with tracker }
    if event.kind = .found then resolveFound f event
    if nowEmpty then finalize f.number
    if event.kind = .found then
      match event.address with
      | some address => tellEach f.ifindex address (← get).listeners
      | none => pure ()

/-- Handles the completion of a resolve. Completions that nothing waits for are ignored. -/
def onResolve (event : ResolveEvent) : Work Unit := do
  match (← get).resolving.get? event.op with
  | none => pure ()
  | some number =>
    modify fun e => { e with resolving := e.resolving.erase event.op }
    match (← get).registry.get? number with
    | none => pure ()
    | some f => resolveCompleted f event

/-! ## Client states and the restart timer -/

/-- Handles a change of the client's state. A client that is up is browsed on; one that failed
is restarted. -/
def onClientState (state : ClientState) : Work Unit := do
  if (← get).clientRunning then
    match state with
    | .registering | .running | .collision =>
      if !(← get).browserRunning then
        if !(← browserStart) then restartDefer
    | .failure => restartDefer
    | .connecting => pure ()

/-- Handles the end of a restart timer. A timer that has been replaced is ignored. -/
def onRestartDue (generation : Int) : Work Unit := do
  let e ← get
  if !e.stopping && generation = e.generation then
    modify fun e => { e with restart := none }
    if !(← get).clientRunning then clientStart

/-! ## All events -/

/-- Handles an event. -/
def dispatch : Event → Work Unit
  | .notice (.browse event) => onBrowse event
  | .notice (.resolve event) => onResolve event
  | .notice (.client state) => onClientState state
  | .restartDue generation => onRestartDue generation
  | .query ticket question => do
    ask (.settle ticket (question.answer (← get).registry))
  | .unknown => pure ()

end ScannerDiscovery.Engine
