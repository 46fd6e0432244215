import ScannerDiscovery.Engine.State

/-!
# Client and browses

The engine runs one transport client and on it one browse for each service. Any failure of the
transport tears the whole session down, and a new client is started after a delay.

Main definitions:

- `Engine.browserStart`, `Engine.browserStop` : the browses of a session.
- `Engine.clientStart`, `Engine.clientStop` : its client.
- `Engine.restartDefer` : tears a session down and arms the restart timer.
-/

namespace ScannerDiscovery.Engine

open Routine (get modify raise ofExcept)

/-- Pauses for the answer to a request. -/
def ask (request : Request) : Work request.Answer :=
  Routine.ask (I := requests) request

/-- Goes on if an operation succeeded or failed for reasons of the transport, and says whether
it succeeded. Other faults are passed on. -/
def succeeded : Except Fault Unit → Work Bool
  | .ok () => pure true
  | .error (.transport _) => pure false
  | .error fault => raise fault

/-! ## Deleting findings -/

/-- Gives up resolves that belong to a deleted finding. -/
def releaseEach : List Ticket → Work Unit
  | [] => pure ()
  | op :: rest => do
    modify fun e => { e with resolving := e.resolving.erase op }
    ask (.cancelResolve op)
    releaseEach rest

/-- Deletes a finding and cancels its outstanding resolves. -/
def deleteFinding (number : Nat) : Work Unit :=
  Books.delete (fun _ ops => releaseEach ops) number

/-- Deletes every finding. -/
def deleteFindings : Work Unit :=
  Books.deleteAll fun _ ops => releaseEach ops

/-! ## Browses -/

/-- Starts browsing for services, and says whether all could be started. A browse in its initial
phase is an outstanding task of its method. -/
def startEach : List Service → Work Bool
  | [] => pure true
  | service :: rest => do
    match ← ask (.startBrowse service) with
    | .error (.transport _) => pure false
    | .error fault => raise fault
    | .ok handle =>
      modify fun e => { e with browsers := e.browsers.insert service handle }
      if (← get).gate.inInitialScan service then
        modify fun e => { e with books.gate := e.books.gate.inc service.method }
      startEach rest

/-- Starts browsing for all services. Browsing counts as running even if that fails half way, so
that what has been started is stopped again. -/
def browserStart : Work Bool := do
  modify fun e => { e with browserRunning := true }
  startEach Service.all

/-- Stops browses. A browse still in its initial phase is no longer an outstanding task. -/
def stopEach : List (Service × Ticket) → Work Unit
  | [] => pure ()
  | (service, handle) :: rest => do
    modify fun e => { e with browsers := e.browsers.erase service }
    let _ ← succeeded (← ask (.stopBrowse handle))
    if (← get).gate.inInitialScan service then
      Books.lower service.method
    stopEach rest

/-- Stops all browses and deletes what they have found. -/
def browserStop : Work Unit := do
  stopEach (← get).browsers.entries
  deleteFindings
  modify fun e => { e with browserRunning := false }

/-! ## The client -/

/-- Stops the client, if it is running. -/
def clientStop : Work Unit := do
  if (← get).clientRunning then
    modify fun e => { e with clientRunning := false }
    let _ ← succeeded (← ask .stopClient)

/-- Arms a new restart timer in place of the one that is running. -/
def armRestartTimer : Work Unit := do
  match (← get).restart with
  | some running => ask (.disarmRestart running)
  | none => pure ()
  let generation := (← get).generation + 1
  modify fun e => { e with generation, restart := some generation }
  ask (.armRestart generation)

/-- Starts the client again; if that fails, tries once more after the delay. -/
def clientStart : Work Unit := do
  if ← succeeded (← ask .startClient) then
    modify fun e => { e with clientRunning := true }
  else armRestartTimer

/-- Tears browses and client down, and restarts the client after a delay. -/
def restartDefer : Work Unit := do
  browserStop
  clientStop
  armRestartTimer

end ScannerDiscovery.Engine
