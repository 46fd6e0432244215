import ScannerDiscovery.Engine.Handlers

/-!
# The life of the engine

Starting and stopping the engine, and the turn in which it takes an event from its mailbox. A
violation of an invariant halts the engine; all other faults of a handler end that handler only.

Main definitions:

- `Engine.start`, `Engine.stop` : the ends of a run.
- `Engine.turn` : handles the first event of the mailbox.
- `Engine.query` : asks a question in order with the events.
-/

namespace ScannerDiscovery.Engine

open Routine (get modify raise ofExcept attempt)

/-! ## Waiting queries -/

/-- Discards events, settling the queries among them with a fault. -/
def failEach (fault : Fault) : List Event → Work Unit
  | [] => pure ()
  | .query ticket _ :: rest => do
    ask (.settle ticket (.error fault))
    failEach fault rest
  | _ :: rest => failEach fault rest

/-- Asks a question about the findings, after all events that are waiting. A halted engine
refuses; without a mailbox the answer comes at once. -/
def query (ticket : Nat) (question : Question) : Work Unit := do
  let e ← get
  if e.failure.isSome then ask (.settle ticket (.error (.invariant .halted)))
  else if e.mailbox.isNone then ask (.settle ticket (question.answer e.registry))
  else modify (·.post (.query ticket question))

/-! ## Start and stop -/

/-- Starts discovery. If the client cannot be started, events are dropped again. -/
def start : Work Unit := do
  let e ← get
  if e.started then pure ()
  else if !e.enabled then
    Books.fireAll
    modify fun e => { e with started := true }
  else
    modify fun e => { e with mailbox := some .empty, stopping := false, failure := none }
    match ← ask .startClient with
    | .ok () => modify fun e => { e with clientRunning := true, started := true }
    | .error (.transport fault) =>
      modify fun e => { e with mailbox := none }
      raise (.startup fault)
    | .error fault => raise fault

/-- Cancels the restart timer, if it is running. -/
def dropRestartTimer : Work Unit := do
  match (← get).restart with
  | some running => ask (.disarmRestart running)
  | none => pure ()
  modify fun e => { e with restart := none }

/-- Stops discovery, the handling of events having been ended: waiting queries fail, everything
published is withdrawn, and the transport is released. -/
def stop : Work Unit := do
  if (← get).started then
    modify fun e => { e with stopping := true }
    let box := (← get).mailbox
    modify fun e => { e with mailbox := none }
    match box with
    | some box => failEach .stopped box.waiting
    | none => pure ()
    dropRestartTimer
    browserStop
    clientStop
    deleteFindings
    modify fun e => { e with resolving := .empty, started := false }

/-! ## Handling events -/

/-- Takes note that the event taken has been handled. -/
def finish : Work Unit :=
  modify fun e => { e with mailbox := e.mailbox.map Mailbox.finish }

/-- Halts the engine after a violation: what is waiting is discarded, and queries among it fail
with the violation. -/
def halt (broken : Violation) : Work Unit := do
  modify fun e => { e with failure := some broken }
  match (← get).mailbox with
  | some box =>
    modify fun e => { e with mailbox := some ⟨[], box.unfinished - box.waiting.length⟩ }
    failEach (.invariant broken) box.waiting
  | none => pure ()

/-- Handles an event that has been taken from the mailbox. -/
def handle (event : Event) : Work Unit := do
  match ← attempt (dispatch event) with
  | .ok () => finish
  | .error (.invariant broken) => do
    halt broken
    finish
  | .error .interrupted => do
    finish
    raise .interrupted
  | .error _ => finish

/-- Takes the first event from the mailbox and handles it. -/
def turn : Work Unit := do
  match (← get).mailbox.bind Mailbox.take? with
  | none => pure ()
  | some (event, box) =>
    modify fun e => { e with mailbox := some box }
    handle event

end ScannerDiscovery.Engine
