import ScannerDiscovery.Engine.Event
import ScannerDiscovery.Routine

/-!
# What the engine asks for

The engine asks its surroundings for transport operations, catalog updates, timers, and the
delivery of replies.

Main definitions:

- `Request`, `Request.Answer` : what the engine asks for and is told.
- `Request.suspends` : the requests that may keep it waiting.
-/

namespace ScannerDiscovery

/-- What the engine asks its surroundings for. -/
inductive Request
  | startClient
  | stopClient
  | startBrowse (service : Service)
  | stopBrowse (handle : Ticket)
  | resolve (service : Service) (name : String) (ifindex : Int) (family : Ip.Family)
  | cancelResolve (op : Ticket)
  | publish (snapshot : Snapshot)
  | withdraw (snapshot : Snapshot)
  | scanDone (method : Method)
  | hear (listener : String) (ifindex : Int) (address : Ip.Address)
  | armRestart (generation : Nat)
  | disarmRestart (generation : Nat)
  | settle (ticket : Nat) (outcome : Except Fault Reply)

/-- What the engine is told. Operations that can fail are answered by a fault; cancelling,
signals and timers cannot fail. A listener may fail with any fault but one that asks for the end
of the program: that would reach the program past the engine. -/
abbrev Request.Answer : Request → Type
  | startBrowse _ | resolve .. => Except Fault Ticket
  | startClient | stopClient | stopBrowse _ | publish _ | withdraw _ => Except Fault Unit
  | hear .. => Except OrdinaryFault Unit
  | cancelResolve _ | scanDone _ | armRestart _ | disarmRestart _ | settle .. => Unit

/-- Whether the engine may be suspended while a request is answered. All other requests are
answered at once. -/
def Request.suspends : Request → Bool
  | startClient | stopClient | stopBrowse _ => true
  | _ => false

/-- The engine's requests and their answers. -/
abbrev requests : Interface := ⟨Request, Request.Answer⟩

end ScannerDiscovery
