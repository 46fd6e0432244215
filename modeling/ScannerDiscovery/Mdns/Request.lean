import ScannerDiscovery.Engine.State
import ScannerDiscovery.Mdns.Lookup

/-!
# What the multicast client asks for

The client works on a network library that answers lookups and watches service types. It runs
every lookup as a task of its own and keeps one quiet timer for each browse.
-/

namespace ScannerDiscovery.Mdns

/-- What a watcher of a service type sees happen to an instance. -/
inductive Change
  | added
  | removed
  | updated
  deriving DecidableEq, Repr

/-- The change with a given name. -/
def Change.ofText? : String → Option Change
  | "Added" => some added
  | "Removed" => some removed
  | "Updated" => some updated
  | _ => none

/-- How a lookup ended: with an answer, without one in time, or with a failure. -/
inductive LookupResult
  | answered (answer : Answer)
  | unanswered
  | failed (message : String)

/-- What the client asks its surroundings for. -/
inductive Request
  | openClient (version : IpVersion)
  | closeClient
  | openWatcher (browse : Nat) (service : Service)
  | closeWatcher (browse : Nat)
  | startTask (op : Nat)
  | cancelTask (op : Nat)
  | lookUp (op : Nat) (service : Service) (fullName : String) (timeout : Int)
  | armQuiet (browse : Nat)
  | disarmQuiet (browse : Nat)
  | report (notice : Notice)

/-- What the client is told. The network library may refuse to open and fail to close, and it
answers a lookup at once only if that takes no time. -/
abbrev Request.Answer : Request → Type
  | openClient _ | openWatcher .. | closeClient | closeWatcher _ => Except Fault Unit
  | lookUp .. => Option LookupResult
  | _ => Unit

/-- Whether the client may be suspended while a request is answered. -/
def Request.suspends : Request → Bool
  | closeClient | closeWatcher _ => true
  | _ => false

/-- The client's requests and their answers. -/
abbrev requests : Interface := ⟨Request, Request.Answer⟩

end ScannerDiscovery.Mdns
