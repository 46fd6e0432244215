import ScannerDiscovery.Fault
import ScannerDiscovery.Finding
import ScannerDiscovery.Txt

/-!
# What the engine consumes

The transport reports on browses, resolves and its client. Together with the restart timer and
with questions about the findings these are the events that the engine handles.

Main definitions:

- `Notice` : what a transport reports.
- `Question`, `Reply` : what can be asked about the findings.
- `Event` : everything that the engine consumes.
-/

namespace ScannerDiscovery

/-! ## Events -/

/-- What a browse reports. -/
inductive BrowseKind
  | new
  | remove
  | failure
  | cacheExhausted
  | allForNow
  deriving DecidableEq, Repr

/-- The name of a browse report. -/
def BrowseKind.text : BrowseKind → String
  | new => "new"
  | remove => "remove"
  | failure => "failure"
  | cacheExhausted => "cache_exhausted"
  | allForNow => "all_for_now"

/-- A report of a browse. The families are those that the instance was seen on. The name of the
instance is Unicode text, without surrogates that lack their other half: transports decode it from
the wire. -/
structure BrowseEvent where
  service : Service
  kind : BrowseKind
  name : Option String := none
  ifindex : Int := -1
  families : List Ip.Family := []
  deriving DecidableEq

/-- How a resolve ended. -/
inductive ResolveKind
  | found
  | failure
  deriving DecidableEq, Repr

/-- The name of a resolve's end. -/
def ResolveKind.text : ResolveKind → String
  | found => "found"
  | failure => "failure"

/-- The completion of a resolve. An interface given here overrides that of the finding. -/
structure ResolveEvent where
  op : Ticket
  kind : ResolveKind
  address : Option Ip.Address := none
  port : Int := 0
  txt : Txt := .empty
  ifindex : Option Int := none
  deriving DecidableEq

/-- The states of a transport client. -/
inductive ClientState
  | registering
  | running
  | collision
  | failure
  | connecting
  deriving DecidableEq, Repr

/-- The name of a client state. -/
def ClientState.text : ClientState → String
  | registering => "registering"
  | running => "running"
  | collision => "collision"
  | failure => "failure"
  | connecting => "connecting"

/-- What a transport reports. -/
inductive Notice
  | browse (event : BrowseEvent)
  | resolve (event : ResolveEvent)
  | client (state : ClientState)
  deriving DecidableEq

/-! ## Queries -/

/-- What can be asked about the findings. The last question fails for want of a key. -/
inductive Question
  | size
  | names
  | published
  | snapshots
  | missing (key : String)
  deriving DecidableEq

/-- The answer to a question. -/
inductive Reply
  | size (n : Nat)
  | names (names : List String)
  | snapshots (snapshots : List Snapshot)
  deriving DecidableEq

/-- What the engine consumes. An event of an unknown kind is ignored. -/
inductive Event
  | notice (notice : Notice)
  | restartDue (generation : Int)
  | query (ticket : Nat) (question : Question)
  | unknown
  deriving DecidableEq

end ScannerDiscovery
