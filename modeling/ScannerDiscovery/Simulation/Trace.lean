import ScannerDiscovery.Catalog.Basic
import ScannerDiscovery.Mdns.Request

/-!
# Traces

What a simulated run does to the world outside, in order.
-/

namespace ScannerDiscovery.Simulation

/-- One action of a simulated run. -/
inductive Line
  | startClient
  | stopClient
  | startBrowse (service : Service)
  | stopBrowse (handle : Ticket)
  | resolve (op : Ticket) (service : Service) (name : String) (ifindex : Int) (family : Ip.Family)
  | cancelResolve (op : Ticket)
  | publish (snapshot : Snapshot)
  | withdraw (snapshot : Snapshot)
  | scanDone (method : Method)
  | heard (listener : String) (ifindex : Int) (address : Ip.Address)
  | catalogHeard (call : CatalogCall)
  | clientOpened (version : IpVersion)
  | clientClosed
  | watcherOpened (service : Service)
  | watcherClosed (service : Service)
  | lookedUp (service : Service) (fullName : String) (timeout : Int)
  | reported (notice : Notice)

/-- Whether an action concerns the network. -/
def Line.isNetwork : Line → Bool
  | clientOpened _ | clientClosed | watcherOpened _ | watcherClosed _ | lookedUp .. => true
  | _ => false

end ScannerDiscovery.Simulation
