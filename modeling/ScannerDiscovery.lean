import ScannerDiscovery.Main
import ScannerDiscovery.Simulation.BooksRun
import ScannerDiscovery.Simulation.ClientRun
import ScannerDiscovery.Simulation.Pool
import ScannerDiscovery.Simulation.ScanWait
import ScannerDiscovery.Number.Shortest
import ScannerDiscovery.Proofs.Engine.Runs
import ScannerDiscovery.Proofs.Engine.Ensures
import ScannerDiscovery.Proofs.Endpoint
import ScannerDiscovery.Proofs.Registry
import ScannerDiscovery.Proofs.Engine.Moves
import ScannerDiscovery.Proofs.OrderedMap
import ScannerDiscovery.Proofs.Engine.Balance
import ScannerDiscovery.Proofs.Gate
import ScannerDiscovery.Proofs.Engine.Safety
import ScannerDiscovery.Proofs.Engine.Scripts
import ScannerDiscovery.Proofs.Engine.CatalogAgreement
import ScannerDiscovery.Proofs.Engine.InitialScan
import ScannerDiscovery.Proofs.Engine.Resources
import ScannerDiscovery.Proofs.Engine.Frame
import ScannerDiscovery.Proofs.Engine.Stages.Account
import ScannerDiscovery.Proofs.Engine.Stages.Conduct
import ScannerDiscovery.Proofs.Engine.Stages.Handlers
import ScannerDiscovery.Proofs.Engine.LifeCycle
import ScannerDiscovery.Proofs.Engine.Signals
import ScannerDiscovery.Proofs.Engine.Sessions.Scene
import ScannerDiscovery.Proofs.Engine.Sessions.Secures
import ScannerDiscovery.Proofs.Engine.Sessions.Phases
import ScannerDiscovery.Proofs.Engine.Sessions.Conduct
import ScannerDiscovery.Proofs.Engine.Sessions.Scripts
import ScannerDiscovery.Proofs.Engine.Sessions.Recovery
import ScannerDiscovery.Proofs.Engine.Sessions.Isolation
import ScannerDiscovery.Proofs.Engine.Frame.Handlers
import ScannerDiscovery.Proofs.Engine.Enumeration
import ScannerDiscovery.Proofs.Engine.Lockstep
import ScannerDiscovery.Proofs.Engine.Sessions.Stopping
import ScannerDiscovery.Proofs.Engine.Breaks
import ScannerDiscovery.Proofs.Engine.Remains
import ScannerDiscovery.Proofs.Engine.Interruption
import ScannerDiscovery.Proofs.Engine.ForeignFaults
import ScannerDiscovery.Catalog.Listening
import ScannerDiscovery.Proofs.Catalog.Listeners
import ScannerDiscovery.Proofs.Endpoint.Order
import ScannerDiscovery.Proofs.Engine.Findings.Harvest
import ScannerDiscovery.Proofs.Engine.Frame.Keeps
import ScannerDiscovery.Proofs.Engine.Findings.Reports
import ScannerDiscovery.Proofs.Engine.Findings.Chronicle
import ScannerDiscovery.Proofs.Engine.Findings.Conduct
import ScannerDiscovery.Proofs.Endpoint.Host
import ScannerDiscovery.Proofs.Catalog.Devices
import ScannerDiscovery.Proofs.Engine.Findings.Publication
import ScannerDiscovery.Proofs.Engine.Findings.Ledger
import ScannerDiscovery.Proofs.Engine.Findings.Matching
import ScannerDiscovery.Proofs.Engine.Findings.Interchange
import ScannerDiscovery.Proofs.Engine.Queries.Desk
import ScannerDiscovery.Proofs.Engine.Queries.Handlers
import ScannerDiscovery.Proofs.Engine.Queries.Order
import ScannerDiscovery.Proofs.Engine.Queries.Fate
import ScannerDiscovery.Proofs.Endpoint.Parts
import ScannerDiscovery.Proofs.Engine.Sessions.Startup
import ScannerDiscovery.Proofs.Mdns.Scene
import ScannerDiscovery.Proofs.Mdns.Rules
import ScannerDiscovery.Proofs.Mdns.Moves
import ScannerDiscovery.Proofs.Mdns.Conduct
import ScannerDiscovery.Proofs.Mdns.Silence
import ScannerDiscovery.Proofs.Mdns.Delivery
import ScannerDiscovery.Proofs.Mdns.Timers
import ScannerDiscovery.Proofs.Mdns.Quiet
import ScannerDiscovery.Proofs.Endpoint.Canonical
import ScannerDiscovery.Proofs.Uuid.Written
import ScannerDiscovery.Proofs.Catalog.History
import ScannerDiscovery.Proofs.Catalog.MergedView
import ScannerDiscovery.Proofs.Number.Order
import ScannerDiscovery.Proofs.Number.Rounding
import ScannerDiscovery.Proofs.Simulation.Deadline
import ScannerDiscovery.Proofs.Simulation.Trailing
import ScannerDiscovery.Proofs.Simulation.Waiting
import ScannerDiscovery.Proofs.Registry.Keeper
import ScannerDiscovery.Proofs.Registry.Map
import ScannerDiscovery.Proofs.Registry.Refusal
import ScannerDiscovery.Proofs.Engine.Findings.Hearing
import ScannerDiscovery.Proofs.Text.Lowercase
import ScannerDiscovery.Proofs.Mdns.InstanceName
import ScannerDiscovery.Proofs.Uuid.Announced
import ScannerDiscovery.Proofs.Text.Utf8
import ScannerDiscovery.Proofs.Txt
import ScannerDiscovery.Proofs.Mdns.ScopedAddress
import ScannerDiscovery.Proofs.Number.Signs
import ScannerDiscovery.Proofs.Settings
import ScannerDiscovery.Proofs.Gate.Calls
import ScannerDiscovery.Proofs.Gate.Laws
import ScannerDiscovery.Proofs.Ip.InsertionOrder
