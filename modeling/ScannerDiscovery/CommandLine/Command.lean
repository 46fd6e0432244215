import ScannerDiscovery.CommandLine.Options
import ScannerDiscovery.Report.Devices
import ScannerDiscovery.Simulation.Run

/-!
# The command

Starts discovery, waits for the initial scan, and lists the devices found by then.

Main definition:

- `execute` : what the program does with its arguments.
-/

namespace ScannerDiscovery.CommandLine

open Simulation

/-- What the program leaves behind: its exit code, its output, what it has done to the network, and
whether it broke off because there was no timeout to wait for. -/
structure Ending where
  exitCode : Nat
  output : String := ""
  trace : List Line := []
  lacksTimeout : Bool := false

/-- The exit code of a fault at the start. -/
def exitCode : Fault → Nat
  | .interrupted => 130
  | _ => 1

/-- The report that options ask for. -/
def report (options : Options) (devices : List Device) : String :=
  if options.asDocument then (Report.document devices).render 0 ++ "\n"
  else Report.joined (Report.lines devices)

/-- Runs discovery until the initial scan is over or the timeout is. Without a timeout discovery is
stopped as soon as it has been started. -/
def discover (settings : DiscoverySettings) (network : Network) (options : Options) : Ending :=
  match (Run.multicast settings network).start with
  | (.error fault, r) => { exitCode := exitCode fault, trace := r.trace }
  | (.ok (), r) =>
    match options.timeout with
    | none => { exitCode := 1, trace := r.stop.2.trace, lacksTimeout := true }
    | some timeout =>
      let r := match r.wait (some timeout) with
        | some (_, r) => r.work
        | none => r.work
      let devices := r.catalog.devices
      { exitCode := 0, output := report options devices, trace := r.stop.2.trace }

/-- What the program does with its arguments. -/
def execute (settings : DiscoverySettings) (defaultTimeout : Binary64) (network : Network)
    (arguments : List String) : Ending :=
  match read defaultTimeout arguments with
  | .help => { exitCode := 0, output := helpText }
  | .misuse => { exitCode := 2 }
  | .run options =>
    let ending := discover settings network options
    { ending with trace := ending.trace.filter Line.isNetwork }

end ScannerDiscovery.CommandLine
