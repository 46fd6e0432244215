import ScannerDiscovery.Service
import ScannerDiscovery.Text.Quoted

/-!
# Faults

What can go wrong in discovery. A transport fault is recovered from by restarting the client;
a startup fault and a violation of an invariant reach the caller.

Main definitions:

- `Violation` : a broken invariant of the library itself.
- `Fault` : everything an operation can fail with.
- `OrdinaryFault` : a fault that whoever catches faults may pass over.
- `Fault.message` : the text of a fault.
-/

namespace ScannerDiscovery

/-- An operation that a transport could not start, with its cause if that is known. -/
structure TransportFault where
  operation : String
  cause : Option String
  deriving DecidableEq

/-- The text of a transport fault. -/
def TransportFault.message (f : TransportFault) : String :=
  let base := "mDNS transport operation '" ++ f.operation ++ "' failed"
  match f.cause with
  | none => base
  | some cause => base ++ ": " ++ cause

/-- A broken invariant. -/
inductive Violation
  | invalidEndpoint (uri : String)
  | notScanService (service : Service)
  | counterUnderflow (method : Method)
  | halted
  | stated (message : String)
  deriving DecidableEq

/-- The text of a broken invariant. -/
def Violation.message : Violation → String
  | invalidEndpoint uri => "Invalid eSCL URI constructed: " ++ uri
  | notScanService service => service.text ++ " is not an eSCL service"
  | counterUnderflow method => "initial scan counter underflow for " ++ method.text
  | halted => "mDNS discovery engine failed"
  | stated message => message

/-- What an operation can fail with. A foreign fault comes from code outside the library; an
interrupt is a request of the user to end the program. -/
inductive Fault
  | general (message : String)
  | transport (fault : TransportFault)
  | startup (fault : TransportFault)
  | invariant (broken : Violation)
  | foreign (message : String)
  | missing (key : String)
  | interrupted
  deriving DecidableEq

/-- A fault that does not ask for the end of the program. -/
abbrev OrdinaryFault := { fault : Fault // fault ≠ .interrupted }

namespace Fault

/-- The fault of a query that is still waiting when discovery stops. -/
def stopped : Fault := general "mDNS discovery stopped"

/-- The text of a fault. -/
def message : Fault → String
  | general message => message
  | transport fault => fault.message
  | startup fault => "Failed to start mDNS discovery: " ++ fault.message
  | invariant broken => broken.message
  | foreign message => message
  | missing key => Text.quoted key
  | interrupted => ""

/-- The fault that a fault was caused by, as text. -/
def causeText? : Fault → Option String
  | transport fault => fault.cause
  | startup fault => some fault.message
  | _ => none

/-- The operation that a transport fault names. -/
def operation? : Fault → Option String
  | transport fault => some fault.operation
  | _ => none

end Fault

end ScannerDiscovery
