import ScannerDiscovery.Fault
import ScannerDiscovery.Text.Blank
import ScannerDiscovery.Uri.Reference

/-!
# Scan endpoints

An endpoint is a protocol and the URI that a device serves it at. The endpoint of a resolved
service is built from its address, port and resource path; the endpoints of a device are kept in
a canonical order.

Main definitions:

- `Endpoint.make` : the endpoint of a resolved scan service.
- `Endpoint.sortKey` : addresses beyond the link before link-local ones, IPv6 before IPv4, then
  by URI.
- `Endpoint.sortAndDedup` : endpoints in order, equal neighbours collapsed.
-/

namespace ScannerDiscovery

open Text

/-- The scan protocols. -/
inductive Proto
  | escl
  | wsd
  deriving DecidableEq, Repr

/-- The name of a protocol. -/
def Proto.text : Proto → String
  | escl => "escl"
  | wsd => "wsd"

/-- The protocol with a given name. -/
def Proto.ofText? (name : String) : Option Proto :=
  [escl, wsd].find? fun p => p.text == name

/-- A protocol and the URI that a device serves it at. -/
structure Endpoint where
  proto : Proto
  uri : String
  deriving DecidableEq

namespace Endpoint

/-- Protocol and URI of an endpoint as text. -/
def text (e : Endpoint) : String :=
  e.proto.text ++ " " ++ e.uri

/-! ## Building an endpoint -/

/-- An address as the host of a URI. IPv6 addresses stand in brackets, and link-local ones get
the interface as their zone, the percent sign in front of it escaped. -/
def formatHost (address : Ip.Address) (ifindex : Int) : String :=
  match address with
  | .v4 _ => address.bareText
  | .v6 .. =>
    if address.isLinkLocal then
      "[" ++ address.bareText ++ "%25" ++ toString ifindex ++ "]"
    else "[" ++ address.bareText ++ "]"

/-- The path where a scan service is served if its announcement names none. -/
def defaultPath : String := "/eSCL/"

/-- An announced resource path with exactly one slash at either end. -/
def normalizePath : Option String → String
  | none => defaultPath
  | some path =>
    let trimmed := trim (· == '/') path.toList
    if trimmed.isEmpty then "/" else "/" ++ String.ofList trimmed ++ "/"

/-- Whether a URI can be read and names a host and a port. -/
def namesHostAndPort (uri : String) : Bool :=
  match Uri.split uri.toList with
  | .error _ => false
  | .ok parts =>
    parts.host?.isSome && match parts.port? with
      | .ok (some _) => true
      | _ => false

/-- The URI of a scan service. -/
def compose (scheme : String) (address : Ip.Address) (port : Int) (path : Option String)
    (ifindex : Int) : String :=
  scheme ++ "://" ++ formatHost address ifindex ++ ":" ++ toString port ++ normalizePath path

/-- The endpoint of a resolved scan service. -/
def make (service : Service) (address : Ip.Address) (port : Int) (path : Option String)
    (ifindex : Int) : Except Violation Endpoint :=
  match service.scheme? with
  | none => .error (.notScanService service)
  | some scheme =>
    let uri := compose scheme address port path ifindex
    if namesHostAndPort uri then .ok ⟨.escl, uri⟩ else .error (.invalidEndpoint uri)

/-! ## Canonical order -/

/-- The address that a URI names as its host, without its zone. -/
def address? (uri : String) : Option Ip.Address :=
  match Uri.split uri.toList with
  | .error _ => none
  | .ok parts => Ip.readAddress? (Uri.before '%' (parts.host?.getD []))

/-- What an endpoint is ordered by: link-local addresses last, IPv6 addresses first, then the
URI. -/
structure SortKey where
  linkLocal : Bool
  notV6 : Bool
  uri : String
  deriving DecidableEq

/-- The key of an endpoint. Without an address it counts as an IPv4 one beyond the link. -/
def sortKey (e : Endpoint) : SortKey :=
  match address? e.uri with
  | none => ⟨false, true, e.uri⟩
  | some address => ⟨address.isLinkLocal, address.family != .ipv6, e.uri⟩

/-- Whether one key comes before another or is the same. -/
def SortKey.le (x y : SortKey) : Bool :=
  if x.linkLocal != y.linkLocal then !x.linkLocal
  else if x.notV6 != y.notV6 then !x.notV6
  else x.uri ≤ y.uri

/-- A list with equal neighbours collapsed to one. -/
def collapse : List Endpoint → List Endpoint
  | [] => []
  | e :: rest =>
    match collapse rest with
    | [] => [e]
    | f :: others => if e = f then f :: others else e :: f :: others

/-- Endpoints in canonical order, equal neighbours collapsed. -/
def sortAndDedup (endpoints : List Endpoint) : List Endpoint :=
  collapse (endpoints.mergeSort fun x y => x.sortKey.le y.sortKey)

end Endpoint

end ScannerDiscovery
