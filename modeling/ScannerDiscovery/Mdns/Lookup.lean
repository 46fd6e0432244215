import ScannerDiscovery.Ip.Reader
import ScannerDiscovery.Service
import ScannerDiscovery.Text.Digit
import ScannerDiscovery.Txt

/-!
# Answers of the network

What a lookup of a service instance brings back, and how an address is picked from it.

Main definitions:

- `instanceName` : the instance name within a full service name.
- `pickAddress` : the first address of a family, with the interface that its scope names.
-/

namespace ScannerDiscovery.Mdns

open Text

/-! ## Names -/

/-- The instance name within a full service name: the name without the service type behind it,
which may be written in any case. A name that does not end in the type is left alone. -/
def instanceName (fullName : String) (service : Service) : String :=
  let suffix := '.' :: service.domainName.toList
  if suffix.isSuffixOf (toLower fullName.toList) then
    String.ofList (fullName.toList.take (fullName.length - suffix.length))
  else fullName

/-- The full name of an instance of a service. -/
def fullName (name : String) (service : Service) : String :=
  name ++ "." ++ service.domainName

/-! ## Addresses -/

/-- The answer to a lookup: addresses as text, the port if there is one, and properties. -/
structure Answer where
  v4 : List String
  v6 : List String
  port : Option Int
  properties : OrderedMap RawKey RawValue

/-- Why no address can be picked. -/
inductive PickError
  | notAnAddress (text : String)
  | notANumber (text : String)
  | address (error : Ip.AddressError)
  deriving DecidableEq

/-- The text of a refusal. -/
def PickError.message : PickError → String
  | notAnAddress text => quoted text ++ " does not appear to be an IPv4 or IPv6 address"
  | notANumber text =>
    "invalid literal for int() with base 10: " ++ quotedBriefly text
  | address error => error.message

/-- The interface that a scope names: a number if the scope has digits only, otherwise none. -/
def scopeInterface (scope : List Char) : Except PickError (Option Int) :=
  if allDigits scope then
    match decimalNumber? scope with
    | some n => .ok (some n)
    | none => .error (.notANumber (String.ofList scope))
  else .ok none

/-- The first address of a family, with the interface that its scope names. -/
def pickAddress (v4 v6 : List String) :
    Ip.Family → Except PickError (Option Ip.Address × Option Int)
  | .ipv4 =>
    match v4 with
    | [] => .ok (none, none)
    | text :: _ =>
      match Ip.readAddress? text.toList with
      | some address => .ok (some address, none)
      | none => .error (.notAnAddress text)
  | .ipv6 =>
    match v6 with
    | [] => .ok (none, none)
    | text :: _ => do
      let ifindex ← scopeInterface ((text.toList.dropWhile (· != '%')).drop 1)
      let groups ← (Ip.readV6 (text.toList.takeWhile (· != '%'))).mapError PickError.address
      return (some (.v6 groups none), ifindex)

end ScannerDiscovery.Mdns
