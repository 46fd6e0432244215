/-!
# Internet addresses

IPv4 addresses are four octets; IPv6 addresses are eight groups of sixteen bits, with an
optional scope that names the interface they are valid on. Two addresses are equal when family,
value and scope are.

Main results:

- `bestRun` finds the run of zero groups that the written form leaves out: the longest, and
  of equal ones the first.
-/

namespace ScannerDiscovery.Ip

/-! ## Families -/

/-- The two address families. -/
inductive Family
  | ipv4
  | ipv6
  deriving DecidableEq, Repr

/-- The name of a family. -/
def Family.text : Family → String
  | ipv4 => "ipv4"
  | ipv6 => "ipv6"

/-- The family with a given name. -/
def Family.ofText? (name : String) : Option Family :=
  [ipv4, ipv6].find? fun f => f.text == name

/-! ## Addresses -/

/-- The four octets of an IPv4 address. -/
structure V4 where
  a : UInt8
  b : UInt8
  c : UInt8
  d : UInt8
  deriving DecidableEq

/-- The eight groups of an IPv6 address. -/
structure V6 where
  groups : List UInt16
  length_eq : groups.length = 8
  deriving DecidableEq

/-- An address of either family. -/
inductive Address
  | v4 (octets : V4)
  | v6 (groups : V6) (scope : Option String)
  deriving DecidableEq

/-- The family of an address. -/
def Address.family : Address → Family
  | v4 _ => .ipv4
  | v6 .. => .ipv6

/-! ## Link-local addresses -/

/-- Whether an IPv4 address lies in 169.254/16. -/
def V4.isLinkLocal (x : V4) : Bool :=
  x.a == 169 && x.b == 254

/-- Whether an IPv6 address lies in fe80::/10. -/
def V6.isLinkLocal (x : V6) : Bool :=
  x.groups.headD 0 &&& 0xFFC0 == 0xFE80

/-- Whether an address is valid on its own link only. -/
def Address.isLinkLocal : Address → Bool
  | v4 octets => octets.isLinkLocal
  | v6 groups _ => groups.isLinkLocal

/-! ## Written form -/

/-- Decimal octets with points between them. -/
def V4.chars (x : V4) : List Char :=
  List.intercalate ['.'] ([x.a, x.b, x.c, x.d].map fun octet => Nat.toDigits 10 octet.toNat)

/-- A group in hexadecimal digits without leading zeros. -/
def groupChars (group : UInt16) : List Char :=
  Nat.toDigits 16 group.toNat

/-- Groups with colons between them. -/
def joinGroups (groups : List UInt16) : List Char :=
  List.intercalate [':'] (groups.map groupChars)

/-- The number of zero groups at the start. -/
def leadingZeros (groups : List UInt16) : Nat :=
  (groups.takeWhile (· == 0)).length

/-- Start and length of the longest run of zero groups, of equal ones the first. -/
def bestRun (groups : List UInt16) : Nat × Nat :=
  (List.range groups.length).foldl
    (fun best start =>
      let size := leadingZeros (groups.drop start)
      if best.2 < size then (start, size) else best)
    (0, 0)

/-- The groups in hexadecimal, the longest run of at least two zero groups left out. -/
def V6.chars (x : V6) : List Char :=
  let (start, size) := bestRun x.groups
  if 2 ≤ size then
    joinGroups (x.groups.take start) ++ ':' :: ':' :: joinGroups (x.groups.drop (start + size))
  else joinGroups x.groups

/-- The written form of an address, with its scope. -/
def Address.text : Address → String
  | v4 octets => String.ofList octets.chars
  | v6 groups none => String.ofList groups.chars
  | v6 groups (some scope) => String.ofList groups.chars ++ "%" ++ scope

/-- The written form of an address without its scope. -/
def Address.bareText : Address → String
  | v4 octets => String.ofList octets.chars
  | v6 groups _ => String.ofList groups.chars

end ScannerDiscovery.Ip
