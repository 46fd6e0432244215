import ScannerDiscovery.Text.Utf8
import ScannerDiscovery.Uuid.Basic
import ScannerDiscovery.Uuid.Sha1

/-!
# Identifiers derived from names

A device that announces no identifier gets one derived from its instance name, so that the same
name gives the same device in every run.

Names are Unicode text throughout: sequences of scalar values, as the names of services are once
they have been decoded from the wire.  Every such name has a UTF-8 form, and so every name has an
identifier.  A surrogate without its other half is not text: it has no UTF-8 form, no identifier
can be derived from a name with one, and no name here has one.
-/

namespace ScannerDiscovery.Uuid

open Text

/-- The number that big-endian bytes denote. -/
def ofBytes (bytes : List UInt8) : Nat :=
  bytes.foldl (fun total b => 256 * total + b.toNat) 0

/-- The space of names of discovered devices. -/
def deviceNamespace : Uuid :=
  ofDigits "5c1a7d0e3b524f0e9a576b2d1f0c8e41".toList

/-- An identifier marked as derived from a name: version five, and the variant bits of the
standard layout. -/
def markDerived (value : BitVec 128) : Uuid :=
  let version : BitVec 128 := 0xF#128 <<< 76
  let variant : BitVec 128 := 0x3#128 <<< 62
  ⟨(value &&& ~~~version &&& ~~~variant) ||| (0x5#128 <<< 76) ||| (0x2#128 <<< 62)⟩

/-- The identifier of a name within a space of names, from the UTF-8 form that every Unicode text
has. -/
def derive (space : Uuid) (name : String) : Uuid :=
  let message := Sha1.bigEndian 16 space.value.toNat ++ Utf8.encode name.toList
  markDerived (BitVec.ofNat 128 (ofBytes ((Sha1.digest message).take 16)))

/-- The identifier of a device that announces none. Deriving it cannot fail, since names are
Unicode text. -/
def ofName (name : String) : Uuid :=
  derive deviceNamespace name

end ScannerDiscovery.Uuid
