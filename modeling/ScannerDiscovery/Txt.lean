import ScannerDiscovery.OrderedMap
import ScannerDiscovery.Text.Lowercase
import ScannerDiscovery.Text.Utf8

/-!
# Text records

The properties that a service announces: a map from keys to values in order of announcement.
On the wire both are bytes, and a key may have no value.

Main definitions:

- `Txt.decode` : the text record of announced properties.
- `Txt.value?` : the value of a key, in which case does not matter.
-/

namespace ScannerDiscovery

open Text

/-- The decoded properties of a service. -/
abbrev Txt := OrderedMap String String

/-- An announced key: bytes, or text that a library has already decoded. -/
inductive RawKey
  | text (s : String)
  | bytes (data : List UInt8)
  deriving DecidableEq

/-- An announced value, which may be absent or already decoded. -/
inductive RawValue
  | absent
  | text (s : String)
  | bytes (data : List UInt8)
  | number (n : Int)
  deriving DecidableEq

/-- A key as text, ill-formed bytes skipped. -/
def RawKey.decode : RawKey → String
  | text s => s
  | bytes data => String.ofList (Utf8.decode data)

/-- A value as text, ill-formed bytes skipped and an absent value empty. -/
def RawValue.decode : RawValue → String
  | absent => ""
  | text s => s
  | bytes data => String.ofList (Utf8.decode data)
  | number n => toString n

namespace Txt

/-- The text record of announced properties. Keys that become equal by decoding share the place
of the first and have the value of the last. -/
def decode (properties : OrderedMap RawKey RawValue) : Txt :=
  OrderedMap.ofList (properties.entries.map fun entry => (entry.1.decode, entry.2.decode))

/-- The value of the first key with a given small-letter form. An empty value counts as
absent. -/
def value? (txt : Txt) (key : String) : Option String :=
  match txt.entries.find? fun entry => lower entry.1 == key with
  | some (_, value) => if value = "" then none else some value
  | none => none

end Txt

end ScannerDiscovery
