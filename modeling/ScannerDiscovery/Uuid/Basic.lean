import ScannerDiscovery.Number.Hexadecimal
import ScannerDiscovery.Text.Lowercase
import ScannerDiscovery.Text.Quoted

/-!
# Device identifiers

A device is identified by a number of 128 bits, written as 32 hexadecimal digits in five groups.
Devices announce it in many decorations; the digits alone decide.

Main definitions:

- `Uuid.text` : the canonical written form.
- `Uuid.parse?` : reads an announced identifier, ignoring all decoration.
- `Uuid.readPlain` : reads one of the usual written forms and refuses anything else.
-/

namespace ScannerDiscovery

open Text

/-- An identifier of 128 bits. -/
structure Uuid where
  value : BitVec 128
  deriving DecidableEq

namespace Uuid

/-! ## Written form -/

/-- The 32 hexadecimal digits of an identifier. -/
def digits (u : Uuid) : List Char :=
  hexDigits 32 u.value.toNat

/-- The identifier with given hexadecimal digits. -/
def ofDigits (digits : List Char) : Uuid :=
  ⟨BitVec.ofNat 128 (Hexadecimal.number digits)⟩

/-- A text cut into pieces of given lengths, with hyphens between them. -/
def hyphenate : List Nat → List Char → List Char
  | [], text => text
  | size :: sizes, text => text.take size ++ '-' :: hyphenate sizes (text.drop size)

/-- The canonical form: groups of 8, 4, 4, 4 and 12 digits. -/
def text (u : Uuid) : String :=
  String.ofList (hyphenate [8, 4, 4, 4] u.digits)

/-! ## Announced identifiers -/

/-- The prefix of an identifier written as a resource name. -/
def urnPrefix : List Char := "urn:uuid:".toList

/-- A text without one given prefix, if it starts with it. -/
def dropPrefix (prefix? text : List Char) : List Char :=
  if prefix?.isPrefixOf text then text.drop prefix?.length else text

/-- The hexadecimal digits of an announced identifier: surrounding blanks, case, the resource
name prefix and all other characters are ignored. -/
def announcedDigits (text : List Char) : List Char :=
  (dropPrefix urnPrefix (toLower (trim isBlank text))).filter Hexadecimal.isDigit

/-- Reads an announced identifier: exactly 32 hexadecimal digits must remain. -/
def parseChars? (text : List Char) : Option Uuid :=
  let found := announcedDigits text
  if found.length = 32 then some (ofDigits found) else none

/-- Reads an announced identifier, if there is one. -/
def parse? (text : Option String) : Option Uuid :=
  text.bind fun t => parseChars? t.toList

/-! ## Plain identifiers -/

/-- Why a plain identifier is refused: it has not 32 characters, or they are no number. -/
inductive ReadError
  | length
  | notANumber (text : List Char)

/-- The text of a refusal. -/
def ReadError.message : ReadError → String
  | length => "badly formed hexadecimal UUID string"
  | notANumber text =>
    "invalid literal for int() with base 16: " ++ quotedBriefly (String.ofList text)

/-- A text without all occurrences of a part, the last argument bounding their number. -/
def removeAll (part : List Char) : List Char → Nat → List Char
  | text, 0 => text
  | [], _ => []
  | c :: rest, fuel + 1 =>
    if part.isPrefixOf (c :: rest) then removeAll part ((c :: rest).drop part.length) fuel
    else c :: removeAll part rest fuel

/-- A text without all occurrences of a part. -/
def without (part text : List Char) : List Char :=
  removeAll part text text.length

/-- Reads an identifier in one of the usual forms: with or without hyphens, in braces, as a
resource name. The 32 characters that remain may be any form of a hexadecimal number. -/
def readPlain (text : List Char) : Except ReadError Uuid :=
  let bare := trim (fun c => c == '{' || c == '}')
    (without "uuid:".toList (without "urn:".toList text))
  let found := bare.filter (· != '-')
  if found.length ≠ 32 then .error .length
  else match Hexadecimal.read? found with
    | some value => .ok ⟨BitVec.ofNat 128 value⟩
    | none => .error (.notANumber found)

end Uuid

end ScannerDiscovery
