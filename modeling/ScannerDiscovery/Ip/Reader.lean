import ScannerDiscovery.Ip.Address
import ScannerDiscovery.Number.Hexadecimal
import ScannerDiscovery.Text.Quoted

/-!
# Reading internet addresses

Dotted IPv4 addresses are read without leading zeros. IPv6 addresses may leave out one run of
zero groups, end in a dotted IPv4 address, and carry a scope.

Main definitions:

- `readV4`, `readV6` : one family, with the exact cause of a refusal.
- `readScopedV6` : an IPv6 address with an optional scope.
- `readAddress` : an address of either family.
-/

namespace ScannerDiscovery.Ip

open Text

/-! ## Refusals -/

/-- Why an octet or a group is refused. -/
inductive PartError
  | emptyOctet
  | notDecimal (part : List Char)
  | longOctet (part : List Char)
  | leadingZero (part : List Char)
  | octetRange (value : Nat)
  | notHexadecimal (part : List Char)
  | longGroup (part : List Char)
  deriving DecidableEq

/-- The text of a refusal. -/
def PartError.message : PartError → String
  | emptyOctet => "Empty octet not permitted"
  | notDecimal part => "Only decimal digits permitted in " ++ quoted (String.ofList part)
  | longOctet part => "At most 3 characters permitted in " ++ quoted (String.ofList part)
  | leadingZero part => "Leading zeros are not permitted in " ++ quoted (String.ofList part)
  | octetRange value => "Octet " ++ toString value ++ " (> 255) not permitted"
  | notHexadecimal part => "Only hex digits permitted in " ++ quoted (String.ofList part)
  | longGroup part => "At most 4 characters permitted in " ++ quoted (String.ofList part)

/-- Why an address of one family is refused. -/
inductive AddressCause
  | slash
  | octetCount
  | scope
  | fewParts
  | manyColons
  | secondGap
  | leadingColon
  | trailingColon
  | smallGap
  | partCount
  | part (cause : PartError)
  deriving DecidableEq

/-- A refused address: it is empty, its text has a fault, or the dotted address at its end
has. -/
inductive AddressError
  | empty
  | fault (cause : AddressCause) (text : List Char)
  | tail (cause : AddressError) (text : List Char)
  deriving DecidableEq

/-- What is wrong with an address, without its text. -/
def AddressCause.message : AddressCause → String
  | slash => "Unexpected '/' in "
  | octetCount => "Expected 4 octets in "
  | scope => "Invalid IPv6 address: "
  | fewParts => "At least 3 parts expected in "
  | manyColons => "At most 8 colons permitted in "
  | secondGap => "At most one '::' permitted in "
  | leadingColon => "Leading ':' only permitted as part of '::' in "
  | trailingColon => "Trailing ':' only permitted as part of '::' in "
  | smallGap => "Expected at most 7 other parts with '::' in "
  | partCount => "Exactly 8 parts expected without '::' in "
  | part cause => cause.message ++ " in "

/-- The text of a refusal. -/
def AddressError.message : AddressError → String
  | empty => "Address cannot be empty"
  | fault .scope text =>
    AddressCause.scope.message ++ "\"" ++ quoted (String.ofList text) ++ "\""
  | fault cause text => cause.message ++ quoted (String.ofList text)
  | tail cause text => cause.message ++ " in " ++ quoted (String.ofList text)

/-! ## IPv4 -/

/-- The number that ASCII digits denote. -/
def decimalValue (digits : List Char) : Nat :=
  digits.foldl (fun total c => 10 * total + (c.toNat - '0'.toNat)) 0

/-- An octet: up to three decimal digits without a leading zero, at most 255. -/
def readOctet (part : List Char) : Except PartError UInt8 :=
  if part.isEmpty then .error .emptyOctet
  else if !part.all Char.isDigit then .error (.notDecimal part)
  else if 3 < part.length then .error (.longOctet part)
  else if part ≠ ['0'] && part.head? = some '0' then .error (.leadingZero part)
  else
    let value := decimalValue part
    if 255 < value then .error (.octetRange value) else .ok (UInt8.ofNat value)

/-- Four octets with points between them. -/
def readV4 (text : List Char) : Except AddressError V4 :=
  if text.contains '/' then .error (.fault .slash text)
  else if text.isEmpty then .error .empty
  else match text.splitOn '.' with
    | [a, b, c, d] =>
      let octets : Except PartError V4 := do
        return ⟨← readOctet a, ← readOctet b, ← readOctet c, ← readOctet d⟩
      octets.mapError fun cause => .fault (.part cause) text
    | _ => .error (.fault .octetCount text)

/-! ## IPv6 -/

/-- A group: up to four hexadecimal digits. -/
def readGroup (part : List Char) : Except PartError UInt16 :=
  if !part.all Hexadecimal.isDigit then .error (.notHexadecimal part)
  else if 4 < part.length then .error (.longGroup part)
  else .ok (UInt16.ofNat (Hexadecimal.number part))

/-- The two groups that a dotted address stands for, written out. -/
def V4.groupTexts (x : V4) : List (List Char) :=
  [groupChars (UInt16.ofNat (x.a.toNat * 256 + x.b.toNat)),
    groupChars (UInt16.ofNat (x.c.toNat * 256 + x.d.toNat))]

/-- The parts between colons, a dotted address at the end replaced by its two groups. -/
def expandTail (text : List Char) (parts : List (List Char)) :
    Except AddressError (List (List Char)) :=
  match parts.getLast? with
  | some last =>
    if last.contains '.' then
      match readV4 last with
      | .ok octets => .ok (parts.dropLast ++ octets.groupTexts)
      | .error cause => .error (.tail cause text)
    else .ok parts
  | none => .ok parts

/-- The places of empty parts that have a neighbour on either side. -/
def innerGaps (parts : List (List Char)) : List Nat :=
  (List.range (parts.length - 1)).filter fun i => i ≠ 0 && parts[i]? = some []

/-- The parts before and after a gap. An empty part at an end belongs to the gap, which must
then reach that end. -/
def splitAtGap (parts : List (List Char)) (gap : Nat) :
    Except AddressCause (List (List Char) × List (List Char)) :=
  let before := parts.take gap
  let after := parts.drop (gap + 1)
  let opens := before.head? = some []
  let closes := after.getLast? = some []
  if opens && before.length ≠ 1 then .error .leadingColon
  else if closes && after.length ≠ 1 then .error .trailingColon
  else
    let before := if opens then [] else before
    let after := if closes then [] else after
    if 7 < before.length + after.length then .error .smallGap else .ok (before, after)

/-- The written groups before and after the run that is left out; without a gap all eight are
written. -/
def layOut (parts : List (List Char)) :
    Except AddressCause (List (List Char) × List (List Char)) :=
  if 9 < parts.length then .error .manyColons
  else match innerGaps parts with
    | [] =>
      if parts.length ≠ 8 then .error .partCount
      else if parts.head? = some [] then .error .leadingColon
      else if parts.getLast? = some [] then .error .trailingColon
      else .ok (parts, [])
    | [gap] => splitAtGap parts gap
    | _ => .error .secondGap

/-- Eight groups: those before the run that is left out, zeros, and those after it. -/
def assemble (before after : List UInt16) : Option V6 :=
  let groups := before ++ List.replicate (8 - (before.length + after.length)) 0 ++ after
  if h : groups.length = 8 then some ⟨groups, h⟩ else none

/-- An IPv6 address without a scope. -/
def readV6 (text : List Char) : Except AddressError V6 :=
  if text.contains '/' then .error (.fault .slash text)
  else if text.isEmpty then .error .empty
  else
    let parts := text.splitOn ':'
    if parts.length < 3 then .error (.fault .fewParts text)
    else do
      let parts ← expandTail text parts
      let (before, after) ← (layOut parts).mapError (.fault · text)
      let before ← (before.mapM readGroup).mapError fun cause => .fault (.part cause) text
      let after ← (after.mapM readGroup).mapError fun cause => .fault (.part cause) text
      match assemble before after with
      | some groups => .ok groups
      | none => .error (.fault .partCount text)

/-- An IPv6 address, and after a percent sign a scope that is not empty and has no second
percent sign. -/
def readScopedV6 (text : List Char) : Except AddressError (V6 × Option (List Char)) :=
  if text.contains '/' then .error (.fault .slash text)
  else match text.dropWhile (· != '%') with
    | [] => do return (← readV6 text, none)
    | _ :: scope =>
      if scope.isEmpty || scope.contains '%' then .error (.fault .scope text)
      else do return (← readV6 (text.takeWhile (· != '%')), some scope)

/-! ## Either family -/

/-- An address of either family, if the text is one. -/
def readAddress? (text : List Char) : Option Address :=
  match readV4 text with
  | .ok octets => some (.v4 octets)
  | .error _ =>
    match readScopedV6 text with
    | .ok (groups, scope) => some (.v6 groups (scope.map String.ofList))
    | .error _ => none

end ScannerDiscovery.Ip
