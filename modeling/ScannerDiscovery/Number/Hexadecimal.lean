import ScannerDiscovery.Text.Blank
import ScannerDiscovery.Text.Digit

/-!
# Reading hexadecimal numbers

The digits of hexadecimal numbers, and the form that a whole number may take: blanks around it, a
plus sign and a mark of the base in front of it, underscores among its digits.

Main definitions:

- `number` : the number that digits denote.
- `read?` : the number that a text denotes.
-/

namespace ScannerDiscovery.Hexadecimal

open Text

/-! ## Digits -/

/-- The value of an ASCII hexadecimal digit. -/
def digitValue? (c : Char) : Option Nat :=
  if '0' ≤ c && c ≤ '9' then some (c.toNat - '0'.toNat)
  else if 'a' ≤ c && c ≤ 'f' then some (c.toNat - 'a'.toNat + 10)
  else if 'A' ≤ c && c ≤ 'F' then some (c.toNat - 'A'.toNat + 10)
  else none

/-- Whether a character is an ASCII hexadecimal digit. -/
def isDigit (c : Char) : Bool :=
  (digitValue? c).isSome

/-- The number that ASCII hexadecimal digits denote. -/
def number (digits : List Char) : Nat :=
  digits.foldl (fun total c => 16 * total + (digitValue? c).getD 0) 0

/-! ## Whole numbers -/

/-- A text without a plus sign in front. -/
def dropSign : List Char → List Char
  | '+' :: rest => rest
  | text => text

/-- A text without a mark of the base in front, which an underscore may follow. -/
def dropMark : List Char → List Char
  | '0' :: 'x' :: '_' :: rest | '0' :: 'X' :: '_' :: rest => rest
  | '0' :: 'x' :: rest | '0' :: 'X' :: rest => rest
  | text => text

/-- The number that a text denotes. Decimal digits may be those of any script. -/
def read? (text : List Char) : Option Nat :=
  let digits := dropMark (dropSign ((trim isNumberBlank text).map asciiDigit))
  if isDivided isDigit digits then some (number (digits.filter (· != '_'))) else none

end ScannerDiscovery.Hexadecimal
