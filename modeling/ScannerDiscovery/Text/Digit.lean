import ScannerDiscovery.Text.CharMap

/-!
# Digits of all scripts

Decimal digits, which have a place value, and the further digit characters (superscripts,
circled digits) that have none. A number is read from decimal digits only.

Main results:

- `decimalValue?_isDigit` : every decimal digit is a digit character.
-/

namespace ScannerDiscovery.Text

/-- Decimal digits: each range holds whole blocks of ten that start at zero. -/
def decimalRanges : List (Nat × Nat) := [
    (48, 57), (1632, 1641), (1776, 1785), (1984, 1993), (2406, 2415), (2534, 2543),
    (2662, 2671), (2790, 2799), (2918, 2927), (3046, 3055), (3174, 3183), (3302, 3311),
    (3430, 3439), (3558, 3567), (3664, 3673), (3792, 3801), (3872, 3881), (4160, 4169),
    (4240, 4249), (6112, 6121), (6160, 6169), (6470, 6479), (6608, 6617), (6784, 6793),
    (6800, 6809), (6992, 7001), (7088, 7097), (7232, 7241), (7248, 7257), (42528, 42537),
    (43216, 43225), (43264, 43273), (43472, 43481), (43504, 43513), (43600, 43609), (44016, 44025),
    (65296, 65305), (66720, 66729), (68912, 68921), (69734, 69743), (69872, 69881), (69942, 69951),
    (70096, 70105), (70384, 70393), (70736, 70745), (70864, 70873), (71248, 71257), (71360, 71369),
    (71472, 71481), (71904, 71913), (72016, 72025), (72784, 72793), (73040, 73049), (73120, 73129),
    (92768, 92777), (92864, 92873), (93008, 93017), (120782, 120831), (123200, 123209), (123632, 123641),
    (125264, 125273), (130032, 130041)]

/-- Digit characters without a place value. -/
def otherDigitRanges : List (Nat × Nat) := [
    (178, 179), (185, 185), (4969, 4977), (6618, 6618), (8304, 8304), (8308, 8313),
    (8320, 8329), (9312, 9320), (9332, 9340), (9352, 9360), (9450, 9450), (9461, 9469),
    (9471, 9471), (10102, 10110), (10112, 10120), (10122, 10130), (68160, 68163), (69216, 69224),
    (69714, 69722), (127232, 127242)]

/-- The value of a decimal digit of any script. -/
def decimalValue? (c : Char) : Option Nat :=
  (findRange decimalRanges c.toNat).map fun range => (c.toNat - range.1) % 10

/-- Whether a character is a digit of some kind. -/
def isDigit (c : Char) : Bool :=
  inRanges decimalRanges c || inRanges otherDigitRanges c

/-- Whether a text has at least one character and digits of some kind only. -/
def allDigits (text : List Char) : Bool :=
  !text.isEmpty && text.all isDigit

/-- The number that decimal digits of any script denote; nothing if another character occurs. -/
def decimalNumber? (text : List Char) : Option Nat :=
  text.foldl (fun total c => do return 10 * (← total) + (← decimalValue? c)) (some 0)

/-- A decimal digit of any script as an ASCII digit; other characters as they are. -/
def asciiDigit (c : Char) : Char :=
  match decimalValue? c with
  | some n => Nat.digitChar n
  | none => c

/-- Whether a text is made of digits of a class, with single underscores between them at most. -/
def isDivided (digit : Char → Bool) (text : List Char) : Bool :=
  (text.splitOn '_').all fun part => !part.isEmpty && part.all digit

/-- A character with a decimal value counts as a digit. -/
theorem decimalValue?_isDigit {c : Char} {n : Nat} (h : decimalValue? c = some n) :
    isDigit c = true := by
  obtain ⟨range, hr, -⟩ := Option.map_eq_some_iff.1 h
  simp [isDigit, inRanges, hr]

end ScannerDiscovery.Text
