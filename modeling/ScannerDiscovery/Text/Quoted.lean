import ScannerDiscovery.Text.Unprintable

/-!
# Quoted text

The form in which messages quote a text: between single quotes, or between double quotes if
that saves an escape, with codes for the characters that cannot be shown.
-/

namespace ScannerDiscovery.Text

/-- The last `width` hexadecimal digits of a number, in small letters. -/
def hexDigits (width n : Nat) : List Char :=
  (List.range width).reverse.map fun place => Nat.digitChar (n / Nat.pow 16 place % 16)

/-- The mark that a text is quoted by. -/
def quoteMark (text : List Char) : Char :=
  if text.contains '\'' && !text.contains '"' then '"' else '\''

/-- One character of a quoted text. -/
def quoteChar (mark c : Char) : List Char :=
  if c = mark || c = '\\' then ['\\', c]
  else if c = '\n' then ['\\', 'n']
  else if c = '\r' then ['\\', 'r']
  else if c = '\t' then ['\\', 't']
  else if isUnprintable c then
    let n := c.toNat
    if n < 0x100 then '\\' :: 'x' :: hexDigits 2 n
    else if n < 0x10000 then '\\' :: 'u' :: hexDigits 4 n
    else '\\' :: 'U' :: hexDigits 8 n
  else [c]

/-- The quoted form of a text. -/
def quoteChars (text : List Char) : List Char :=
  let mark := quoteMark text
  mark :: (text.flatMap (quoteChar mark) ++ [mark])

/-- The quoted form of a string. -/
def quoted (text : String) : String :=
  String.ofList (quoteChars text.toList)

/-- The quoted form of a string, cut off after 200 characters. -/
def quotedBriefly (text : String) : String :=
  String.ofList ((quoteChars text.toList).take 200)

end ScannerDiscovery.Text
