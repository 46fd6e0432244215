import ScannerDiscovery.Number.Binary64
import ScannerDiscovery.Text.Blank
import ScannerDiscovery.Text.Digit

/-!
# Reading decimal numbers

Numbers are written as decimal digits with an optional point and exponent, or as one of the
words for infinity and the undefined number, in either case with an optional sign. Settings and
the command line share this grammar and differ in what may surround and divide the digits.

Main definitions:

- `readReal` : the common grammar.
- `readSetting` : the form of a settings value.
- `readArgument` : the form of a command line argument.
-/

namespace ScannerDiscovery.Decimal

open Text

/-! ## The common grammar -/

/-- An ASCII letter in small form; other characters as they are. -/
def small (c : Char) : Char :=
  if 'A' ≤ c && c ≤ 'Z' then Char.ofNat (c.toNat + 32) else c

/-- The number that ASCII digits denote. -/
def digitsValue (digits : List Char) : Nat :=
  digits.foldl (fun total c => 10 * total + (c.toNat - '0'.toNat)) 0

/-- The sign in front of a number, and the rest. -/
def splitSign : List Char → Bool × List Char
  | '-' :: rest => (true, rest)
  | '+' :: rest => (false, rest)
  | text => (false, text)

/-- The exponent that ends a number: nothing, or a mark and a signed integer. -/
def readExponent : List Char → Option Int
  | [] => some 0
  | mark :: rest =>
    let (negative, digits) := splitSign rest
    if small mark = 'e' && !digits.isEmpty && digits.all Char.isDigit then
      some (if negative then -(digitsValue digits : Int) else digitsValue digits)
    else none

/-- A number without its sign: digits with a point among or beside them, and an exponent. -/
def readUnsigned (negative : Bool) (text : List Char) : Option Binary64 :=
  let whole := text.takeWhile Char.isDigit
  let (places, rest) :=
    match text.dropWhile Char.isDigit with
    | '.' :: rest => (rest.takeWhile Char.isDigit, rest.dropWhile Char.isDigit)
    | rest => ([], rest)
  if whole.isEmpty && places.isEmpty then none
  else (readExponent rest).map fun exponent =>
    Binary64.ofDecimal negative (digitsValue (whole ++ places)) (exponent - places.length)

/-- A number in the common grammar. -/
def readReal (text : List Char) : Option Binary64 :=
  let (negative, body) := splitSign text
  let word := String.ofList (body.map small)
  if word = "inf" || word = "infinity" then some (.infinite negative)
  else if word = "nan" then some .undefined
  else readUnsigned negative body

/-! ## Surroundings -/

/-- Whether underscores divide a text: some inside, none at an end, no two together. -/
def dividedByUnderscores (text : List Char) : Bool :=
  text.contains '_' && text.head? != some '_' && text.getLast? != some '_' &&
    !(text.zip (text.drop 1)).contains ('_', '_')

/-- A settings value: the number may stand between blanks or have underscores among its
characters. -/
def readSetting (text : List Char) : Option Binary64 :=
  match readReal (trim isNumberBlank text) with
  | some x => some x
  | none => if dividedByUnderscores text then readReal (text.filter (· != '_')) else none

/-- Whether every underscore stands between two ASCII digits. -/
def underscoresBetweenDigits : Option Char → List Char → Bool
  | _, [] => true
  | previous, '_' :: rest =>
    (previous.map Char.isDigit).getD false && (rest.head?.map Char.isDigit).getD false &&
      underscoresBetweenDigits (some '_') rest
  | _, c :: rest => underscoresBetweenDigits (some c) rest

/-- A command line argument: the number may stand between blanks, be written with the digits of
any script, and have single underscores between digits. -/
def readArgument (text : List Char) : Option Binary64 :=
  let body := (trim isNumberBlank text).map asciiDigit
  if underscoresBetweenDigits none body then readReal (body.filter (· != '_')) else none

end ScannerDiscovery.Decimal
