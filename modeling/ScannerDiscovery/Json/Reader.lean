import ScannerDiscovery.Json.Document
import ScannerDiscovery.Number.Hexadecimal
import ScannerDiscovery.OrderedMap

/-!
# Reading JSON documents

A document is read from a text that holds it and blanks around it. Besides the numbers of the
grammar, the words for infinity and the undefined number stand for numbers. Of several fields of
one name in a record the last one counts.

Each reader takes a text and gives what stands at its start with the text behind it. A bound on
the number of steps, which the length of the text provides, makes the readers total.

Main definition:

- `read?` : the document that a text holds.
-/

namespace ScannerDiscovery.Json

/-- A text without the blanks at its start. -/
def skipBlanks (text : List Char) : List Char :=
  text.dropWhile fun c => c == ' ' || c == '\t' || c == '\n' || c == '\r'

/-! ## Text -/

/-- Four hexadecimal digits as a number. -/
def readUnit? (text : List Char) : Option (Nat × List Char) :=
  let digits := text.take 4
  if digits.length = 4 && digits.all Hexadecimal.isDigit then
    some (Hexadecimal.number digits, text.drop 4)
  else none

/-- A text as it is read: its characters, and nothing for each surrogate without its other half. -/
abbrev RawText := List (Option Char)

/-- The characters of a text as it was read, with a replacement for each broken one. -/
def RawText.repaired (raw : RawText) : String :=
  String.ofList (raw.map (·.getD '\uFFFD'))

/-- The document that a text as it was read stands for. -/
def RawText.document (raw : RawText) : Document :=
  if raw.all Option.isSome then .text raw.repaired else .brokenText raw.repaired

/-- The character that a number stands for. A surrogate by itself stands for none. -/
def charOfUnit? (n : Nat) : Option Char :=
  if n.isValidChar then some (Char.ofNat n) else none

/-- The second half of a pair of surrogates, written as an escape. -/
def readLowSurrogate? : List Char → Option (Nat × List Char)
  | '\\' :: 'u' :: rest => (readUnit? rest).filter fun (n, _) => 0xDC00 ≤ n && n < 0xE000
  | _ => none

/-- An escaped character, behind the backslash. -/
def readEscape? : List Char → Option (Option Char × List Char)
  | '"' :: rest => some (some '"', rest)
  | '\\' :: rest => some (some '\\', rest)
  | '/' :: rest => some (some '/', rest)
  | 'b' :: rest => some (some '\x08', rest)
  | 'f' :: rest => some (some '\x0c', rest)
  | 'n' :: rest => some (some '\n', rest)
  | 'r' :: rest => some (some '\r', rest)
  | 't' :: rest => some (some '\t', rest)
  | 'u' :: rest =>
    match readUnit? rest with
    | none => none
    | some (high, rest) =>
      if 0xD800 ≤ high && high < 0xDC00 then
        match readLowSurrogate? rest with
        | some (low, rest) =>
          some (charOfUnit? (0x10000 + (high - 0xD800) * 0x400 + (low - 0xDC00)), rest)
        | none => some (charOfUnit? high, rest)
      else some (charOfUnit? high, rest)
  | _ => none

/-- A text up to its closing quote, with the characters read so far, latest first. Control
characters must be escaped. -/
def readText? : Nat → RawText → List Char → Option (RawText × List Char)
  | 0, _, _ => none
  | _, _, [] => none
  | _ + 1, done, '"' :: rest => some (done.reverse, rest)
  | n + 1, done, '\\' :: rest =>
    match readEscape? rest with
    | some (c, rest) => readText? n (c :: done) rest
    | none => none
  | n + 1, done, c :: rest => if c.toNat < 0x20 then none else readText? n (some c :: done) rest

/-! ## Numbers and words -/

/-- The whole part of a number at the start of a text: digits without a leading zero. -/
def wholePart : List Char → List Char
  | '0' :: _ => ['0']
  | text => text.takeWhile Char.isDigit

/-- A part of a number at the start of a text: an opening with digits behind it, or nothing. -/
def partWith (opening text : List Char) : List Char :=
  let digits := (text.drop opening.length).takeWhile Char.isDigit
  if digits.isEmpty then [] else opening ++ digits

/-- The places of a number at the start of a text. -/
def placesPart : List Char → List Char
  | '.' :: rest => partWith ['.'] ('.' :: rest)
  | _ => []

/-- The exponent of a number at the start of a text. -/
def exponentPart : List Char → List Char
  | mark :: rest =>
    if mark == 'e' || mark == 'E' then
      let sign := (rest.take 1).filter fun c => c == '+' || c == '-'
      partWith (mark :: sign) (mark :: rest)
    else []
  | [] => []

/-- A number. -/
def readNumber? (text : List Char) : Option (Document × List Char) :=
  let sign := (text.take 1).filter (· == '-')
  let afterSign := text.drop sign.length
  let whole := wholePart afterSign
  if whole.isEmpty then none
  else
    let afterWhole := afterSign.drop whole.length
    let places := placesPart afterWhole
    let afterPlaces := afterWhole.drop places.length
    let exponent := exponentPart afterPlaces
    some (.number (String.ofList (sign ++ whole ++ places ++ exponent)),
      afterPlaces.drop exponent.length)

/-- The words that stand for documents. -/
def words : List (String × Document) := [
  ("null", .null), ("true", .flag true), ("false", .flag false), ("NaN", .number "NaN"),
  ("Infinity", .number "Infinity"), ("-Infinity", .number "-Infinity")]

/-- A word that stands for a document. -/
def readWord? (text : List Char) : Option (Document × List Char) :=
  (words.find? fun (word, _) => word.toList.isPrefixOf text).map fun (word, document) =>
    (document, text.drop word.length)

/-! ## Documents -/

/-- A record with given fields. Of several fields of one name the last one counts. -/
def Document.ofFields (fields : List (String × Document)) : Document :=
  .record (OrderedMap.ofList fields).entries

mutual

/-- A document. -/
def readDocument? : Nat → List Char → Option (Document × List Char)
  | 0, _ => none
  | n + 1, text =>
    match skipBlanks text with
    | '"' :: rest => (readText? n [] rest).map fun (raw, rest) => (raw.document, rest)
    | '[' :: rest =>
      match skipBlanks rest with
      | ']' :: rest => some (.list [], rest)
      | rest => readItems? n [] rest
    | '\x7b' :: rest =>
      match skipBlanks rest with
      | '\x7d' :: rest => some (.record [], rest)
      | rest => readFields? n [] rest
    | text => (readWord? text).or (readNumber? text)

/-- The items of a list up to its end, with those read so far, latest first. -/
def readItems? : Nat → List Document → List Char → Option (Document × List Char)
  | 0, _, _ => none
  | n + 1, done, text =>
    match readDocument? n text with
    | none => none
    | some (item, rest) =>
      match skipBlanks rest with
      | ',' :: rest => readItems? n (item :: done) rest
      | ']' :: rest => some (.list (item :: done).reverse, rest)
      | _ => none

/-- The fields of a record up to its end, with those read so far, latest first. -/
def readFields? : Nat → List (String × Document) → List Char → Option (Document × List Char)
  | 0, _, _ => none
  | n + 1, done, text =>
    match readName? n text with
    | none => none
    | some (name, rest) =>
      match readDocument? n rest with
      | none => none
      | some (value, rest) =>
        match skipBlanks rest with
        | ',' :: rest => readFields? n ((name, value) :: done) rest
        | '\x7d' :: rest => some (.ofFields ((name, value) :: done).reverse, rest)
        | _ => none

/-- The name of a field with the colon behind it. -/
def readName? : Nat → List Char → Option (String × List Char)
  | 0, _ => none
  | n + 1, text =>
    match skipBlanks text with
    | '"' :: rest =>
      match readText? n [] rest with
      | none => none
      | some (name, rest) =>
        match skipBlanks rest with
        | ':' :: rest => some (name.repaired, rest)
        | _ => none
    | _ => none

end

/-- The document that a text holds, if it holds one and nothing else. A list or a record and its
first item begin at one character, so that there are up to two steps for each. -/
def read? (text : String) : Option Document :=
  match readDocument? (2 * text.length + 2) text.toList with
  | some (document, rest) => if (skipBlanks rest).isEmpty then some document else none
  | none => none

end ScannerDiscovery.Json
