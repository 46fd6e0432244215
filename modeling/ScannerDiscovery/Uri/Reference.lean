import ScannerDiscovery.Ip.Reader
import ScannerDiscovery.Text.Lowercase

/-!
# Parts of a URI

A URI is split into scheme, authority, path, query and fragment. A bracketed host must be an
IPv6 address or a host of a future version, and an authority must not turn into another one
under compatibility normalisation.

Main definitions:

- `Uri.split` : the parts of a URI, or the reason why it has none.
- `Uri.host?`, `Uri.port?` : host and port of the authority.
-/

namespace ScannerDiscovery

open Text

/-- The parts of a URI. -/
structure Uri where
  scheme : List Char
  authority : List Char
  path : List Char
  query : List Char
  fragment : List Char
  deriving DecidableEq

/-- Why a URI cannot be read. -/
inductive UriError
  | brackets
  | bracketedHost
  | confusableAuthority
  | port
  deriving DecidableEq

namespace Uri

/-! ## Text around a separator -/

/-- The text before the first occurrence of a separator; all of it if there is none. -/
def before (separator : Char) (text : List Char) : List Char :=
  text.takeWhile (· != separator)

/-- The text after the first occurrence of a separator; nothing if there is none. -/
def after (separator : Char) (text : List Char) : List Char :=
  (text.dropWhile (· != separator)).drop 1

/-- The text after the last occurrence of a separator; all of it if there is none. -/
def afterLast (separator : Char) (text : List Char) : List Char :=
  (text.reverse.takeWhile (· != separator)).reverse

/-! ## The authority -/

/-- Host and port of an authority. The host is the text in brackets if there are any. -/
def hostAndPort (authority : List Char) : List Char × List Char :=
  let hostPort := afterLast '@' authority
  if hostPort.contains '[' then
    let bracketed := after '[' hostPort
    (before ']' bracketed, after ':' (after ']' bracketed))
  else (before ':' hostPort, after ':' hostPort)

/-- Whether a text is a host of a future address version: `v`, hexadecimal digits, a point and
anything. -/
def isFutureHost (host : List Char) : Bool :=
  match host with
  | 'v' :: rest =>
    !(rest.takeWhile Hexadecimal.isDigit).isEmpty &&
      match rest.dropWhile Hexadecimal.isDigit with
      | '.' :: _ :: _ => true
      | _ => false
  | _ => false

/-- Whether a text may stand in brackets: a host of a future version or an IPv6 address. -/
def isBracketable (host : List Char) : Bool :=
  if host.head? = some 'v' then isFutureHost host
  else match Ip.readAddress? host with
    | some (.v6 ..) => true
    | _ => false

/-- Checks the brackets of an authority: both or none, the host right between them, nothing but
a port behind. -/
def checkBrackets (authority : List Char) : Except UriError Unit :=
  if authority.contains '[' != authority.contains ']' then .error .brackets
  else if !authority.contains '[' then .ok ()
  else
    let hostPort := afterLast '@' authority
    let tail := after ']' (after '[' hostPort)
    if hostPort.contains '[' && (hostPort.head? != some '[' || !(tail.isEmpty || tail.head? = some ':'))
    then .error .brackets
    else if isBracketable (hostAndPort authority).1 then .ok ()
    else .error .bracketedHost

/-- Characters whose compatibility form contains one of the separators of a URI. -/
def isConfusable (c : Char) : Bool :=
  [0x2047, 0x2048, 0x2049, 0x2100, 0x2101, 0x2105, 0x2106, 0x2A74, 0xFE13, 0xFE16, 0xFE55,
    0xFE56, 0xFE5F, 0xFE6B, 0xFF03, 0xFF0F, 0xFF1A, 0xFF1F, 0xFF20].contains c.toNat

/-! ## Splitting -/

/-- Characters of a scheme after its first letter. -/
def isSchemeChar (c : Char) : Bool :=
  c.isAlphanum || c == '+' || c == '-' || c == '.'

/-- The scheme in front of a colon, and the rest. Without a well-formed scheme the whole text is
the rest. -/
def splitScheme (text : List Char) : List Char × List Char :=
  let scheme := before ':' text
  if text.contains ':' && (scheme.head?.map Char.isAlpha).getD false && scheme.all isSchemeChar
  then (scheme.map Char.toLower, after ':' text)
  else ([], text)

/-- Whether a character ends an authority. -/
def endsAuthority (c : Char) : Bool :=
  c == '/' || c == '?' || c == '#'

/-- The authority after two slashes, and the rest. -/
def splitAuthority : List Char → List Char × List Char
  | '/' :: '/' :: rest =>
    (rest.takeWhile (!endsAuthority ·), rest.dropWhile (!endsAuthority ·))
  | text => ([], text)

/-- A text without control characters and spaces in front, and without tabs and line ends. -/
def clean (text : List Char) : List Char :=
  (text.dropWhile fun c => c.toNat ≤ 0x20).filter fun c => c != '\t' && c != '\r' && c != '\n'

/-- The parts of a URI. -/
def split (text : List Char) : Except UriError Uri := do
  let (scheme, rest) := splitScheme (clean text)
  let (authority, rest) := splitAuthority rest
  checkBrackets authority
  if authority.any isConfusable then throw .confusableAuthority
  let hierarchical := before '#' rest
  return {
    scheme
    authority
    path := before '?' hierarchical
    query := after '?' hierarchical
    fragment := after '#' rest }

/-- The host of the authority, in small letters up to the zone; absent if it is empty. -/
def host? (uri : Uri) : Option (List Char) :=
  let host := (hostAndPort uri.authority).1
  if host.isEmpty then none
  else some (toLower (host.takeWhile (· != '%')) ++ host.dropWhile (· != '%'))

/-- The port of the authority, absent if it is empty: ASCII digits that denote at most 65535. -/
def port? (uri : Uri) : Except UriError (Option Nat) :=
  let port := (hostAndPort uri.authority).2
  if port.isEmpty then .ok none
  else if !port.all Char.isDigit then .error .port
  else
    let value := Ip.decimalValue port
    if 65535 < value then .error .port else .ok (some value)

end Uri

end ScannerDiscovery
