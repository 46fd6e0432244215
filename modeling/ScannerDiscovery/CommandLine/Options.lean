import ScannerDiscovery.Number.Decimal

/-!
# Options of the command line

Long options may be shortened as long as they stay unique, and take their value behind an equals
sign or as the next argument. There are no arguments besides options.

Main definition:

- `read` : what the arguments ask for.
-/

namespace ScannerDiscovery.CommandLine

open Text

/-- What a run of the program is to do. There is no timeout if the option was given without one. -/
structure Options where
  timeout : Option Binary64
  asDocument : Bool := false
  debug : Bool := false

/-- What the arguments ask for: a run, the help text, or nothing that makes sense. -/
inductive Wish
  | run (options : Options)
  | help
  | misuse

/-! ## Single arguments -/

/-- The options that there are. -/
inductive Flag
  | help
  | timeout
  | json
  | debug
  deriving DecidableEq

/-- The spellings of the options. -/
def spellings : List (String × Flag) :=
  [("-h", .help), ("--help", .help), ("--timeout", .timeout), ("--json", .json),
    ("--debug", .debug)]

/-- What an argument is: a value, an option perhaps with a value of its own, an option that does
not exist, or a shortened option that could be several. -/
inductive Argument
  | value
  | option (flag : Flag) (isShort : Bool) (value : Option String)
  | unknown
  | ambiguous

/-- Whether a text is a number with a minus sign, without an exponent. A line feed may follow. -/
def isNegativeNumber : List Char → Bool
  | '-' :: rest =>
    let digit := fun c => (decimalValue? c).isSome
    let body := if rest.getLast? = some '\n' then rest.dropLast else rest
    match body.dropWhile digit with
    | [] => !body.isEmpty
    | '.' :: places => !places.isEmpty && places.all digit
    | _ => false
  | _ => false

/-- The text before the first equals sign, and the text behind it if there is one. -/
def splitValue (text : List Char) : List Char × Option String :=
  (text.takeWhile (· != '='),
    if text.contains '=' then some (String.ofList ((text.dropWhile (· != '=')).drop 1))
    else none)

/-- The options that an argument may stand for. One with two hyphens may be shortened; behind one
hyphen and a letter everything else is a value. -/
def candidates (text : List Char) : List Argument :=
  if text.take 2 = ['-', '-'] then
    let (name, value) := splitValue text
    (spellings.filter fun (spelling, _) => name.isPrefixOf spelling.toList).map
      fun (_, flag) => .option flag false value
  else
    spellings.filterMap fun (spelling, flag) =>
      if spelling.toList = text.take 2 then
        some (.option flag true (some (String.ofList (text.drop 2))))
      else if text.isPrefixOf spelling.toList then some (.option flag false none)
      else none

/-- What an argument is that starts with a hyphen and is no spelling of an option. -/
def classifyOther (text : List Char) : Argument :=
  match candidates text with
  | [argument] => argument
  | _ :: _ => .ambiguous
  | [] => if isNegativeNumber text || text.contains ' ' then .value else .unknown

/-- What an argument is. -/
def classify (argument : String) : Argument :=
  let text := argument.toList
  if text.head? ≠ some '-' || text.length = 1 then .value
  else
    match spellings.lookup argument with
    | some flag => .option flag (text.length = 2) none
    | none =>
      let (name, value) := splitValue text
      match spellings.lookup (String.ofList name), value with
      | some flag, some value => .option flag (name.length = 2) (some value)
      | _, _ => classifyOther text

/-- All arguments with what they are. Behind two hyphens alone everything is a value. -/
def classifyEach : List String → List (String × Argument)
  | [] => []
  | argument :: rest =>
    if argument = "--" then (argument, .value) :: rest.map fun later => (later, .value)
    else (argument, classify argument) :: classifyEach rest

/-! ## All arguments -/

/-- Whether a cluster of letters behind an option of one letter is made of such options only. -/
def isCluster (letters : String) : Bool :=
  letters ≠ "" && letters.toList.all (· == 'h')

/-- The timeout that a value behind an equals sign stands for. Two hyphens only mark where options
end, so that they stand for no timeout. -/
def joinedTimeout? (value : String) : Option (Option Binary64) :=
  if value = "--" then some none else (Decimal.readArgument value.toList).map some

/-- Goes through the arguments, with the options so far and whether any argument was left
over. -/
def readFrom (options : Options) (leftOver : Bool) : List (String × Argument) → Wish
  | [] => if leftOver then .misuse else .run options
  | (_, .value) :: rest | (_, .unknown) :: rest | (_, .ambiguous) :: rest =>
    readFrom options true rest
  | (_, .option .timeout _ (some value)) :: rest =>
    match joinedTimeout? value with
    | some timeout => readFrom { options with timeout } leftOver rest
    | none => .misuse
  | (_, .option .timeout _ none) :: (value, .value) :: rest =>
    match Decimal.readArgument value.toList with
    | some timeout => readFrom { options with timeout := some timeout } leftOver rest
    | none => .misuse
  | (_, .option .timeout _ none) :: _ => .misuse
  | (_, .option .help _ none) :: _ => .help
  | (_, .option .help isShort (some letters)) :: _ =>
    if isShort && isCluster letters then .help else .misuse
  | (_, .option .json _ value) :: rest =>
    if value.isNone then readFrom { options with asDocument := true } leftOver rest else .misuse
  | (_, .option .debug _ value) :: rest =>
    if value.isNone then readFrom { options with debug := true } leftOver rest else .misuse

/-- What arguments ask for. A shortened option that could be several spoils everything. -/
def read (defaultTimeout : Binary64) (arguments : List String) : Wish :=
  let classified := classifyEach arguments
  if classified.any (·.2 matches .ambiguous) then .misuse
  else readFrom { timeout := some defaultTimeout } false classified

/-! ## Help -/

/-- The help text. -/
def helpText : String :=
  "usage: scanfinder [-h] [--timeout TIMEOUT] [--json] [--debug]\n\n" ++
  "Discover network scanners via mDNS\n\n" ++
  "options:\n" ++
  "  -h, --help         show this help message and exit\n" ++
  "  --timeout TIMEOUT  Max seconds to wait for the initial scan\n" ++
  "  --json             Print devices as JSON\n" ++
  "  --debug            Enable debug logging\n"

end ScannerDiscovery.CommandLine
