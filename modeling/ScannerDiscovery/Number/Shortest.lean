import ScannerDiscovery.Number.Binary64

/-!
# The shortest decimal form of a number

A finite number is written with the fewest significant digits that read back as the same
number, and of those with the digits nearest to its exact value.

Main definitions:

- `shortestDigits` : the digits and the place of the decimal point.
- `Binary64.text` : the written form, positional between `10 ^ -4` and `10 ^ 16`.
-/

namespace ScannerDiscovery.Binary64

/-! ## Digits -/

/-- A fraction times a power of ten, as numerator and denominator. -/
def scaleTen (num den : Nat) (exponent : Int) : Nat × Nat :=
  if 0 ≤ exponent then (num * Nat.pow 10 exponent.toNat, den)
  else (num, den * Nat.pow 10 (-exponent).toNat)

/-- The number of digits before the decimal point of a positive fraction; not positive if the
fraction has zeros after the point. -/
def pointOf (num den : Nat) : Int :=
  if den ≤ num then (Nat.toDigits 10 (num / den)).length
  else
    let size := (Nat.toDigits 10 (den / num)).length
    let scaled := scaleTen num den (size - 1)
    if scaled.2 ≤ scaled.1 then 2 - (size : Int) else 1 - (size : Int)

/-- The reals that round to a number: the number and both ends, over one denominator, and
whether the ends themselves round to it. -/
structure Interval where
  low : Nat
  value : Nat
  high : Nat
  den : Nat
  closed : Bool

/-- The reals that round to `mantissa · 2 ^ exponent`. The gap below a power of two is half the
gap above it. -/
def interval (mantissa : Nat) (exponent : Int) : Interval :=
  let scale := Nat.pow 2 exponent.toNat
  let below := if mantissa = Nat.pow 2 52 && minExponent < exponent then 1 else 2
  { low := (4 * mantissa - below) * scale
    value := 4 * mantissa * scale
    high := (4 * mantissa + 2) * scale
    den := 4 * Nat.pow 2 (-exponent).toNat
    closed := mantissa % 2 == 0 }

/-- Whether `digits · 10 ^ place` rounds to the number. -/
def Interval.holds (i : Interval) (digits : Nat) (place : Int) : Bool :=
  let scaled := scaleTen (digits * i.den) 1 place
  if i.closed then i.low * scaled.2 ≤ scaled.1 && scaled.1 ≤ i.high * scaled.2
  else i.low * scaled.2 < scaled.1 && scaled.1 < i.high * scaled.2

/-- Of the two neighbours of the number on the grid of multiples of `10 ^ place`, the nearest
that rounds to it. -/
def Interval.onGrid (i : Interval) (place : Int) : Option Nat :=
  let scaled := scaleTen i.value i.den (-place)
  let floor := scaled.1 / scaled.2
  let twice := 2 * (scaled.1 % scaled.2)
  let upFirst := scaled.2 < twice || (twice == scaled.2 && floor % 2 == 1)
  let candidates := if upFirst then [floor + 1, floor] else [floor, floor + 1]
  candidates.find? fun digits => digits != 0 && i.holds digits place

/-- The first grid with a hit, tried from the coarsest on. -/
def Interval.search (i : Interval) (point : Int) : List Nat → Nat × Int
  | [] => (0, 0)
  | count :: rest =>
    match i.onGrid (point - count) with
    | some digits => (digits, point - count)
    | none => i.search point rest

/-- The fewest decimal digits of a positive number, most significant first and without trailing
zeros, and the number of digits before the decimal point. -/
def shortestDigits (mantissa : Nat) (exponent : Int) : List Char × Int :=
  let i := interval mantissa exponent
  let (digits, place) := i.search (pointOf i.value i.den) [1, 2, 3, 4, 5, 6, 7, 8, 9, 10, 11, 12,
    13, 14, 15, 16, 17]
  let written := Nat.toDigits 10 digits
  ((written.reverse.dropWhile (· == '0')).reverse, written.length + place)

/-! ## Written form -/

/-- Positional form of digits, with at least one digit on either side of the point. -/
def positional (digits : List Char) (point : Int) : List Char :=
  if point ≤ 0 then '0' :: '.' :: (List.replicate (-point).toNat '0' ++ digits)
  else
    let whole := point.toNat
    let padded := digits ++ List.replicate (whole - digits.length) '0'
    let places := padded.drop whole
    padded.take whole ++ '.' :: (if places.isEmpty then ['0'] else places)

/-- Exponent form of digits: one digit before the point, a signed exponent of at least two
digits. -/
def scientific (digits : List Char) (point : Int) : List Char :=
  let exponent := point - 1
  let size := Nat.toDigits 10 exponent.natAbs
  digits.take 1 ++ (if digits.length ≤ 1 then [] else '.' :: digits.drop 1) ++
    'e' :: (if exponent < 0 then '-' else '+') ::
    (if size.length < 2 then '0' :: size else size)

/-- The written form of a number. -/
def text : Binary64 → String
  | finite negative mantissa exponent =>
    let sign := if negative then ['-'] else []
    if mantissa = 0 then String.ofList (sign ++ ['0', '.', '0'])
    else
      let (digits, point) := shortestDigits mantissa exponent
      let body := if -4 < point && point ≤ 16 then positional digits point
        else scientific digits point
      String.ofList (sign ++ body)
  | infinite negative => if negative then "-inf" else "inf"
  | undefined => "nan"

end ScannerDiscovery.Binary64
