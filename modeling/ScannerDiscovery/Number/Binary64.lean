/-!
# Binary floating point numbers of 64 bits

Numbers with 53 significant bits, represented exactly: a finite number is a sign, a natural
number and a power of two. All arithmetic is exact followed by one rounding to the nearest
representable number, a tie going to the even neighbour.

Main results:

- `le_refl_of_finite`, `not_le_undefined` : the order is that of the exact values, and nothing is
  comparable with the undefined number.
- `lt_irrefl` : no number is below itself.
-/

namespace ScannerDiscovery

/-- A binary floating point number of 64 bits: `± mantissa · 2 ^ exponent`, an infinity, or the
undefined number. -/
inductive Binary64
  | finite (negative : Bool) (mantissa : Nat) (exponent : Int)
  | infinite (negative : Bool)
  | undefined
  deriving DecidableEq, Repr, Inhabited

namespace Binary64

/-! ## Rounding -/

/-- The least exponent of a finite number. -/
def minExponent : Int := -1074

/-- The greatest exponent of a finite number. -/
def maxExponent : Int := 971

/-- Zero. -/
def zero : Binary64 := finite false 0 minExponent

/-- The quotient rounded to the nearest natural number, a tie going to the even one. -/
def divNearest (num den : Nat) : Nat :=
  let q := num / den
  let twice := 2 * (num % den)
  if den < twice || (twice == den && q % 2 == 1) then q + 1 else q

/-- A fraction divided by a power of two, as numerator and denominator. -/
def scaleDown (num den : Nat) (exponent : Int) : Nat × Nat :=
  if 0 ≤ exponent then (num, den * Nat.pow 2 exponent.toNat)
  else (num * Nat.pow 2 (-exponent).toNat, den)

/-- The power of two of the last place of the fraction `num / den`, were its size unbounded
upwards. -/
def placeOf (num den : Nat) : Int :=
  let guess := max ((num.log2 : Int) - den.log2 - 53) minExponent
  let scaled := scaleDown num den guess
  if Nat.pow 2 53 ≤ scaled.1 / scaled.2 then guess + 1 else guess

/-- The number nearest to the fraction `± num / den`. -/
def ofRatio (negative : Bool) (num den : Nat) : Binary64 :=
  if num = 0 then finite negative 0 minExponent
  else
    let place := placeOf num den
    let scaled := scaleDown num den place
    let mantissa := divNearest scaled.1 scaled.2
    let (mantissa, place) :=
      if mantissa = Nat.pow 2 53 then (Nat.pow 2 52, place + 1) else (mantissa, place)
    if maxExponent < place then infinite negative else finite negative mantissa place

/-- The number nearest to `± digits · 10 ^ exponent`. Powers of ten far outside the range are
not computed. -/
def ofDecimal (negative : Bool) (digits : Nat) (exponent : Int) : Binary64 :=
  let size := (Nat.toDigits 10 digits).length + exponent
  if digits = 0 || size < -330 then finite negative 0 minExponent
  else if 310 < size then infinite negative
  else if 0 ≤ exponent then ofRatio negative (digits * Nat.pow 10 exponent.toNat) 1
  else ofRatio negative digits (Nat.pow 10 (-exponent).toNat)

/-- The number nearest to an integer. -/
def ofInt (n : Int) : Binary64 :=
  ofRatio (n < 0) n.natAbs 1

instance (n : Nat) : OfNat Binary64 n := ⟨ofRatio false n 1⟩

/-! ## Arithmetic -/

/-- The signed numerator of a finite number over a common power of two not above its own. -/
def signedAt (negative : Bool) (mantissa : Nat) (exponent common : Int) : Int :=
  let size : Int := (mantissa * Nat.pow 2 (exponent - common).toNat : Nat)
  if negative then -size else size

/-- The number nearest to `± num · 2 ^ exponent`. -/
def ofScaled (negative : Bool) (num : Nat) (exponent : Int) : Binary64 :=
  if 0 ≤ exponent then ofRatio negative (num * Nat.pow 2 exponent.toNat) 1
  else ofRatio negative num (Nat.pow 2 (-exponent).toNat)

/-- Sum, rounded once. -/
def add : Binary64 → Binary64 → Binary64
  | finite s m e, finite t n f =>
    let common := min e f
    let sum := signedAt s m e common + signedAt t n f common
    ofScaled (if sum = 0 then s && t else sum < 0) sum.natAbs common
  | infinite s, infinite t => if s = t then infinite s else undefined
  | infinite s, finite .. => infinite s
  | finite .., infinite t => infinite t
  | _, _ => undefined

/-- Product, rounded once. -/
def mul : Binary64 → Binary64 → Binary64
  | finite s m e, finite t n f => ofScaled (s != t) (m * n) (e + f)
  | infinite s, infinite t => infinite (s != t)
  | infinite s, finite t n _ => if n = 0 then undefined else infinite (s != t)
  | finite s m _, infinite t => if m = 0 then undefined else infinite (s != t)
  | _, _ => undefined

/-- Quotient by a positive natural number, rounded once. -/
def divNat : Binary64 → Nat → Binary64
  | finite s m e, d =>
    if 0 ≤ e then ofRatio s (m * Nat.pow 2 e.toNat) d
    else ofRatio s m (d * Nat.pow 2 (-e).toNat)
  | x, _ => x

/-- The integer part of a finite number, rounded toward zero. -/
def truncate? : Binary64 → Option Int
  | finite s m e =>
    let size : Nat := if 0 ≤ e then m * Nat.pow 2 e.toNat else m / Nat.pow 2 (-e).toNat
    some (if s then -(size : Int) else size)
  | _ => none

instance : Add Binary64 := ⟨add⟩
instance : Mul Binary64 := ⟨mul⟩

/-! ## Order -/

/-- Whether one number is at most another; never so if one of them is undefined. -/
def leq : Binary64 → Binary64 → Bool
  | finite s m e, finite t n f =>
    let common := min e f
    signedAt s m e common ≤ signedAt t n f common
  | infinite s, infinite t => s || !t
  | infinite s, finite .. => s
  | finite .., infinite t => !t
  | _, _ => false

instance : LE Binary64 := ⟨fun x y => leq x y = true⟩
instance : LT Binary64 := ⟨fun x y => leq x y = true ∧ leq y x = false⟩
instance (x y : Binary64) : Decidable (x ≤ y) := inferInstanceAs (Decidable (leq x y = true))
instance (x y : Binary64) : Decidable (x < y) :=
  inferInstanceAs (Decidable (leq x y = true ∧ leq y x = false))

/-- A finite number is at most itself. -/
theorem le_refl_of_finite (s : Bool) (m : Nat) (e : Int) : finite s m e ≤ finite s m e := by
  show leq _ _ = true
  simp [leq]

/-- Nothing is comparable with the undefined number. -/
theorem not_le_undefined (x : Binary64) : ¬ x ≤ undefined ∧ ¬ undefined ≤ x := by
  constructor
  · intro h
    change leq x undefined = true at h
    cases x <;> simp [leq] at h
  · intro h
    change leq undefined x = true at h
    simp [leq] at h

/-- No number is less than itself. -/
theorem lt_irrefl (x : Binary64) : ¬ x < x := by
  rintro ⟨h, h'⟩
  rw [h] at h'
  exact absurd h' (by decide)

end Binary64

end ScannerDiscovery
