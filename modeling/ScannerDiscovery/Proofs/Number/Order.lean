import ScannerDiscovery.Number.Binary64
import Mathlib.Algebra.Order.Field.Rat
import Mathlib.Tactic.Linarith

/-!
# The order of binary numbers

Finite numbers are ordered as their exact values are, between the two infinities.  All numbers but
the undefined one are comparable with one another.

Main definition:

- `value` : the exact value of a finite number.

Main results:

- `finite_le_finite` : the order of finite numbers is that of their exact values.
- `le_trans`, `le_total_of_defined` : the order of all numbers.
-/

namespace ScannerDiscovery.Binary64

variable {x y z : Binary64} {s t : Bool} {m n : Nat} {e f : Int}

/-! ## Exact values -/

/-- The exact value of a finite number. -/
def value (negative : Bool) (mantissa : Nat) (exponent : Int) : ℚ :=
  let size : ℚ := mantissa * 2 ^ exponent
  if negative then -size else size

/-- The signed numerator over a power of two is the exact value in units of it. -/
theorem signedAt_mul {common : Int} (h : common ≤ e) :
    (signedAt s m e common : ℚ) * 2 ^ common = value s m e := by
  have hscale : (2 : ℚ) ^ (e - common).toNat * 2 ^ common = 2 ^ e := by
    rw [← zpow_natCast, ← zpow_add₀ (by norm_num), Int.toNat_of_nonneg (by omega)]
    congr 1
    omega
  cases s <;> simp [signedAt, value, mul_assoc, hscale]

/-- The order of finite numbers is that of their exact values. -/
theorem finite_le_finite : finite s m e ≤ finite t n f ↔ value s m e ≤ value t n f := by
  have hpos : (0 : ℚ) < 2 ^ min e f := zpow_pos (by norm_num) _
  calc finite s m e ≤ finite t n f
      ↔ signedAt s m e (min e f) ≤ signedAt t n f (min e f) := decide_eq_true_iff
    _ ↔ (signedAt s m e (min e f) : ℚ) * 2 ^ min e f
          ≤ (signedAt t n f (min e f) : ℚ) * 2 ^ min e f := by
        rw [mul_le_mul_iff_left₀ hpos, Int.cast_le]
    _ ↔ value s m e ≤ value t n f := by
        rw [signedAt_mul (min_le_left e f), signedAt_mul (min_le_right e f)]

theorem finite_le_infinite : finite s m e ≤ infinite t ↔ t = false :=
  show (!t) = true ↔ _ by simp

theorem infinite_le_finite : infinite s ≤ finite t n f ↔ s = true :=
  show s = true ↔ _ by simp

theorem infinite_le_infinite : infinite s ≤ infinite t ↔ s = true ∨ t = false :=
  show (s || !t) = true ↔ _ by simp

/-- Negative infinity is below everything that is a number. -/
theorem infinite_true_le (hx : x ≠ undefined) : infinite true ≤ x := by
  cases x with
  | undefined => exact absurd rfl hx
  | infinite s => exact infinite_le_infinite.2 (.inl rfl)
  | finite s m e => exact infinite_le_finite.2 rfl

/-- Infinity is above everything that is a number. -/
theorem le_infinite_false (hx : x ≠ undefined) : x ≤ infinite false := by
  cases x with
  | undefined => exact absurd rfl hx
  | infinite s => exact infinite_le_infinite.2 (.inr rfl)
  | finite s m e => exact finite_le_infinite.2 rfl

/-! ## The order -/

/-- Only the undefined number is not equal to itself. -/
theorem le_self_iff : x ≤ x ↔ x ≠ undefined := by
  cases x with
  | finite s m e => exact iff_of_true (le_refl_of_finite s m e) nofun
  | infinite s => cases s <;> exact iff_of_true rfl nofun
  | undefined => exact iff_of_false (not_le_undefined undefined).1 (· rfl)

theorem left_defined (h : x ≤ y) : x ≠ undefined := by
  rintro rfl
  exact (not_le_undefined y).2 h

theorem right_defined (h : x ≤ y) : y ≠ undefined := by
  rintro rfl
  exact (not_le_undefined x).1 h

/-- The order is transitive. -/
protected theorem le_trans (h : x ≤ y) (h' : y ≤ z) : x ≤ z := by
  have hx := left_defined h
  have hz := right_defined h'
  cases x <;> cases y <;> cases z <;>
    simp_all [finite_le_finite, finite_le_infinite, infinite_le_finite, infinite_le_infinite,
      not_le_undefined]
  · exact h.trans h'
  · rcases h with h | h <;> simp_all

/-- Numbers that are not undefined are comparable. -/
theorem le_total_of_defined (hx : x ≠ undefined) (hy : y ≠ undefined) : x ≤ y ∨ y ≤ x := by
  cases x <;> cases y <;>
    simp_all [finite_le_finite, finite_le_infinite, infinite_le_finite, infinite_le_infinite,
      le_total]
  rename_i s t
  cases s <;> simp

/-- To be less is to be at most, and not the other way round. -/
theorem lt_iff : x < y ↔ x ≤ y ∧ ¬y ≤ x := by
  change leq x y = true ∧ leq y x = false ↔ leq x y = true ∧ ¬leq y x = true
  rw [Bool.not_eq_true]

protected theorem not_lt_of_le (h : x ≤ y) : ¬y < x :=
  fun hlt => (lt_iff.1 hlt).2 h

protected theorem le_of_lt (h : x < y) : x ≤ y :=
  (lt_iff.1 h).1

protected theorem lt_of_lt_of_le (h : x < y) (h' : y ≤ z) : x < z := by
  rw [lt_iff] at h ⊢
  exact ⟨Binary64.le_trans h.1 h', fun hzx => h.2 (Binary64.le_trans h' hzx)⟩

/-- Whatever is not below one number, and that is not below another, is not below the other. -/
theorem not_lt_of_not_lt (hy : y ≠ undefined) (h : ¬x < y) (h' : ¬y < z) : ¬x < z := by
  intro hlt
  rw [lt_iff] at h h' hlt
  have hx := left_defined hlt.1
  have hz := right_defined hlt.1
  have hyx : y ≤ x := (le_total_of_defined hx hy).elim (fun hxy => by_contra (h ⟨hxy, ·⟩)) id
  have hzy : z ≤ y := (le_total_of_defined hy hz).elim (fun hyz => by_contra (h' ⟨hyz, ·⟩)) id
  exact hlt.2 (Binary64.le_trans hzy hyx)

end ScannerDiscovery.Binary64
