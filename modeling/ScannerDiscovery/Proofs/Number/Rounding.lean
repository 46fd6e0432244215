import ScannerDiscovery.Proofs.Number.Order
import Mathlib.Algebra.Order.Field.Power
import Mathlib.Tactic.FieldSimp
import Mathlib.Tactic.Positivity
import Mathlib.Tactic.Ring

/-!
# Rounding keeps the order

A fraction is rounded to a multiple of the power of two at its last place.  Greater fractions have
the same or a higher last place, and are rounded to the same or a greater multiple, so sums are
ordered as their parts are.

Main definitions:

- `IsNearest` : a natural number nearest to a fraction, an even one at a tie.
- `IsPlace` : the last place of a fraction.
- `RoundsTo` : what a fraction is rounded to.
- `Denotes` : the number that stands for a rounded value.

Main results:

- `RoundsTo.mono` : rounding keeps the order.
- `add_le_add_left` : the sum with a greater number is greater.
- `add_eq_left_of_undefined`, `add_eq_undefined_of_le` : when such sums are undefined.
-/

namespace ScannerDiscovery.Binary64

variable {x y z : Binary64} {q r v w : ℚ} {m n num den : Nat} {p e : Int}

/-! ## The nearest natural number -/

/-- A natural number nearest to a fraction, an even one if two are equally near. -/
structure IsNearest (q : ℚ) (m : Nat) : Prop where
  near : |q - m| ≤ 1 / 2
  even : |q - m| = 1 / 2 → m % 2 = 0

/-- A natural number is nearest to itself. -/
theorem isNearest_self (m : Nat) : IsNearest m m :=
  ⟨by norm_num, by norm_num⟩

/-- Greater fractions are nearest to the same or a greater number. -/
theorem IsNearest.mono (hm : IsNearest q m) (hn : IsNearest r n) (h : q ≤ r) : m ≤ n := by
  by_contra hlt
  have hstep : (n : ℚ) + 1 ≤ m := by exact_mod_cast Nat.lt_of_not_le hlt
  have hq := abs_le.1 hm.near
  have hr := abs_le.1 hn.near
  -- Both are in the middle between two neighbours, which cannot both be even.
  have hqm : |q - m| = 1 / 2 := by rw [abs_of_nonpos] <;> linarith
  have hrn : |r - n| = 1 / 2 := by rw [abs_of_nonneg] <;> linarith
  have hnext : m = n + 1 := by
    have : (m : ℚ) = n + 1 := by linarith
    exact_mod_cast this
  have := hm.even hqm
  have := hn.even hrn
  omega

/-- The nearest natural number to a fraction is found by its remainder. -/
theorem isNearest_divNearest (num : Nat) (hden : 0 < den) :
    IsNearest (num / den : ℚ) (divNearest num den) := by
  have hd : (0 : ℚ) < den := by exact_mod_cast hden
  have hsplit : (num / den : ℚ) = (num / den : Nat) + (num % den : Nat) / den := by
    have : (num : ℚ) = den * (num / den : Nat) + (num % den : Nat) := by
      exact_mod_cast (Nat.div_add_mod num den).symm
    field_simp
    linarith
  have hrest : ((num % den : Nat) : ℚ) / den < 1 := by
    rw [div_lt_one hd]
    exact_mod_cast Nat.mod_lt num hden
  have hrest' : (0 : ℚ) ≤ (num % den : Nat) / den := by positivity
  have above : (1 : ℚ) / 2 < (num % den : Nat) / den ↔ den < 2 * (num % den) := by
    rw [div_lt_div_iff₀ two_pos hd, one_mul, mul_comm]
    exact_mod_cast Iff.rfl
  have tie : ((num % den : Nat) : ℚ) / den = 1 / 2 ↔ 2 * (num % den) = den := by
    rw [div_eq_div_iff hd.ne' two_ne_zero, one_mul, mul_comm]
    exact_mod_cast Iff.rfl
  rw [hsplit]
  generalize ((num % den : Nat) : ℚ) / den = rest at *
  unfold divNearest
  dsimp only
  split
  · rename_i hup
    simp only [Bool.or_eq_true, decide_eq_true_eq, Bool.and_eq_true, beq_iff_eq] at hup
    have hhalf : 1 / 2 ≤ rest := by
      rcases hup with hup | ⟨hup, -⟩
      · exact (above.2 hup).le
      · exact (tie.2 hup).ge
    have hdist : |((num / den : Nat) : ℚ) + rest - ((num / den + 1 : Nat) : ℚ)| = 1 - rest := by
      rw [abs_of_nonpos] <;> push_cast <;> linarith
    refine ⟨by rw [hdist]; linarith, fun heq => ?_⟩
    have hmiddle : rest = 1 / 2 := by rw [hdist] at heq; linarith
    have : ¬den < 2 * (num % den) := by rw [← above]; exact not_lt.2 hmiddle.le
    omega
  · rename_i hdown
    simp only [Bool.or_eq_true, decide_eq_true_eq, Bool.and_eq_true, beq_iff_eq, not_or,
      not_and] at hdown
    have hhalf : rest ≤ 1 / 2 := not_lt.1 (mt above.1 hdown.1)
    have hdist : |((num / den : Nat) : ℚ) + rest - ((num / den : Nat) : ℚ)| = rest := by
      rw [add_sub_cancel_left, abs_of_nonneg hrest']
    refine ⟨by rwa [hdist], fun heq => ?_⟩
    have := hdown.2 (tie.1 (hdist ▸ heq))
    omega

/-! ## The last place -/

/-- The exponent of the last place of a fraction, were its size unbounded upwards. -/
structure IsPlace (q : ℚ) (p : Int) : Prop where
  least : minExponent ≤ p
  below : q < 2 ^ 53 * 2 ^ p
  full : p = minExponent ∨ 2 ^ 52 * 2 ^ p ≤ q

/-- Greater fractions have the same or a higher last place. -/
theorem IsPlace.mono (hp : IsPlace q p) (he : IsPlace r e) (h : q ≤ r) : p ≤ e := by
  by_contra hlt
  have hfull : 2 ^ 52 * 2 ^ p ≤ q := hp.full.resolve_left (by have := he.least; omega)
  have hstep : (2 : ℚ) ^ 53 * 2 ^ e ≤ 2 ^ 52 * 2 ^ p := by
    have : (2 : ℚ) ^ (e + 1) ≤ 2 ^ p := zpow_le_zpow_right₀ (by norm_num) (by omega)
    rw [zpow_add_one₀ (by norm_num)] at this
    linarith
  linarith [he.below]

/-- A fraction divided by a power of two. -/
theorem scaleDown_eq :
    ((scaleDown num den e).1 : ℚ) / (scaleDown num den e).2 = num / den / 2 ^ e := by
  have hpow : (2 : ℚ) ^ e = if 0 ≤ e then (2 : ℚ) ^ e.toNat else ((2 : ℚ) ^ (-e).toNat)⁻¹ := by
    split
    · rw [← zpow_natCast, Int.toNat_of_nonneg ‹_›]
    · rw [← zpow_natCast, Int.toNat_of_nonneg (by omega), zpow_neg, inv_inv]
  rw [hpow]
  unfold scaleDown
  split <;> simp [div_div, mul_div_right_comm]

theorem scaleDown_pos (num : Nat) (e : Int) (hden : 0 < den) : 0 < (scaleDown num den e).2 := by
  unfold scaleDown
  split
  · exact Nat.mul_pos hden (Nat.pow_pos two_pos)
  · exact hden

/-- A positive number lies between two powers of two. -/
theorem log2_bounds (hnum : 0 < num) :
    (2 : ℚ) ^ (num.log2 : Int) ≤ num ∧ (num : ℚ) < 2 ^ (num.log2 + 1 : Int) := by
  constructor
  · rw [zpow_natCast]
    exact_mod_cast Nat.log2_self_le hnum.ne'
  · have : (num : ℚ) < 2 ^ (num.log2 + 1) := by exact_mod_cast Nat.lt_log2_self
    exact_mod_cast this

/-- A positive fraction lies between two powers of two. -/
theorem ratio_bounds (hnum : 0 < num) (hden : 0 < den) :
    (2 : ℚ) ^ ((num.log2 : Int) - den.log2 - 1) ≤ num / den ∧
      (num / den : ℚ) < 2 ^ ((num.log2 : Int) - den.log2 + 1) := by
  have hd : (0 : ℚ) < den := by exact_mod_cast hden
  obtain ⟨num_ge, num_lt⟩ := log2_bounds hnum
  obtain ⟨den_ge, den_lt⟩ := log2_bounds hden
  constructor
  · rw [le_div_iff₀ hd]
    calc (2 ^ ((num.log2 : Int) - den.log2 - 1) * den : ℚ)
        ≤ 2 ^ ((num.log2 : Int) - den.log2 - 1) * 2 ^ (den.log2 + 1 : Int) := by gcongr
      _ = 2 ^ (num.log2 : Int) := by rw [← zpow_add₀ two_ne_zero]; congr 1; omega
      _ ≤ num := num_ge
  · rw [div_lt_iff₀ hd]
    calc (num : ℚ) < 2 ^ (num.log2 + 1 : Int) := num_lt
      _ = 2 ^ ((num.log2 : Int) - den.log2 + 1) * 2 ^ (den.log2 : Int) := by
          rw [← zpow_add₀ two_ne_zero]; congr 1; omega
      _ ≤ 2 ^ ((num.log2 : Int) - den.log2 + 1) * den := by gcongr

/-- Whether a whole part has 54 digits is whether the fraction itself is that large. -/
theorem le_scaled_quotient (num : Nat) (e : Int) (hden : 0 < den) :
    Nat.pow 2 53 ≤ (scaleDown num den e).1 / (scaleDown num den e).2 ↔
      2 ^ 53 * 2 ^ e ≤ (num / den : ℚ) := by
  have hscaled := scaleDown_pos num e hden
  have hs : (0 : ℚ) < (scaleDown num den e).2 := by exact_mod_cast hscaled
  have hunit : (0 : ℚ) < 2 ^ e := by positivity
  rw [Nat.le_div_iff_mul_le hscaled, ← le_div_iff₀ hunit, ← scaleDown_eq, le_div_iff₀ hs]
  exact_mod_cast Iff.rfl

/-- The guess at the last place is at most one too low. -/
theorem isPlace_placeOf (hnum : 0 < num) (hden : 0 < den) :
    IsPlace (num / den) (placeOf num den) := by
  obtain ⟨lower, upper⟩ := ratio_bounds hnum hden
  generalize hguess : max ((num.log2 : Int) - den.log2 - 53) minExponent = guess
  have hleast : minExponent ≤ guess := by omega
  have hbelow : (num / den : ℚ) < 2 ^ 54 * 2 ^ guess := by
    calc (num / den : ℚ) < 2 ^ ((num.log2 : Int) - den.log2 + 1) := upper
      _ ≤ 2 ^ (54 + guess) := zpow_le_zpow_right₀ (by norm_num) (by omega)
      _ = 2 ^ 54 * 2 ^ guess := by rw [zpow_add₀ two_ne_zero]; norm_num
  have hfull : guess = minExponent ∨ 2 ^ 52 * 2 ^ guess ≤ (num / den : ℚ) := by
    refine or_iff_not_imp_left.2 fun h => ?_
    calc (2 ^ 52 * 2 ^ guess : ℚ) = 2 ^ (52 + guess) := by rw [zpow_add₀ two_ne_zero]; norm_num
      _ = 2 ^ ((num.log2 : Int) - den.log2 - 1) := by congr 1; omega
      _ ≤ num / den := lower
  unfold placeOf
  simp only [hguess, le_scaled_quotient num guess hden]
  split
  · rename_i hhigh
    have hstep : (2 : ℚ) ^ (guess + 1) = 2 ^ guess * 2 := zpow_add_one₀ (by norm_num) _
    exact ⟨by omega, by rw [hstep]; linarith, .inr (by rw [hstep]; linarith)⟩
  · rename_i hlow
    exact ⟨hleast, not_le.1 hlow, hfull⟩

/-! ## Rounded values -/

/-- What a fraction that is not negative is rounded to, were its size unbounded upwards. -/
def RoundsTo (q v : ℚ) : Prop :=
  ∃ (p : Int) (m : Nat), IsPlace q p ∧ IsNearest (q / 2 ^ p) m ∧ v = m * 2 ^ p

/-- The nearest multiple at the last place has at most 53 digits, and 53 above the least place. -/
theorem IsNearest.bounds (hp : IsPlace q p) (hm : IsNearest (q / 2 ^ p) m) :
    m ≤ 2 ^ 53 ∧ (p = minExponent ∨ 2 ^ 52 ≤ m) := by
  have hunit : (0 : ℚ) < 2 ^ p := by positivity
  constructor
  · refine hm.mono (isNearest_self _) ?_
    rw [div_le_iff₀ hunit]
    exact_mod_cast hp.below.le
  · refine hp.full.imp id fun hfull => ?_
    refine (isNearest_self _).mono hm ?_
    rw [le_div_iff₀ hunit]
    exact_mod_cast hfull

/-- Rounding keeps the order. -/
theorem RoundsTo.mono (hv : RoundsTo q v) (hw : RoundsTo r w) (h : q ≤ r) : v ≤ w := by
  obtain ⟨p, m, hp, hm, rfl⟩ := hv
  obtain ⟨e, n, he, hn, rfl⟩ := hw
  rcases (hp.mono he h).eq_or_lt with rfl | hlt
  · have : m ≤ n := hm.mono hn (by gcongr)
    gcongr
  · have hm' : (m : ℚ) ≤ 2 ^ 53 := by exact_mod_cast (hm.bounds hp).1
    have hn' : (2 ^ 52 : ℚ) ≤ n := by
      exact_mod_cast (hn.bounds he).2.resolve_left (by have := hp.least; omega)
    calc (m * 2 ^ p : ℚ) ≤ 2 ^ 53 * 2 ^ p := by gcongr
      _ = 2 ^ 52 * 2 ^ (p + 1) := by rw [zpow_add_one₀ (by norm_num)]; ring
      _ ≤ 2 ^ 52 * 2 ^ e := by
          have : (2 : ℚ) ^ (p + 1) ≤ 2 ^ e := zpow_le_zpow_right₀ (by norm_num) (by omega)
          gcongr
      _ ≤ n * 2 ^ e := by gcongr

theorem roundsTo_zero : RoundsTo 0 0 := by
  refine ⟨minExponent, 0, ⟨le_refl _, by positivity, .inl rfl⟩, ?_, by simp⟩
  simpa using isNearest_self 0

/-- What a fraction is rounded to, whatever its sign. -/
def RoundsSigned (q v : ℚ) : Prop :=
  ∃ size, RoundsTo |q| size ∧ v = if q < 0 then -size else size

theorem RoundsTo.nonneg (hv : RoundsTo q v) : 0 ≤ v := by
  obtain ⟨p, m, -, -, rfl⟩ := hv
  positivity

/-- Rounding keeps the order of fractions of any sign. -/
theorem RoundsSigned.mono (hv : RoundsSigned q v) (hw : RoundsSigned r w) (h : q ≤ r) :
    v ≤ w := by
  obtain ⟨a, ha, rfl⟩ := hv
  obtain ⟨b, hb, rfl⟩ := hw
  have ha' := ha.nonneg
  have hb' := hb.nonneg
  split <;> split
  · refine neg_le_neg (hb.mono ha ?_)
    rw [abs_of_neg ‹_›, abs_of_neg ‹_›]
    exact neg_le_neg h
  · linarith
  · linarith
  · refine ha.mono hb ?_
    rwa [abs_of_nonneg (not_lt.1 ‹_›), abs_of_nonneg (not_lt.1 ‹_›)]

/-! ## Numbers that stand for rounded values -/

/-- A bound that no finite number with 53 digits reaches. -/
def bound : ℚ :=
  2 ^ 53 * 2 ^ maxExponent

theorem bound_pos : 0 < bound := by
  unfold bound
  positivity

/-- The number that stands for a rounded value: the value itself, or an infinity if it is too
large. -/
inductive Denotes : Binary64 → ℚ → Prop
  | finite {s : Bool} {m : Nat} {e : Int} {v : ℚ} (stands : value s m e = v)
      (small : |v| < bound) : Denotes (finite s m e) v
  | positive {v : ℚ} (large : bound ≤ v) : Denotes (infinite false) v
  | negative {v : ℚ} (large : bound ≤ -v) : Denotes (infinite true) v

/-- Numbers are ordered as the values that they stand for. -/
theorem Denotes.le (hx : Denotes x v) (hy : Denotes y w) (h : v ≤ w) : x ≤ y := by
  have hpos := bound_pos
  cases hx with
  | negative large => cases hy <;> simp [infinite_le_finite, infinite_le_infinite]
  | positive large =>
      cases hy with
      | finite stands small => linarith [(abs_lt.1 small).2]
      | positive large' => simp [infinite_le_infinite]
      | negative large' => linarith
  | finite stands small =>
      cases hy with
      | finite stands' small' => rwa [finite_le_finite, stands, stands']
      | positive large' => simp [finite_le_infinite]
      | negative large' => linarith [(abs_lt.1 small).1]

/-- A mantissa with all of its digits overflows beyond the greatest exponent. -/
theorem bound_le (hm : 2 ^ 52 ≤ m) (hp : maxExponent < p) : bound ≤ m * 2 ^ p := by
  have hm' : (2 ^ 52 : ℚ) ≤ m := by exact_mod_cast hm
  have hp' : (2 : ℚ) ^ (maxExponent + 1) ≤ 2 ^ p := zpow_le_zpow_right₀ (by norm_num) (by omega)
  calc bound = 2 ^ 52 * 2 ^ (maxExponent + 1) := by
        rw [bound, zpow_add_one₀ two_ne_zero]
        ring
    _ ≤ 2 ^ 52 * 2 ^ p := by gcongr
    _ ≤ m * 2 ^ p := by gcongr

theorem lt_bound (hm : m < 2 ^ 53) (hp : p ≤ maxExponent) : (m * 2 ^ p : ℚ) < bound := by
  have hm' : (m : ℚ) < 2 ^ 53 := by exact_mod_cast hm
  have hp' : (2 : ℚ) ^ p ≤ 2 ^ maxExponent := zpow_le_zpow_right₀ (by norm_num) hp
  calc (m * 2 ^ p : ℚ) < 2 ^ 53 * 2 ^ p := by gcongr
    _ ≤ bound := by rw [bound]; gcongr

/-- A mantissa at its last place, with an infinity for what is too large. -/
theorem denotes_of_bounds (s : Bool) (hm : m < 2 ^ 53) (hp : p = minExponent ∨ 2 ^ 52 ≤ m) :
    Denotes (if maxExponent < p then infinite s else finite s m p)
      (if s then -(m * 2 ^ p) else m * 2 ^ p) := by
  split
  · rename_i hlarge
    have hfull : 2 ^ 52 ≤ m := hp.resolve_left fun heq => absurd (heq ▸ hlarge) (by decide)
    cases s with
    | false => exact .positive (bound_le hfull hlarge)
    | true => exact .negative (by simpa using bound_le hfull hlarge)
  · refine .finite rfl ?_
    have hsize : |(m * 2 ^ p : ℚ)| = m * 2 ^ p := abs_of_nonneg (by positivity)
    have := lt_bound hm (not_lt.1 ‹_›)
    cases s <;> simpa [hsize]

/-- The number nearest to a fraction stands for what it is rounded to. -/
theorem denotes_ofRatio (s : Bool) (hden : 0 < den) :
    ∃ v, RoundsTo (num / den) v ∧ Denotes (ofRatio s num den) (if s then -v else v) := by
  by_cases hzero : num = 0
  · subst hzero
    refine ⟨0, by simpa using roundsTo_zero, ?_⟩
    have : ofRatio s 0 den = finite s 0 minExponent := if_pos rfl
    rw [this]
    exact .finite (by simp [value]) (by simpa using bound_pos)
  · have hplace := isPlace_placeOf (Nat.pos_of_ne_zero hzero) hden
    have hnearest := isNearest_divNearest (scaleDown num den (placeOf num den)).1
      (scaleDown_pos num (placeOf num den) hden)
    rw [scaleDown_eq] at hnearest
    unfold ofRatio
    rw [if_neg hzero]
    dsimp only
    generalize divNearest _ _ = m at *
    generalize placeOf num den = p at *
    have hbounds := hnearest.bounds hplace
    refine ⟨m * 2 ^ p, ⟨p, m, hplace, hnearest, rfl⟩, ?_⟩
    split
    · rename_i hcarry
      have hvalue : (m * 2 ^ p : ℚ) = (2 ^ 52 : Nat) * 2 ^ (p + 1) := by
        rw [hcarry, zpow_add_one₀ two_ne_zero]
        push_cast
        ring
      rw [hvalue]
      exact denotes_of_bounds s (by norm_num) (.inr le_rfl)
    · rename_i hcarry
      exact denotes_of_bounds s (lt_of_le_of_ne hbounds.1 hcarry) hbounds.2

theorem denotes_ofScaled (s : Bool) (num : Nat) (e : Int) :
    ∃ v, RoundsTo (num * 2 ^ e) v ∧ Denotes (ofScaled s num e) (if s then -v else v) := by
  unfold ofScaled
  split
  · have hvalue : (num * 2 ^ e : ℚ) = ((num * Nat.pow 2 e.toNat : Nat) : ℚ) / (1 : Nat) := by
      obtain ⟨k, rfl⟩ := Int.eq_ofNat_of_zero_le ‹0 ≤ e›
      simp
    rw [hvalue]
    exact denotes_ofRatio s one_pos
  · have hvalue : (num * 2 ^ e : ℚ) = num / (Nat.pow 2 (-e).toNat : Nat) := by
      obtain ⟨k, hk⟩ := Int.eq_ofNat_of_zero_le (show 0 ≤ -e by omega)
      obtain rfl : e = -k := by omega
      simp [div_eq_mul_inv]
    rw [hvalue]
    exact denotes_ofRatio s (Nat.pow_pos two_pos)

/-! ## Sums -/

/-- The sum of finite numbers stands for their exact sum, rounded. -/
theorem denotes_add (s t : Bool) (m n : Nat) (e f : Int) :
    ∃ v, RoundsSigned (value s m e + value t n f) v ∧ Denotes (finite s m e + finite t n f) v := by
  change ∃ v, _ ∧ Denotes (add _ _) v
  unfold add
  dsimp only
  have hsum : ((signedAt s m e (min e f) + signedAt t n f (min e f) : Int) : ℚ) * 2 ^ min e f =
      value s m e + value t n f := by
    push_cast
    rw [add_mul, signedAt_mul (min_le_left e f), signedAt_mul (min_le_right e f)]
  rw [← hsum]
  generalize signedAt s m e (min e f) + signedAt t n f (min e f) = sum
  generalize min e f = common
  have hunit : (0 : ℚ) < 2 ^ common := by positivity
  have habs : |(sum : ℚ) * 2 ^ common| = sum.natAbs * 2 ^ common := by
    rw [abs_mul, abs_of_pos hunit, Nat.cast_natAbs, Int.cast_abs]
  have hsign : (sum : ℚ) * 2 ^ common < 0 ↔ sum < 0 := by
    rw [← Int.cast_lt_zero (R := ℚ)]
    exact ⟨fun h => neg_of_mul_neg_left h hunit.le, fun h => mul_neg_of_neg_of_pos h hunit⟩
  obtain ⟨v, hv, denotes⟩ :=
    denotes_ofScaled (if sum = 0 then s && t else decide (sum < 0)) sum.natAbs common
  refine ⟨_, ⟨v, by rwa [habs], rfl⟩, ?_⟩
  by_cases hzero : sum = 0
  · -- A sum of zero is rounded to zero, of whichever sign.
    have : v = 0 := by
      rw [hzero] at hv
      simp only [Int.natAbs_zero, Nat.cast_zero, zero_mul] at hv
      exact le_antisymm (hv.mono roundsTo_zero le_rfl) hv.nonneg
    subst this
    simpa using denotes
  · simpa [hzero, hsign] using denotes

/-- A sum with an infinity is that infinity, where it is defined. -/
theorem infinite_add {s : Bool} (hsum : infinite s + y ≠ undefined) :
    infinite s + y = infinite s := by
  cases y with
  | undefined => exact absurd rfl hsum
  | finite t n f => rfl
  | infinite t =>
      by_cases hst : s = t
      · exact if_pos hst
      · exact absurd (if_neg hst) hsum

/-- The sum with a greater number is greater, where both sums are defined. -/
theorem add_le_add_left (x : Binary64) (h : y ≤ z) (hy : x + y ≠ undefined)
    (hz : x + z ≠ undefined) : x + y ≤ x + z := by
  cases x with
  | undefined => exact absurd rfl hy
  | infinite s =>
      rw [infinite_add hy, infinite_add hz, le_self_iff]
      nofun
  | finite s m e =>
      cases y with
      | undefined => exact absurd rfl hy
      | infinite t =>
          cases z with
          | undefined => exact absurd rfl hz
          | infinite t' => exact h
          | finite t' n f =>
              rw [infinite_le_finite.1 h]
              exact infinite_true_le hz
      | finite t n f =>
          cases z with
          | undefined => exact absurd rfl hz
          | infinite t' =>
              rw [finite_le_infinite.1 h]
              exact le_infinite_false hy
          | finite t' n' f' =>
              obtain ⟨v, hv, denotes⟩ := denotes_add s t m n e f
              obtain ⟨w, hw, denotes'⟩ := denotes_add s t' m n' e f'
              refine denotes.le denotes' (hv.mono hw ?_)
              have := finite_le_finite.1 h
              gcongr

theorem Denotes.defined (hx : Denotes x v) : x ≠ undefined := by
  cases hx <;> nofun

/-- A number that has an undefined sum with some other one is infinite, and so it is its own sum
with any number, where that is defined. -/
theorem add_eq_left_of_undefined (hx : x ≠ undefined) (hz : z ≠ undefined)
    (sum : x + z = undefined) (hy : x + y ≠ undefined) : x + y = x := by
  cases x with
  | undefined => exact absurd rfl hx
  | infinite s => exact infinite_add hy
  | finite s m e =>
      cases z with
      | undefined => exact absurd rfl hz
      | infinite t => cases sum
      | finite t n f =>
          obtain ⟨v, -, denotes⟩ := denotes_add s t m n e f
          exact absurd sum denotes.defined

/-- If the sum with a positive number is undefined, the one with a greater number is so too. -/
theorem add_eq_undefined_of_le (h : y ≤ z) (positive : ¬y ≤ 0) (hy : x + y = undefined) :
    x + z = undefined := by
  cases y with
  | undefined => exact absurd rfl (left_defined h)
  | finite t n f =>
      cases x with
      | undefined => rfl
      | infinite s => cases hy
      | finite s m e =>
          obtain ⟨v, -, denotes⟩ := denotes_add s t m n e f
          exact absurd hy denotes.defined
  | infinite t =>
      have zero_defined : (0 : Binary64) ≠ undefined := by decide
      have ht : t = false := by
        rw [← Bool.not_eq_true]
        rintro rfl
        exact positive (infinite_true_le zero_defined)
      subst ht
      cases z with
      | undefined => exact absurd rfl (right_defined h)
      | finite t' n' f' => cases infinite_le_finite.1 h
      | infinite t' =>
          have : t' = false := by simpa using infinite_le_infinite.1 h
          rwa [this]

end ScannerDiscovery.Binary64
