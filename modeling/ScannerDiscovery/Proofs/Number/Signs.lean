import ScannerDiscovery.Number.Decimal
import ScannerDiscovery.Proofs.Number.Order

/-!
# Signs of numbers

Every number but the undefined one has a sign. What is rounded from a fraction has one, so that a
number is read as undefined only if the word for that is written.

Main definitions:

- `Signed` : the numbers with a given sign.
- `Decimal.SpellsUndefined`, `Decimal.SettingSpellsUndefined` : the texts that are a word for the
  undefined number.

Main results:

- `signed_of_pos` : what is above zero has no minus sign.
- `Signed.truncate?` : the integer part of a number without a minus sign.
- `Decimal.readReal_eq_undefined_iff`, `Decimal.settingSpellsUndefined_of_readSetting` : what is
  read as the undefined number.
-/

namespace ScannerDiscovery

namespace Binary64

/-- The numbers with a given sign. -/
inductive Signed (negative : Bool) : Binary64 → Prop
  | finite (mantissa : Nat) (exponent : Int) : Signed negative (finite negative mantissa exponent)
  | infinite : Signed negative (infinite negative)

variable {x : Binary64} {s : Bool}

theorem Signed.ne_undefined (signed : Signed s x) : x ≠ undefined := by
  cases signed <;> nofun

/-! ## Rounding -/

/-- A rounded ratio has its sign. -/
theorem signed_ofRatio (s : Bool) (num den : Nat) : Signed s (ofRatio s num den) := by
  unfold ofRatio
  dsimp only
  repeat' split
  all_goals constructor

theorem signed_ofScaled (s : Bool) (num : Nat) (exponent : Int) :
    Signed s (ofScaled s num exponent) := by
  unfold ofScaled
  split <;> exact signed_ofRatio ..

/-- A rounded decimal has its sign. -/
theorem signed_ofDecimal (s : Bool) (digits : Nat) (exponent : Int) :
    Signed s (ofDecimal s digits exponent) := by
  unfold ofDecimal
  dsimp only
  repeat' split
  · exact .finite ..
  · exact .infinite
  · exact signed_ofRatio ..
  · exact signed_ofRatio ..

/-- The product with a finite number other than zero has the sign that the two signs give. -/
theorem Signed.mul_finite {n : Nat} (signed : Signed s x) (nonzero : n ≠ 0) (t : Bool)
    (exponent : Int) : Signed (s != t) (x * .finite t n exponent) := by
  cases signed with
  | finite m e => exact signed_ofScaled ..
  | infinite =>
      change Signed (s != t) (if n = 0 then undefined else .infinite (s != t))
      rw [if_neg nonzero]
      exact .infinite

/-! ## Numbers above zero -/

/-- What is above zero has no minus sign. -/
theorem signed_of_pos (positive : 0 < x) : Signed false x := by
  have above : ¬x ≤ 0 := (lt_iff.1 positive).2
  have zero : (0 : Binary64) = .finite false 0 minExponent := rfl
  rw [zero] at above
  cases x with
  | undefined => exact absurd (lt_iff.1 positive).1 (not_le_undefined 0).1
  | infinite s =>
      cases s with
      | false => exact .infinite
      | true => exact absurd (infinite_le_finite.2 rfl) above
  | finite s m e =>
      cases s with
      | false => exact .finite m e
      | true =>
          refine absurd (finite_le_finite.2 ?_) above
          have : (0 : ℚ) ≤ m * 2 ^ e := mul_nonneg m.cast_nonneg (zpow_nonneg two_pos.le e)
          simpa [value] using this

/-- The integer part of a number without a minus sign is natural; only an infinity has none. -/
theorem Signed.truncate? (signed : Signed false x) :
    (∃ n : Nat, x.truncate? = some (n : Int)) ∨ x = .infinite false := by
  cases signed with
  | finite m e => exact .inl ⟨_, rfl⟩
  | infinite => exact .inr rfl

end Binary64

/-! ## The word for the undefined number -/

namespace Decimal

/-- The texts that are the word for the undefined number, in any case and with any sign. -/
def SpellsUndefined (text : List Char) : Prop :=
  (splitSign text).2.map small = ['n', 'a', 'n']

/-- The settings values that are: the word may stand between blanks or have underscores inside. -/
def SettingSpellsUndefined (text : List Char) : Prop :=
  SpellsUndefined (Text.trim Text.isNumberBlank text) ∨
    dividedByUnderscores text = true ∧ SpellsUndefined (text.filter (· != '_'))

theorem readUnsigned_ne_undefined (negative : Bool) (text : List Char) :
    readUnsigned negative text ≠ some .undefined := by
  have rounded (digits : Nat) (shift : Int → Int) (rest : List Char) :
      (readExponent rest).map (fun exponent => .ofDecimal negative digits (shift exponent)) ≠
        some Binary64.undefined := by
    rw [Ne, Option.map_eq_some_iff]
    rintro ⟨exponent, -, read⟩
    exact (Binary64.signed_ofDecimal ..).ne_undefined read
  unfold readUnsigned
  dsimp only
  split <;> dsimp only <;> split
  · nofun
  · exact rounded _ (· - _) _
  · nofun
  · exact rounded _ (· - _) _

/-- Only the word for it is read as the undefined number. -/
theorem readReal_eq_undefined_iff {text : List Char} :
    readReal text = some .undefined ↔ SpellsUndefined text := by
  have word (letters : List Char) : String.ofList ((splitSign text).2.map small) =
      String.ofList letters ↔ (splitSign text).2.map small = letters := String.ofList_inj
  have inf := word ['i', 'n', 'f']
  have infinity := word ['i', 'n', 'f', 'i', 'n', 'i', 't', 'y']
  have nan := word ['n', 'a', 'n']
  unfold readReal SpellsUndefined
  dsimp only
  split
  · rename_i infinite
    rw [Bool.or_eq_true, decide_eq_true_iff, decide_eq_true_iff] at infinite
    refine iff_of_false nofun fun undefined => ?_
    rcases infinite with h | h
    · exact absurd ((inf.1 h).symm.trans undefined) (by decide)
    · exact absurd ((infinity.1 h).symm.trans undefined) (by decide)
  · split
    · rename_i h
      exact iff_of_true rfl (nan.1 h)
    · rename_i h
      exact iff_of_false (readUnsigned_ne_undefined _ _) fun undefined => h (nan.2 undefined)

/-- Only a spelling of it is read as the undefined number. -/
theorem settingSpellsUndefined_of_readSetting {text : List Char}
    (read : readSetting text = some .undefined) : SettingSpellsUndefined text := by
  unfold readSetting at read
  split at read
  · rename_i plain
    cases read
    exact .inl (readReal_eq_undefined_iff.1 plain)
  · split at read
    · rename_i divided
      exact .inr ⟨divided, readReal_eq_undefined_iff.1 read⟩
    · cases read

end Decimal

end ScannerDiscovery
