import ScannerDiscovery.Ip.Reader

/-!
# Digits are read back

The digits that a number is written with are read back as that number.

Main results:

- `decimalValue_toDigits`, `Hexadecimal.number_toDigits` : the number of the digits of a number.
- `head?_toDigits` : a number is written without leading zeros.
-/

namespace ScannerDiscovery

/-- A number other than zero is written without leading zeros. -/
theorem head?_toDigits {b n : Nat} (hb : 1 < b) (hn : 0 < n) (hten : b ≤ 16) :
    (Nat.toDigits b n).head? ≠ some '0' := by
  induction n using Nat.base_induction b hb with
  | single m hm =>
      rw [Nat.toDigits_of_lt_base hm]
      intro hhead
      have hzero : m.digitChar = '0' := by simpa using hhead
      have hlt : m < 16 := Nat.lt_of_lt_of_le hm hten
      have hchars : ∀ k < 16, k.digitChar = '0' → k = 0 := by decide
      have := hchars m hlt hzero
      omega
  | digit m k hk hm ih =>
      rw [← Nat.toDigits_append_toDigits hb hm hk, List.head?_append]
      cases hhead : (Nat.toDigits b m).head? with
      | none => exact absurd (List.head?_eq_none_iff.1 hhead) Nat.toDigits_ne_nil
      | some c =>
          rw [Option.some_or, ← hhead]
          exact ih hm

/-- The decimal digits of a number denote it. -/
theorem decimalValue_toDigits (n : Nat) : Ip.decimalValue (Nat.toDigits 10 n) = n :=
  Nat.ofDigitChars_ten_toDigits

theorem all_isDigit_toDigits (n : Nat) : (Nat.toDigits 10 n).all Char.isDigit = true := by
  rw [List.all_eq_true]
  exact fun c hc => Nat.isDigit_of_mem_toDigits (by decide) (by decide) hc

namespace Hexadecimal

theorem digitValue?_digitChar {k : Nat} (hk : k < 16) : digitValue? k.digitChar = some k := by
  have all : ∀ k < 16, digitValue? k.digitChar = some k := by decide
  exact all k hk

theorem number_append (text : List Char) (c : Char) :
    number (text ++ [c]) = 16 * number text + (digitValue? c).getD 0 := by
  rw [number, List.foldl_append]
  rfl

/-- The hexadecimal digits of a number denote it. -/
theorem number_toDigits (n : Nat) : number (Nat.toDigits 16 n) = n := by
  induction n using Nat.base_induction 16 (by decide) with
  | single m hm =>
      rw [Nat.toDigits_of_lt_base hm]
      simp [number, digitValue?_digitChar hm]
  | digit m k hk hm ih =>
      rw [← Nat.toDigits_append_toDigits (by decide) hm hk, Nat.toDigits_of_lt_base hk,
        number_append, ih, digitValue?_digitChar hk, Option.getD_some]

theorem all_isDigit_toDigits (n : Nat) : (Nat.toDigits 16 n).all isDigit = true := by
  induction n using Nat.base_induction 16 (by decide) with
  | single m hm =>
      rw [Nat.toDigits_of_lt_base hm]
      simp [isDigit, digitValue?_digitChar hm]
  | digit m k hk hm ih =>
      rw [← Nat.toDigits_append_toDigits (by decide) hm hk, Nat.toDigits_of_lt_base hk,
        List.all_append, ih]
      simp [isDigit, digitValue?_digitChar hk]

/-- Decimal digits are hexadecimal ones. -/
theorem isDigit_of_isDigit {c : Char} (h : c.isDigit = true) : isDigit c = true := by
  simp only [Char.isDigit, Bool.and_eq_true, decide_eq_true_eq] at h
  have hrange : '0' ≤ c ∧ c ≤ '9' := h
  simp only [isDigit, digitValue?, Bool.and_eq_true, decide_eq_true_eq]
  rw [if_pos hrange]
  rfl

/-- Hexadecimal digits are ASCII characters. -/
theorem toNat_lt_of_isDigit {c : Char} (h : isDigit c = true) : c.toNat < 128 := by
  have hle {d : Char} (hcd : c ≤ d) : c.toNat ≤ d.toNat := hcd
  simp only [isDigit, digitValue?, Bool.and_eq_true, decide_eq_true_eq] at h
  split at h
  · rename_i hrange
    exact Nat.lt_of_le_of_lt (hle hrange.2) (by decide)
  · split at h
    · rename_i hrange
      exact Nat.lt_of_le_of_lt (hle hrange.2) (by decide)
    · split at h
      · rename_i hrange
        exact Nat.lt_of_le_of_lt (hle hrange.2) (by decide)
      · simp at h

end Hexadecimal

end ScannerDiscovery
