import Mathlib.Algebra.Group.Nat.Defs
import ScannerDiscovery.Proofs.Number.Digits
import ScannerDiscovery.Uuid.Basic

/-!
# The written form of identifiers

No two identifiers have the same canonical form.

Main results:

- `number_hexDigits` : the last hexadecimal digits of a number denote it up to its size.
- `text_injective` : the canonical form of an identifier determines it.
-/

namespace ScannerDiscovery

namespace Text

@[simp]
theorem length_hexDigits (width n : Nat) : (hexDigits width n).length = width := by
  simp [hexDigits]

/-- The digits of a number are its last one and those of the rest. -/
theorem hexDigits_concat (width n : Nat) :
    hexDigits (width + 1) n = hexDigits width (n / 16) ++ [Nat.digitChar (n % 16)] := by
  have shifted (place : Nat) : n / 16 ^ (place + 1) = n / 16 / 16 ^ place := by
    rw [Nat.pow_succ', Nat.div_div_eq_div_mul]
  simp [hexDigits, List.range_succ_eq_map, Function.comp_def, shifted]

/-- The last hexadecimal digits of a number denote it up to its size. -/
theorem number_hexDigits (width n : Nat) :
    Hexadecimal.number (hexDigits width n) = n % 16 ^ width := by
  induction width generalizing n with
  | zero => simp [hexDigits, Hexadecimal.number, Nat.mod_one]
  | succ width ih =>
      have last := Hexadecimal.digitValue?_digitChar (Nat.mod_lt n (by decide : 16 > 0))
      rw [hexDigits_concat, Hexadecimal.number_append, ih, last, Option.getD_some, Nat.pow_succ',
        Nat.mod_mul, Nat.add_comm]

/-- The last hexadecimal digits of a number determine it up to its size. -/
theorem hexDigits_injective {width m n : Nat} (h : hexDigits width m = hexDigits width n) :
    m % 16 ^ width = n % 16 ^ width := by
  rw [← number_hexDigits, h, number_hexDigits]

end Text

namespace Uuid

/-- Texts of one length are determined by what becomes of them when they are cut into pieces. -/
theorem hyphenate_injective {sizes : List Nat} {s t : List Char} (length : s.length = t.length)
    (h : hyphenate sizes s = hyphenate sizes t) : s = t := by
  induction sizes generalizing s t with
  | nil => exact h
  | cons size sizes ih =>
      obtain ⟨front, rest⟩ := List.append_inj h (by simp [length])
      have back := ih (by simp [length]) (List.cons.inj rest).2
      rw [← List.take_append_drop size s, front, back, List.take_append_drop]

/-- An identifier has no more digits than are written. -/
theorem value_lt (u : Uuid) : u.value.toNat < 16 ^ 32 := u.value.isLt

/-- The canonical form of an identifier determines it. -/
theorem text_injective {u v : Uuid} (h : u.text = v.text) : u = v := by
  have digits : u.digits = v.digits :=
    hyphenate_injective (by simp [digits]) (String.ofList_injective h)
  have value := Text.hexDigits_injective digits
  rw [Nat.mod_eq_of_lt u.value_lt, Nat.mod_eq_of_lt v.value_lt] at value
  exact congrArg Uuid.mk (BitVec.eq_of_toNat_eq value)

end Uuid

end ScannerDiscovery
