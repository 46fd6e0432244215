import Mathlib.Data.List.Infix
import ScannerDiscovery.Text.Utf8

/-!
# What lossy decoding reads

Where the encoding of a character stands it is read, and every byte at which none stands is skipped.
The machine that reads byte by byte does exactly this: behind the first byte of a character that is
broken off there are only bytes that begin no character, so that they are skipped as well.

Main definitions:

- `Reads` : the text that bytes hold, ill-formed parts skipped.
- `complete?` : the character that the bytes behind a first byte complete.

Main results:

- `encodeChar_of_complete?`, `complete?_encodeChar` : exactly the encodings of characters are
  completed.
- `decode_encodeChar_append`, `decode_of_illFormed` : decoding where a character stands, and where
  none does.
- `reads_iff` : what bytes hold is what decoding gives.
- `decode_encode` : encoded texts are read back.
-/

namespace ScannerDiscovery.Text.Utf8

/-- Whether bytes hold a text. Where the encoding of a character stands it is read, and a byte at
which none stands is ill-formed and skipped. -/
inductive Reads : List UInt8 → List Char → Prop
  | nil : Reads [] []
  | char {c : Char} {bytes : List UInt8} {text : List Char} (others : Reads bytes text) :
      Reads (encodeChar c ++ bytes) (c :: text)
  | skip {b : UInt8} {bytes : List UInt8} {text : List Char}
      (illFormed : ∀ c, ¬encodeChar c <+: b :: bytes) (others : Reads bytes text) :
      Reads (b :: bytes) text

/-! ## First bytes -/

/-- The announcement of a first byte that carries given bits, by the number of bytes that follow. -/
def announcement : (following bits : Nat) → Lead
  | 1, n => ⟨1, 0x80, 0xBF, n⟩
  | 2, n => ⟨2, if n = 0 then 0xA0 else 0x80, if n = 13 then 0x9F else 0xBF, n⟩
  | k, n => ⟨k, if n = 0 then 0x90 else 0x80, if n = 4 then 0x8F else 0xBF, n⟩

theorem lead?_two : ∀ n < 32, 2 ≤ n → lead? (.ofNat (n + 192)) = some (announcement 1 n) := by
  decide

theorem lead?_three : ∀ n < 16, lead? (.ofNat (n + 224)) = some (announcement 2 n) := by
  decide

theorem lead?_four : ∀ n < 5, lead? (.ofNat (n + 240)) = some (announcement 3 n) := by
  decide

/-- The bytes that begin a character of several bytes. -/
theorem exists_of_lead? {b : UInt8} {l : Lead} (lead : lead? b = some l) :
    (∃ n < 32, 2 ≤ n ∧ b = .ofNat (n + 192) ∧ l = announcement 1 n) ∨
      (∃ n < 16, b = .ofNat (n + 224) ∧ l = announcement 2 n) ∨
      ∃ n < 5, b = .ofNat (n + 240) ∧ l = announcement 3 n := by
  have range : ∀ k < 256, (lead? (.ofNat k)).isSome = true →
      194 ≤ k ∧ k < 224 ∨ 224 ≤ k ∧ k < 240 ∨ 240 ≤ k ∧ k < 245 := by decide +kernel
  have carries (base : Nat) (high : base ≤ b.toNat) : b = .ofNat (b.toNat - base + base) := by
    rw [Nat.sub_add_cancel high, UInt8.ofNat_toNat]
  have announced {n base : Nat} {l' : Lead} (own : b = .ofNat (n + base))
      (lead' : lead? (.ofNat (n + base)) = some l') : l = l' :=
    Option.some.inj (lead.symm.trans ((congrArg lead? own).trans lead'))
  rcases range b.toNat b.toNat_lt (by simp [lead]) with two | three | four
  · have own := carries 192 (by omega)
    exact .inl ⟨_, by omega, by omega, own, announced own (lead?_two _ (by omega) (by omega))⟩
  · have own := carries 224 (by omega)
    exact .inr (.inl ⟨_, by omega, own, announced own (lead?_three _ (by omega))⟩)
  · have own := carries 240 (by omega)
    exact .inr (.inr ⟨_, by omega, own, announced own (lead?_four _ (by omega))⟩)

/-- The range of the second byte lies within that of all further bytes. -/
theorem range_announcement (k n : Nat) :
    0x80 ≤ (announcement k n).lowest ∧ (announcement k n).highest ≤ 0xBF := by
  unfold announcement
  split
  · constructor <;> simp only <;> decide
  · constructor <;> simp only <;> split_ifs <;> decide
  · constructor <;> simp only <;> split_ifs <;> decide

variable {n x y z : Nat}

/-- The range of the second byte of three excludes overlong forms and surrogates. -/
theorem inRange_three_iff (hx : x < 64) :
    (announcement 2 n).lowest.toNat ≤ x + 128 ∧ x + 128 ≤ (announcement 2 n).highest.toNat ↔
      (n = 0 → 32 ≤ x) ∧ (n = 13 → x < 32) := by
  simp only [announcement]
  split_ifs <;> simp <;> omega

/-- That of the second byte of four excludes overlong forms and what lies behind the last code
point. -/
theorem inRange_four_iff (hx : x < 64) :
    (announcement 3 n).lowest.toNat ≤ x + 128 ∧ x + 128 ≤ (announcement 3 n).highest.toNat ↔
      (n = 0 → 16 ≤ x) ∧ (n = 4 → x < 16) := by
  simp only [announcement]
  split_ifs <;> simp <;> omega

/-! ## Characters of several bytes -/

theorem toNat_ofNat {n : Nat} (valid : n.isValidChar) : (Char.ofNat n).toNat = n := by
  rw [Char.ofNat, dif_pos valid]
  rfl

theorem encodeChar_one {c : Char} (small : c.toNat < 0x80) : encodeChar c = [.ofNat c.toNat] :=
  if_pos (Nat.le_of_lt_succ small)

theorem encodeChar_two (low : 2 ≤ n) (high : n < 32) (hx : x < 64) :
    encodeChar (Char.ofNat (n * 64 + x)) = [.ofNat (n + 192), .ofNat (x + 128)] := by
  have value : (Char.ofNat (n * 64 + x)).val.toNat = n * 64 + x :=
    toNat_ofNat (by unfold Nat.isValidChar; omega)
  rw [encodeChar, String.utf8EncodeChar]
  simp only [value]
  rw [if_neg (by omega), if_pos (by omega)]
  congr 3 <;> omega

theorem encodeChar_three (high : n < 16) (hx : x < 64) (hy : y < 64) (long : n = 0 → 32 ≤ x)
    (scalar : n = 13 → x < 32) :
    encodeChar (Char.ofNat ((n * 64 + x) * 64 + y)) =
      [.ofNat (n + 224), .ofNat (x + 128), .ofNat (y + 128)] := by
  have value : (Char.ofNat ((n * 64 + x) * 64 + y)).val.toNat = (n * 64 + x) * 64 + y :=
    toNat_ofNat (by unfold Nat.isValidChar; omega)
  rw [encodeChar, String.utf8EncodeChar]
  simp only [value]
  rw [if_neg (by omega), if_neg (by omega), if_pos (by omega)]
  congr 4 <;> omega

theorem encodeChar_four (high : n < 5) (hx : x < 64) (hy : y < 64) (hz : z < 64)
    (long : n = 0 → 16 ≤ x) (last : n = 4 → x < 16) :
    encodeChar (Char.ofNat (((n * 64 + x) * 64 + y) * 64 + z)) =
      [.ofNat (n + 240), .ofNat (x + 128), .ofNat (y + 128), .ofNat (z + 128)] := by
  have value : (Char.ofNat (((n * 64 + x) * 64 + y) * 64 + z)).val.toNat =
      ((n * 64 + x) * 64 + y) * 64 + z := toNat_ofNat (by unfold Nat.isValidChar; omega)
  rw [encodeChar, String.utf8EncodeChar]
  simp only [value]
  rw [if_neg (by omega), if_neg (by omega), if_neg (by omega)]
  congr 5 <;> omega

/-! ## Completing a character -/

/-- The character that the next bytes complete, and the bytes behind it; nothing if the character is
broken off. -/
def complete? : (remaining : Nat) → (lowest highest : UInt8) → (bits : Nat) → List UInt8 →
    Option (Char × List UInt8)
  | 0, _, _, bits, bytes => some (Char.ofNat bits, bytes)
  | _ + 1, _, _, _, [] => none
  | n + 1, lowest, highest, bits, b :: bytes =>
    if lowest ≤ b && b ≤ highest then complete? n 0x80 0xBF (extend bits b) bytes else none

/-- A byte that continues a character begins none. -/
theorem begin_of_continuation {b : UInt8} (low : 0x80 ≤ b) (high : b ≤ 0xBF) :
    begin b = (.between, []) := by
  have range : ∀ k < 256, 128 ≤ k → k ≤ 191 →
      ¬UInt8.ofNat k < 0x80 ∧ lead? (.ofNat k) = none := by decide +kernel
  obtain ⟨large, none⟩ := range b.toNat b.toNat_lt low high
  rw [UInt8.ofNat_toNat] at large none
  rw [begin, if_neg large, none]

/-- The machine reads a character that is completed, and otherwise what stands behind its first
byte. -/
theorem decodeFrom_within (n : Nat) {lowest highest : UInt8} (low : 0x80 ≤ lowest)
    (high : highest ≤ 0xBF) (bits : Nat) (bytes : List UInt8) :
    decodeFrom (.within (n + 1) lowest highest bits) bytes =
      match complete? (n + 1) lowest highest bits bytes with
      | some (c, rest) => c :: decode rest
      | none => decode bytes := by
  induction bytes generalizing n lowest highest bits with
  | nil => rfl
  | cons b rest ih =>
      rw [decodeFrom, advance, complete?]
      by_cases inside : (lowest ≤ b && b ≤ highest) = true
      · rw [if_pos inside, if_pos inside]
        rw [Bool.and_eq_true, decide_eq_true_eq, decide_eq_true_eq] at inside
        cases n with
        | zero => rfl
        | succ n =>
            have skipped : decode (b :: rest) = decode rest := by
              rw [decode, decodeFrom, advance, begin_of_continuation (UInt8.le_trans low inside.1)
                (UInt8.le_trans inside.2 high)]
              rfl
            rw [if_neg (by omega), skipped]
            exact ih n (by decide) (by decide) _
      · rw [if_neg inside, if_neg inside]
        rfl

section Complete

variable {bits : Nat} {lowest highest : UInt8} {bytes rest : List UInt8}
  {result : Char × List UInt8}

theorem extend_of_toNat {b : UInt8} (value : b.toNat = x + 128) :
    extend bits b = bits * 64 + x := by
  change bits * 64 + (b.toNat - 128) = _
  rw [value, Nat.add_sub_cancel]

/-- A byte that continues a character carries six bits. -/
theorem complete?_ofNat (hx : x < 64) (low : lowest.toNat ≤ x + 128)
    (high : x + 128 ≤ highest.toNat) :
    complete? (n + 1) lowest highest bits (.ofNat (x + 128) :: rest) =
      complete? n 0x80 0xBF (bits * 64 + x) rest := by
  have value : (UInt8.ofNat (x + 128)).toNat = x + 128 := by
    rw [UInt8.toNat_ofNat', Nat.mod_eq_of_lt (by omega)]
  have inside : (lowest ≤ .ofNat (x + 128) && .ofNat (x + 128) ≤ highest) = true := by
    rw [Bool.and_eq_true, decide_eq_true_eq, decide_eq_true_eq, UInt8.le_iff_toNat_le,
      UInt8.le_iff_toNat_le, value]
    exact ⟨low, high⟩
  rw [complete?, if_pos inside, extend_of_toNat value]

/-- Only such bytes complete a character. -/
theorem exists_of_complete? (low : 0x80 ≤ lowest) (high : highest ≤ 0xBF)
    (complete : complete? (n + 1) lowest highest bits bytes = some result) :
    ∃ x < 64, ∃ rest, bytes = .ofNat (x + 128) :: rest ∧ lowest.toNat ≤ x + 128 ∧
      x + 128 ≤ highest.toNat ∧ complete? n 0x80 0xBF (bits * 64 + x) rest = some result := by
  have low : 128 ≤ lowest.toNat := low
  have high : highest.toNat ≤ 191 := high
  cases bytes with
  | nil => cases complete
  | cons b rest =>
      rw [complete?, Option.ite_none_right_eq_some, Bool.and_eq_true, decide_eq_true_eq,
        decide_eq_true_eq, UInt8.le_iff_toNat_le, UInt8.le_iff_toNat_le] at complete
      obtain ⟨⟨above, below⟩, complete⟩ := complete
      have own : b.toNat - 128 + 128 = b.toNat := by omega
      exact ⟨b.toNat - 128, by omega, rest, by rw [own, UInt8.ofNat_toNat], by omega, by omega,
        complete⟩

end Complete

/-- What is completed behind a first byte is a character as it is encoded. -/
theorem encodeChar_of_complete? {b : UInt8} {l : Lead} {bytes rest : List UInt8} {c : Char}
    (lead : lead? b = some l)
    (complete : complete? l.following l.lowest l.highest l.bits bytes = some (c, rest)) :
    b :: bytes = encodeChar c ++ rest := by
  have last {bits : Nat} {bytes : List UInt8}
      (complete : complete? 0 0x80 0xBF bits bytes = some (c, rest)) :
      c = Char.ofNat bits ∧ bytes = rest := by
    simpa [complete?, eq_comm] using complete
  rcases exists_of_lead? lead with ⟨n, high, low, rfl, rfl⟩ | ⟨n, high, rfl, rfl⟩ |
    ⟨n, high, rfl, rfl⟩
  · obtain ⟨inside, within⟩ := range_announcement 1 n
    obtain ⟨x, hx, _, rfl, -, -, complete⟩ := exists_of_complete? inside within complete
    obtain ⟨rfl, rfl⟩ := last complete
    rw [show (announcement 1 n).bits = n from rfl, encodeChar_two low high hx]
    rfl
  · obtain ⟨inside, within⟩ := range_announcement 2 n
    obtain ⟨x, hx, _, rfl, low, top, complete⟩ := exists_of_complete? inside within complete
    obtain ⟨y, hy, _, rfl, -, -, complete⟩ := exists_of_complete? (by decide) (by decide) complete
    obtain ⟨rfl, rfl⟩ := last complete
    obtain ⟨long, scalar⟩ := (inRange_three_iff hx).1 ⟨low, top⟩
    rw [show (announcement 2 n).bits = n from rfl, encodeChar_three high hx hy long scalar]
    rfl
  · obtain ⟨inside, within⟩ := range_announcement 3 n
    obtain ⟨x, hx, _, rfl, low, top, complete⟩ := exists_of_complete? inside within complete
    obtain ⟨y, hy, _, rfl, -, -, complete⟩ := exists_of_complete? (by decide) (by decide) complete
    obtain ⟨z, hz, _, rfl, -, -, complete⟩ := exists_of_complete? (by decide) (by decide) complete
    obtain ⟨rfl, rfl⟩ := last complete
    obtain ⟨long, scalar⟩ := (inRange_four_iff hx).1 ⟨low, top⟩
    rw [show (announcement 3 n).bits = n from rfl, encodeChar_four high hx hy hz long scalar]
    rfl

/-- The encoding of a character of several bytes is completed behind its first byte. -/
theorem complete?_encodeChar {c : Char} (several : 0x80 ≤ c.toNat) (rest : List UInt8) :
    ∃ b bytes l, encodeChar c = b :: bytes ∧ lead? b = some l ∧
      complete? l.following l.lowest l.highest l.bits (bytes ++ rest) = some (c, rest) := by
  have valid : c.toNat.isValidChar := c.valid
  have own : c = Char.ofNat c.toNat := (Char.ofNat_toNat c).symm
  have digits (v : Nat) : ∃ n x, v = n * 64 + x ∧ x < 64 :=
    ⟨v / 64, v % 64, (Nat.div_add_mod' v 64).symm, Nat.mod_lt _ (by decide)⟩
  have further {n x bits : Nat} (hx : x < 64) (rest : List UInt8) :
      complete? (n + 1) 0x80 0xBF bits (.ofNat (x + 128) :: rest) =
        complete? n 0x80 0xBF (bits * 64 + x) rest :=
    complete?_ofNat hx (Nat.le_add_left ..) (show x + 128 ≤ 191 by omega)
  generalize c.toNat = v at several valid own
  subst own
  unfold Nat.isValidChar at valid
  obtain ⟨n, x, rfl, hx⟩ := digits v
  rcases Nat.lt_or_ge n 32 with two | more
  · refine ⟨_, _, _, encodeChar_two (by omega) two hx, lead?_two n two (by omega), ?_⟩
    exact further hx rest
  obtain ⟨n, y, rfl, hy⟩ := digits n
  rcases Nat.lt_or_ge n 16 with three | more
  · have inRange := inRange_three_iff (n := n) hy
    refine ⟨_, _, _, encodeChar_three three hy hx (by omega) (by omega), lead?_three n three, ?_⟩
    exact (complete?_ofNat hy (by omega) (by omega)).trans (further hx rest)
  · obtain ⟨n, z, rfl, hz⟩ := digits n
    have inRange := inRange_four_iff (n := n) hz
    refine ⟨_, _, _, encodeChar_four (by omega) hz hy hx (by omega) (by omega),
      lead?_four n (by omega), ?_⟩
    exact (complete?_ofNat hz (by omega) (by omega)).trans
      ((further hy _).trans (further hx rest))

/-! ## Decoding -/

theorem decode_of_small {b : UInt8} (small : b < 0x80) (bytes : List UInt8) :
    decode (b :: bytes) = Char.ofNat b.toNat :: decode bytes := by
  rw [decode, decodeFrom, advance, begin, if_pos small]
  rfl

/-- Behind a byte that announces a character the machine reads what is completed. -/
theorem decode_of_lead {b : UInt8} {l : Lead} (lead : lead? b = some l) (bytes : List UInt8) :
    decode (b :: bytes) =
      match complete? l.following l.lowest l.highest l.bits bytes with
      | some (c, rest) => c :: decode rest
      | none => decode bytes := by
  have large : ¬b < 0x80 := by
    intro small
    have none : ∀ k < 128, lead? (.ofNat k) = none := by decide
    have absent := none b.toNat small
    rw [UInt8.ofNat_toNat, lead] at absent
    cases absent
  have within : decode (b :: bytes) =
      decodeFrom (.within l.following l.lowest l.highest l.bits) bytes := by
    rw [decode, decodeFrom, advance, begin, if_neg large, lead]
    rfl
  rw [within]
  rcases exists_of_lead? lead with ⟨n, -, -, -, rfl⟩ | ⟨n, -, -, rfl⟩ | ⟨n, -, -, rfl⟩
  · exact decodeFrom_within 0 (range_announcement 1 n).1 (range_announcement 1 n).2 _ _
  · exact decodeFrom_within 1 (range_announcement 2 n).1 (range_announcement 2 n).2 _ _
  · exact decodeFrom_within 2 (range_announcement 3 n).1 (range_announcement 3 n).2 _ _

/-- Where a character stands it is read. -/
theorem decode_encodeChar_append (c : Char) (bytes : List UInt8) :
    decode (encodeChar c ++ bytes) = c :: decode bytes := by
  rcases Nat.lt_or_ge c.toNat 0x80 with small | several
  · have value : (UInt8.ofNat c.toNat).toNat = c.toNat := by
      rw [UInt8.toNat_ofNat', Nat.mod_eq_of_lt (by omega)]
    have low : UInt8.ofNat c.toNat < 0x80 := UInt8.lt_iff_toNat_lt.2 (by rwa [value])
    rw [encodeChar_one small, List.singleton_append, decode_of_small low, value, Char.ofNat_toNat]
  · obtain ⟨b, further, l, encoded, lead, complete⟩ := complete?_encodeChar several bytes
    rw [encoded, List.cons_append, decode_of_lead lead, complete]

/-- Where none stands a byte is skipped. -/
theorem decode_of_illFormed {b : UInt8} {bytes : List UInt8}
    (illFormed : ∀ c, ¬encodeChar c <+: b :: bytes) : decode (b :: bytes) = decode bytes := by
  have large : ¬b < 0x80 := by
    intro small
    have small : b.toNat < 0x80 := UInt8.lt_iff_toNat_lt.1 small
    have value : (Char.ofNat b.toNat).toNat = b.toNat := toNat_ofNat (.inl (by omega))
    have single := encodeChar_one (value ▸ small)
    rw [value, UInt8.ofNat_toNat] at single
    apply illFormed (Char.ofNat b.toNat)
    rw [single]
    exact List.prefix_append [b] bytes
  cases lead : lead? b with
  | none =>
      rw [decode, decodeFrom, advance, begin, if_neg large, lead]
      rfl
  | some l =>
      rw [decode_of_lead lead]
      cases complete : complete? l.following l.lowest l.highest l.bits bytes with
      | none => rfl
      | some result =>
          obtain ⟨c, rest⟩ := result
          exact absurd ⟨rest, (encodeChar_of_complete? lead complete).symm⟩ (illFormed c)

/-- A character takes at least one byte. -/
theorem length_encodeChar_pos (c : Char) : 0 < (encodeChar c).length := by
  rw [encodeChar, String.length_utf8EncodeChar]
  exact c.utf8Size_pos

/-- What decoding gives is held by the bytes. -/
theorem reads_decode (bytes : List UInt8) : Reads bytes (decode bytes) := by
  -- on the number of bytes, since a character takes several of them at once
  induction size : bytes.length using Nat.strong_induction_on generalizing bytes with
  | _ n ih =>
      cases bytes with
      | nil => exact .nil
      | cons b rest =>
          by_cases begins : ∃ c, encodeChar c <+: b :: rest
          · obtain ⟨c, others, heq⟩ := begins
            have shorter : others.length < n := by
              have positive := length_encodeChar_pos c
              rw [← size, ← heq, List.length_append]
              omega
            rw [← heq, decode_encodeChar_append]
            exact .char (ih _ shorter _ rfl)
          · rw [not_exists] at begins
            rw [decode_of_illFormed begins]
            exact .skip begins (ih _ (by simp [← size]) _ rfl)

/-- What bytes hold is what decoding gives. -/
theorem reads_iff {bytes : List UInt8} {text : List Char} :
    Reads bytes text ↔ decode bytes = text := by
  constructor
  · intro reads
    induction reads with
    | nil => rfl
    | char others ih => rw [decode_encodeChar_append, ih]
    | skip illFormed others ih => rw [decode_of_illFormed illFormed, ih]
  · rintro rfl
    exact reads_decode bytes

/-- Encoded texts are read back. -/
theorem decode_encode (text : List Char) : decode (encode text) = text := by
  induction text with
  | nil => rfl
  | cons c rest ih => rw [encode, List.flatMap_cons, decode_encodeChar_append, ← encode, ih]

/-- Different texts have different UTF-8 forms. -/
theorem encode_injective : Function.Injective encode :=
  Function.LeftInverse.injective decode_encode

end ScannerDiscovery.Text.Utf8
