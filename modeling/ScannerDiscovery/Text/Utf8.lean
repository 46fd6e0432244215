/-!
# Lossy decoding of UTF-8

Bytes are read as UTF-8; every maximal ill-formed part is skipped. Decoding never fails.

The reader is a machine over bytes: its place says how many bytes of a character are still to
come and in which range the next one must be.
-/

namespace ScannerDiscovery.Text.Utf8

/-! ## Encoding -/

/-- The bytes of one character. -/
def encodeChar (c : Char) : List UInt8 :=
  String.utf8EncodeChar c

/-- The bytes of a text. -/
def encode (text : List Char) : List UInt8 :=
  text.flatMap encodeChar

/-! ## Decoding -/

/-- What the first byte of a character of several bytes announces: how many bytes follow, the
range of the second byte, and the bits that the first one carries. -/
structure Lead where
  following : Nat
  lowest : UInt8
  highest : UInt8
  bits : Nat
  deriving DecidableEq

/-- The announcement of a first byte, absent if it begins no character of several bytes. The
range of the second byte excludes overlong forms, surrogates and numbers above the last code
point. -/
def lead? (b : UInt8) : Option Lead :=
  if 0xC2 ≤ b && b ≤ 0xDF then some ⟨1, 0x80, 0xBF, b.toNat - 0xC0⟩
  else if b == 0xE0 then some ⟨2, 0xA0, 0xBF, 0⟩
  else if b == 0xED then some ⟨2, 0x80, 0x9F, 13⟩
  else if 0xE1 ≤ b && b ≤ 0xEF then some ⟨2, 0x80, 0xBF, b.toNat - 0xE0⟩
  else if b == 0xF0 then some ⟨3, 0x90, 0xBF, 0⟩
  else if 0xF1 ≤ b && b ≤ 0xF3 then some ⟨3, 0x80, 0xBF, b.toNat - 0xF0⟩
  else if b == 0xF4 then some ⟨3, 0x80, 0x8F, 4⟩
  else none

/-- A code point with six more bits. -/
def extend (bits : Nat) (b : UInt8) : Nat :=
  bits * 64 + (b.toNat - 0x80)

/-- The reader's place in a character: nothing begun, or the bytes that must still come, the
range of the next one, and the bits so far. -/
inductive Place
  | between
  | within (remaining : Nat) (lowest highest : UInt8) (bits : Nat)

/-- The place after a byte that begins a character, and the character if it is complete. A byte
that begins none is skipped. -/
def begin (b : UInt8) : Place × List Char :=
  if b < 0x80 then (.between, [Char.ofNat b.toNat])
  else match lead? b with
    | some l => (.within l.following l.lowest l.highest l.bits, [])
    | none => (.between, [])

/-- The place after one more byte, and the character that it completes. A byte that does not
continue the character begun drops that character's bytes and is read afresh. -/
def advance : Place → UInt8 → Place × List Char
  | .between, b => begin b
  | .within remaining lowest highest bits, b =>
    if lowest ≤ b && b ≤ highest then
      if remaining ≤ 1 then (.between, [Char.ofNat (extend bits b)])
      else (.within (remaining - 1) 0x80 0xBF (extend bits b), [])
    else begin b

/-- The characters of the remaining bytes, read from a place. -/
def decodeFrom (place : Place) : List UInt8 → List Char
  | [] => []
  | b :: rest => (advance place b).2 ++ decodeFrom (advance place b).1 rest

/-- The characters of bytes, ill-formed parts skipped. -/
def decode (bytes : List UInt8) : List Char :=
  decodeFrom .between bytes

end ScannerDiscovery.Text.Utf8
