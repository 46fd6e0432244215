/-!
# The SHA-1 digest

The digest of a list of bytes: the message is padded to blocks of 64 bytes, and each block is
mixed into a state of five words.
-/

namespace ScannerDiscovery.Sha1

/-- The five words of the state. -/
structure State where
  a : UInt32
  b : UInt32
  c : UInt32
  d : UInt32
  e : UInt32

/-- The state before the first block. -/
def initial : State :=
  ⟨0x67452301, 0xEFCDAB89, 0x98BADCFE, 0x10325476, 0xC3D2E1F0⟩

/-- A word with its bits moved cyclically to the left. -/
def rotate (word amount : UInt32) : UInt32 :=
  (word <<< amount) ||| (word >>> (32 - amount))

/-- The big-endian bytes of a number. -/
def bigEndian (size n : Nat) : List UInt8 :=
  (List.range size).reverse.map fun place => UInt8.ofNat (n / Nat.pow 256 place % 256)

/-- The message followed by a one bit, zeros, and its length in bits. -/
def pad (message : List UInt8) : List UInt8 :=
  message ++ 0x80 :: List.replicate ((119 - message.length % 64) % 64) 0 ++
    bigEndian 8 (8 * message.length)

/-- The word of four big-endian bytes, and those of the bytes that follow. -/
def words : List UInt8 → List UInt32
  | p :: q :: r :: s :: rest =>
    (p.toUInt32 <<< 24 ||| q.toUInt32 <<< 16 ||| r.toUInt32 <<< 8 ||| s.toUInt32) :: words rest
  | _ => []

/-- Further words of the schedule, each from four earlier ones. The list is kept latest first. -/
def extendSchedule : Nat → List UInt32 → List UInt32
  | 0, latest => latest
  | count + 1, latest =>
    let word := latest.getD 2 0 ^^^ latest.getD 7 0 ^^^ latest.getD 13 0 ^^^ latest.getD 15 0
    extendSchedule count (rotate word 1 :: latest)

/-- The eighty words of a block's schedule. -/
def schedule (block : List UInt32) : List UInt32 :=
  (extendSchedule 64 block.reverse).reverse

/-- The mixing function and the constant of a round. -/
def roundFunction (round : Nat) (s : State) : UInt32 × UInt32 :=
  if round < 20 then ((s.b &&& s.c) ||| (~~~s.b &&& s.d), 0x5A827999)
  else if round < 40 then (s.b ^^^ s.c ^^^ s.d, 0x6ED9EBA1)
  else if round < 60 then ((s.b &&& s.c) ||| (s.b &&& s.d) ||| (s.c &&& s.d), 0x8F1BBCDC)
  else (s.b ^^^ s.c ^^^ s.d, 0xCA62C1D6)

/-- The state after a round. -/
def mix (s : State) (round : Nat × UInt32) : State :=
  let (f, k) := roundFunction round.1 s
  ⟨rotate s.a 5 + f + s.e + k + round.2, s.a, rotate s.b 30, s.c, s.d⟩

/-- The state after a block. -/
def absorb (s : State) (block : List UInt32) : State :=
  let t := ((schedule block).zipIdx.map fun (word, round) => (round, word)).foldl mix s
  ⟨s.a + t.a, s.b + t.b, s.c + t.c, s.d + t.d, s.e + t.e⟩

/-- The state after a number of blocks of sixteen words. -/
def absorbAll : Nat → State → List UInt32 → State
  | 0, s, _ => s
  | count + 1, s, message => absorbAll count (absorb s (message.take 16)) (message.drop 16)

/-- The twenty bytes of the digest. -/
def digest (message : List UInt8) : List UInt8 :=
  let padded := words (pad message)
  let s := absorbAll (padded.length / 16) initial padded
  [s.a, s.b, s.c, s.d, s.e].flatMap fun word => bigEndian 4 word.toNat

end ScannerDiscovery.Sha1
