import LineStore.Text.Bytes
/-!
# SHA-1

The digest of a byte string: the message is padded to whole blocks, each block is expanded to eighty
words, and the chaining state is folded over the blocks.
-/
namespace LineStore.Sha1

structure State where
  a : UInt32
  b : UInt32
  c : UInt32
  d : UInt32
  e : UInt32
  deriving Repr, DecidableEq, Inhabited

def initial : State := ⟨0x67452301, 0xefcdab89, 0x98badcfe, 0x10325476, 0xc3d2e1f0⟩

def rotate (x : UInt32) (n : UInt32) : UInt32 := (x <<< n) ||| (x >>> (32 - n))

/-- The low eight bytes of `n`, most significant first. -/
def bigEndian64 (n : Nat) : Bytes :=
  [56, 48, 40, 32, 24, 16, 8, 0].map fun s => (n >>> s).toUInt8

/-- The message, a one bit, zeros, and the length in bits, filling whole blocks of 64 bytes. -/
def pad (s : Bytes) : Bytes :=
  let n := s.length
  s ++ [0x80] ++ List.replicate ((119 - n % 64) % 64) 0 ++ bigEndian64 (8 * n)

/-- Bytes taken four at a time as big-endian words. -/
def words : Bytes → List UInt32
  | a :: b :: c :: d :: rest =>
    ((a.toUInt32 <<< 24) ||| (b.toUInt32 <<< 16) ||| (c.toUInt32 <<< 8) ||| d.toUInt32)
      :: words rest
  | _ => []

/-- The next words of a schedule, given the last sixteen; oldest first. -/
def extend : Nat → List UInt32 → List UInt32
  | 0, _ => []
  | n + 1, w =>
    let x := rotate (w.getD 13 0 ^^^ w.getD 8 0 ^^^ w.getD 2 0 ^^^ w.getD 0 0) 1
    x :: extend n (w.drop 1 ++ [x])

def schedule (block : List UInt32) : List UInt32 := block ++ extend 64 block

/-- One round, with its number and its word. -/
def round (s : State) (tw : Nat × UInt32) : State :=
  let (t, w) := tw
  let (f, k) : UInt32 × UInt32 :=
    if t < 20 then ((s.b &&& s.c) ||| ((~~~s.b) &&& s.d), 0x5a827999)
    else if t < 40 then (s.b ^^^ s.c ^^^ s.d, 0x6ed9eba1)
    else if t < 60 then ((s.b &&& s.c) ||| (s.b &&& s.d) ||| (s.c &&& s.d), 0x8f1bbcdc)
    else (s.b ^^^ s.c ^^^ s.d, 0xca62c1d6)
  ⟨rotate s.a 5 + f + s.e + k + w, s.a, rotate s.b 30, s.c, s.d⟩

def compress (s : State) (block : List UInt32) : State :=
  let r := ((List.range 80).zip (schedule block)).foldl round s
  ⟨s.a + r.a, s.b + r.b, s.c + r.c, s.d + r.d, s.e + r.e⟩

def blocks : Nat → List UInt32 → List (List UInt32)
  | 0, _ => []
  | n + 1, w => w.take 16 :: blocks n (w.drop 16)

/-- The digest as forty lower-case hexadecimal digits. -/
def hexDigest (s : Bytes) : Bytes :=
  let w := words (pad s)
  let r := (blocks (w.length / 16) w).foldl compress initial
  [r.a, r.b, r.c, r.d, r.e].flatMap fun x => Bytes.padLeft 0x30 8 (Bytes.ofNatBase 16 x.toNat)

end LineStore.Sha1
