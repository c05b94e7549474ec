import LineStore.Text.Bytes
/-!
# xxHash64

The 64-bit hash with seed zero: four lanes over stripes of 32 bytes, then the rest in steps of eight,
four and one byte.
-/
namespace LineStore.XxHash64

def p1 : UInt64 := 11400714785074694791
def p2 : UInt64 := 14029467366897019727
def p3 : UInt64 := 1609587929392839161
def p4 : UInt64 := 9650029242287828579
def p5 : UInt64 := 2870177450012600261

def rotate (x : UInt64) (n : UInt64) : UInt64 := (x <<< n) ||| (x >>> (64 - n))

def round (acc input : UInt64) : UInt64 := rotate (acc + input * p2) 31 * p1

def merge (acc v : UInt64) : UInt64 := (acc ^^^ round 0 v) * p1 + p4

/-- Little-endian value of a list of bytes. -/
def littleEndian : Bytes → UInt64
  | [] => 0
  | b :: rest => b.toUInt64 ||| (littleEndian rest <<< 8)

structure Lanes where
  a : UInt64
  b : UInt64
  c : UInt64
  d : UInt64

def Lanes.initial : Lanes := ⟨p1 + p2, p2, 0, 0 - p1⟩

def Lanes.step (v : Lanes) (s : Bytes) : Lanes :=
  ⟨round v.a (littleEndian (s.take 8)), round v.b (littleEndian ((s.drop 8).take 8)),
    round v.c (littleEndian ((s.drop 16).take 8)), round v.d (littleEndian ((s.drop 24).take 8))⟩

def Lanes.finish (v : Lanes) : UInt64 :=
  let h := rotate v.a 1 + rotate v.b 7 + rotate v.c 12 + rotate v.d 18
  merge (merge (merge (merge h v.a) v.b) v.c) v.d

/-- Consumes `n` stripes. -/
def stripes : Nat → Lanes → Bytes → Lanes × Bytes
  | 0, v, s => (v, s)
  | n + 1, v, s => stripes n (v.step s) (s.drop 32)

/-- Mixes in the last bytes, fewer than 32. -/
def tailBytes (h : UInt64) : Bytes → UInt64
  | [] => h
  | b :: rest => tailBytes (rotate (h ^^^ (b.toUInt64 * p5)) 11 * p1) rest

def tailWord (h : UInt64) (s : Bytes) : UInt64 :=
  if 4 ≤ s.length then
    tailBytes (rotate (h ^^^ (littleEndian (s.take 4) * p1)) 23 * p2 + p3) (s.drop 4)
  else tailBytes h s

def tailLongs : Nat → UInt64 → Bytes → UInt64
  | 0, h, s => tailWord h s
  | n + 1, h, s =>
    tailLongs n (rotate (h ^^^ round 0 (littleEndian (s.take 8))) 27 * p1 + p4) (s.drop 8)

def avalanche (h : UInt64) : UInt64 :=
  let h := (h ^^^ (h >>> 33)) * p2
  let h := (h ^^^ (h >>> 29)) * p3
  h ^^^ (h >>> 32)

def hash (s : Bytes) : UInt64 :=
  let n := s.length
  let (v, rest) := stripes (n / 32) Lanes.initial s
  let h := (if 32 ≤ n then v.finish else p5) + n.toUInt64
  avalanche (tailLongs (rest.length / 8) h rest)

end LineStore.XxHash64
