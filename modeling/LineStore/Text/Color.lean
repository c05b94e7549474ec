import LineStore.Number.Int64
/-!
# Colors of text on a terminal

A color is named by a number of the terminal's palette or by its red, green and blue parts.
-/
namespace LineStore

inductive Color where
  /-- One of the sixteen basic colors. -/
  | basic (n : Nat)
  /-- A color of the palette of 256. -/
  | indexed (n : Nat)
  | rgb (red green blue : Nat)
  deriving Repr, DecidableEq, Inhabited

namespace Color

private def hexPair? (a b : UInt8) : Option Nat := Int64.digits? 16 [a, b]

/-- `#rgb` or `#rrggbb`. -/
def ofHex? : Bytes → Option Color
  | [0x23, a, b, c] => do return rgb (← hexPair? a a) (← hexPair? b b) (← hexPair? c c)
  | [0x23, a, b, c, d, e, f] => do return rgb (← hexPair? a b) (← hexPair? c d) (← hexPair? e f)
  | _ => none

/-- A number: below 16 a basic color, below 256 one of the palette, else three bytes. -/
def ofNumber (n : Nat) : Color :=
  if n < 16 then basic n
  else if n < 256 then indexed n
  else rgb (n / 65536 % 256) (n / 256 % 256) (n % 256)

/-- Reads a color.  The sign of a number does not matter, and the least 64-bit number has no absolute
value: it counts as zero. -/
def parse? (s : Bytes) : Option Color :=
  if s.head? = some 0x23 then ofHex? s
  else (Int64.read? s).map fun n => if n = Int64.minValue then basic 0 else ofNumber n.natAbs

/-- What a color is given to. -/
inductive Plane where
  | text | ground | underline
  deriving Repr, DecidableEq, Inhabited

/-- The planes have codes ten apart. -/
def Plane.offset : Plane → Nat
  | text => 0
  | ground => 10
  | underline => 20

/-- The parameters of the escape sequence that chooses a color for a plane. -/
def parameters (plane : Plane) : Color → Bytes
  | basic n =>
    if plane = .underline then Bytes.join [0x3b] ([58, 5, n].map Bytes.ofNat)
    else Bytes.ofNat (plane.offset + if n < 8 then 30 + n else 82 + n)
  | indexed n => Bytes.join [0x3b] ([38 + plane.offset, 5, n].map Bytes.ofNat)
  | rgb r g b => Bytes.join [0x3b] ([38 + plane.offset, 2, r, g, b].map Bytes.ofNat)

/-- Text in a color, if there is one. -/
def paint : Option Color → Bytes → Bytes
  | none, s => s
  | some c, s => [0x1b, 0x5b] ++ c.parameters .text ++ [0x6d] ++ s ++ [0x1b, 0x5b, 0x6d]

end Color
end LineStore
