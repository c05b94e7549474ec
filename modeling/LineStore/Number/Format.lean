import LineStore.Number.Shortest
/-!
# Writing numbers

General form is positional for exponents from -4 to 5 and scientific beyond; plain form is always
positional; fixed form rounds to a number of places, ties to even.
-/
namespace LineStore.Number

private def special (x : Number) : Option Bytes :=
  match x with
  | nan => some (utf8 "NaN")
  | infinite true => some (utf8 "-Inf")
  | infinite false => some (utf8 "+Inf")
  | finite _ _ _ => none

private def signed (negative : Bool) (s : Bytes) : Bytes := if negative then 0x2d :: s else s

/-- Digits with a point among, before or after them. -/
def Decimal.positional (d : Decimal) : Bytes :=
  if d.point ≤ 0 then utf8 "0." ++ List.replicate (-d.point).toNat 0x30 ++ d.digits
  else
    let k := d.point.toNat
    if d.digits.length ≤ k then d.digits ++ List.replicate (k - d.digits.length) 0x30
    else d.digits.take k ++ [0x2e] ++ d.digits.drop k

/-- One digit, a point, the others, and an exponent of at least `width` digits. -/
def Decimal.scientific (width : Nat) (d : Decimal) : Bytes :=
  let e := d.point - 1
  let fraction := d.digits.drop 1
  d.digits.take 1 ++ (if fraction.isEmpty then [] else 0x2e :: fraction) ++ [0x65] ++
    [if e < 0 then 0x2d else 0x2b] ++ Bytes.padLeft 0x30 width (Bytes.ofNat e.natAbs)

/-- How a number is written with its shortest digits. -/
structure Style where
  precision : Precision
  /-- Least exponent written positionally. -/
  low : Int
  /-- Least exponent above those written positionally. -/
  high : Int
  exponentWidth : Nat

/-- Everyday text of a number. -/
def general : Style := ⟨double, -4, 6, 2⟩

/-- Everyday text of a single-precision number. -/
def generalSingle : Style := ⟨single, -4, 6, 2⟩

/-- Numbers of a JSON document. -/
def json : Style := ⟨double, -6, 21, 1⟩

/-- JSON numbers of single precision. -/
def jsonSingle : Style := ⟨single, -6, 21, 1⟩

def write (style : Style) (x : Number) : Bytes :=
  match special x with
  | some s => s
  | none =>
    if x.magnitude = 0 then signed x.isNegative [0x30]
    else
      let d := shortest style.precision x.magnitude
      let e := d.point - 1
      signed x.isNegative
        (if e < style.low ∨ style.high ≤ e then d.scientific style.exponentWidth else d.positional)

/-- Shortest digits, never an exponent. -/
def plain (x : Number) : Bytes :=
  match special x with
  | some s => s
  | none =>
    if x.magnitude = 0 then signed x.isNegative [0x30]
    else signed x.isNegative (shortest double x.magnitude).positional

/-- Rounded to `places` digits after the point. -/
def fixed (places : Nat) (x : Number) : Bytes :=
  match special x with
  | some s => s
  | none =>
    let n := divRound (x.magnitude * tenTo places) (twoTo double.scale)
    let digits := Bytes.padLeft 0x30 (places + 1) (Bytes.ofNat n)
    let whole := digits.take (digits.length - places)
    let fraction := digits.drop (digits.length - places)
    signed x.isNegative (if places = 0 then whole else whole ++ [0x2e] ++ fraction)

end LineStore.Number
