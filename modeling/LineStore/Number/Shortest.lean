import LineStore.Number.Binary64
/-!
# Shortest decimals

The fewest decimal digits that read back as the same number.  For one digit, two digits and so on, the
two neighbours of the value on that decimal grid are tested against the interval of reals that round
to it; the first grid with a hit wins, and of two hits the nearer.
-/
namespace LineStore.Number

/-- `digits` is a numeral without trailing zeros; `point` is where the decimal point stands, counted
from before its first digit: the value is `0.d₁d₂… * 10 ^ point`. -/
structure Decimal where
  digits : Bytes
  point : Int
  deriving Repr, DecidableEq, Inhabited

/-- The power of ten of the first digit of a positive ratio. -/
def leadingPower (num den : Nat) : Int :=
  if den ≤ num then ((Bytes.ofNat (num / den)).length : Int) - 1
  else
    let t := (Bytes.ofNat (den / num)).length
    if den ≤ num * tenTo (t - 1) then -((t - 1 : Nat) : Int) else -(t : Int)

/-- A ratio times a power of ten. -/
def scaleTen (num den : Nat) (p : Int) : Nat × Nat :=
  if 0 ≤ p then (num * tenTo p.toNat, den) else (num, den * tenTo (-p).toNat)

private def gridHit (lo v hi den : Nat) (closed : Bool) (shift : Int) : Option Nat :=
  let scaled (x : Nat) := scaleTen x den shift
  let (vn, vd) := scaled v
  let (ln, _) := scaled lo
  let (hn, _) := scaled hi
  let inside (d : Nat) : Bool :=
    if closed then ln ≤ d * vd && d * vd ≤ hn else ln < d * vd && d * vd < hn
  let below := vn / vd
  let above := below + 1
  match inside below, inside above with
  | true, false => some below
  | false, true => some above
  | false, false => none
  | true, true =>
    let twice := 2 * (vn % vd)
    if twice < vd then some below
    else if vd < twice then some above
    else some (if below % 2 = 0 then below else above)

private def search (lo v hi den : Nat) (closed : Bool) (lead : Int) : Nat → Nat → Nat × Nat
  | 0, n => (v / den, n)
  | fuel + 1, n =>
    match gridHit lo v hi den closed ((n : Int) - 1 - lead) with
    | some d => (d, n)
    | none => search lo v hi den closed lead fuel (n + 1)

private def stripZeros (s : Bytes) : Bytes := (s.reverse.dropWhile (· == 0x30)).reverse

/-- Shortest decimal of a positive magnitude, given in binary64 least units, that reads back in
precision `p`. -/
def shortest (p : Precision) (magnitude : Nat) : Decimal :=
  let units := magnitude / twoTo (double.scale - p.scale)
  let e := Nat.log2 units + 1 - p.bits
  let m := units / twoTo e
  let den := 4 * twoTo p.scale
  let v := 4 * m * twoTo e
  let hi := v + 2 * twoTo e
  let lo := if m = twoTo (p.bits - 1) ∧ 0 < e then v - twoTo e else v - 2 * twoTo e
  let lead := leadingPower v den
  let (d, n) := search lo v hi den (m % 2 == 0) lead 20 1
  let digits := Bytes.ofNat d
  ⟨stripZeros digits, lead + 1 + ((digits.length : Int) - n)⟩

end LineStore.Number
