import LineStore.Text.Bytes
/-!
# Binary floating point numbers

A number is exact: a finite one is a signed whole number of the least unit `2 ^ -1074`, held as a
mantissa and an exponent.  Rounding is to nearest, ties to even, and is done on whole numbers.
-/
namespace LineStore

/-- A binary64 value.  `finite n m e` is `m * 2 ^ e` least units, negative when `n`. -/
inductive Number where
  | nan
  | infinite (negative : Bool)
  | finite (negative : Bool) (mantissa exponent : Nat)
  deriving Repr, DecidableEq, Inhabited

namespace Number

/-- A power of two. -/
def twoTo (n : Nat) : Nat := Nat.pow 2 n

/-- A power of ten. -/
def tenTo (n : Nat) : Nat := Nat.pow 10 n

/-- Number of mantissa bits, and the power of two below one that is the least unit; the largest
exponent of a finite number counts from there. -/
structure Precision where
  bits : Nat
  scale : Nat
  maxExponent : Nat

def double : Precision := ⟨53, 1074, 2045⟩
def single : Precision := ⟨24, 149, 253⟩

def zero : Number := .finite false 0 0

/-- The quotient rounded to the nearest whole number, a half to the even neighbour. -/
def divRound (num den : Nat) : Nat :=
  let q := num / den
  let r := num % den
  if 2 * r < den then q
  else if den < 2 * r then q + 1
  else q + q % 2

/-- Mantissa and exponent of a positive ratio, or nothing if it is too large to be finite. -/
def roundRatio (p : Precision) (num den : Nat) : Option (Nat × Nat) :=
  let units := num * twoTo p.scale
  let e := Nat.log2 (units / den) + 1 - p.bits
  let m := divRound units (den * twoTo e)
  let (m, e) := if m = twoTo p.bits then (m / 2, e + 1) else (m, e)
  if p.maxExponent < e then none else some (m, e)

/-- The binary64 number nearest to `± num / den`. -/
def ofRatio (negative : Bool) (num den : Nat) : Number :=
  if num = 0 then .finite negative 0 0
  else match roundRatio double num den with
    | some (m, e) => .finite negative m e
    | none => .infinite negative

def ofInt (n : Int) : Number := ofRatio (n < 0) n.natAbs 1

/-- The single-precision number nearest to `± num / den`, as a binary64. -/
def singleOfRatio (negative : Bool) (num den : Nat) : Number :=
  if num = 0 then .finite negative 0 0
  else match roundRatio single num den with
    | some (m, e) => ofRatio negative (m * twoTo e) (twoTo single.scale)
    | none => .infinite negative

/-- Magnitude in least units; zero for what is not finite. -/
def magnitude : Number → Nat
  | finite _ m e => m * twoTo e
  | _ => 0

/-- Signed value in least units of a finite number. -/
def units : Number → Int
  | finite true m e => -((m * twoTo e : Nat) : Int)
  | finite false m e => ((m * twoTo e : Nat) : Int)
  | _ => 0

def isNan : Number → Bool
  | nan => true
  | _ => false

def isFinite : Number → Bool
  | finite _ _ _ => true
  | _ => false

def isNegative : Number → Bool
  | nan => false
  | infinite n => n
  | finite n _ _ => n

/-- Zero, with or without a sign. -/
def isZero : Number → Bool
  | finite _ m _ => m == 0
  | _ => false

/-- The order of values.  A NaN is below nothing and above nothing. -/
def lt : Number → Number → Bool
  | nan, _ | _, nan => false
  | infinite a, infinite b => a && !b
  | infinite a, finite _ _ _ => a
  | finite _ _ _, infinite b => !b
  | a@(finite _ _ _), b@(finite _ _ _) => decide (a.units < b.units)

/-- Equality of values: both zeros are equal, a NaN equals nothing. -/
def eq : Number → Number → Bool
  | nan, _ | _, nan => false
  | infinite a, infinite b => a == b
  | a@(finite _ _ _), b@(finite _ _ _) => decide (a.units = b.units)
  | _, _ => false

/-- The rounded sum of two finite numbers that are not negative. -/
def sum (a b : Number) : Number := ofRatio false (a.magnitude + b.magnitude) (twoTo double.scale)

/-- The rounded product of two finite numbers that are not negative. -/
def product (a b : Number) : Number :=
  ofRatio false (a.magnitude * b.magnitude) (twoTo (2 * double.scale))

/-- Is the value a whole number? -/
def isWhole (x : Number) : Bool := x.isFinite && x.magnitude % twoTo double.scale == 0

/-- The whole part, toward zero; what has none gives nothing. -/
def truncate? : Number → Option Int
  | x@(finite n _ _) =>
    let q := x.magnitude / twoTo double.scale
    some (if n then -(q : Int) else q)
  | _ => none

/-- Conversion to a signed 64-bit integer: the whole part, or the least integer when it does not
fit. -/
def toInt64 (x : Number) : Int :=
  match x.truncate? with
  | some n => if -9223372036854775808 ≤ n ∧ n ≤ 9223372036854775807 then n else -9223372036854775808
  | none => -9223372036854775808

end Number
end LineStore
