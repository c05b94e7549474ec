import LineStore.Text.Bytes
/-!
# Signed 64-bit numerals

Reading decimal numerals, and numerals with a base sign, into the range of a signed 64-bit integer.
-/
namespace LineStore.Int64

def maxValue : Int := 9223372036854775807
def minValue : Int := -9223372036854775808

/-- The 64-bit integer that arithmetic without a check for overflow gives for `n`. -/
def wrap (n : Int) : Int := n.bmod 18446744073709551616

theorem wrap_of_inRange {n : Int} (hlow : minValue ≤ n) (hhigh : n ≤ maxValue) : wrap n = n := by
  unfold minValue at hlow
  unfold maxValue at hhigh
  exact Int.bmod_eq_of_le (by omega) (by omega)

theorem wrap_maxValue_add_one : wrap (maxValue + 1) = minValue := by decide

theorem wrap_minValue_sub_one : wrap (minValue - 1) = maxValue := by decide

/-- Why a text is no numeral in range.  A numeral out of range is replaced by the nearest bound. -/
inductive Fault where
  | malformed
  | outOfRange (nearest : Int)
  deriving Repr, DecidableEq, Inhabited

def Fault.nearest : Fault → Int
  | malformed => 0
  | outOfRange n => n

/-- The value of a non-empty string of digits below `base`. -/
def digits? (base : Nat) (s : Bytes) : Option Nat :=
  if s.isEmpty then none
  else s.foldl (fun acc b => do
    let n ← acc
    let d ← Bytes.digitValue? b
    if d < base then some (n * base + d) else none) (some 0)

/-- Splits off a sign. -/
def sign (s : Bytes) : Bool × Bytes :=
  match s with
  | 0x2d :: rest => (true, rest)
  | 0x2b :: rest => (false, rest)
  | _ => (false, s)

/-- Bounds a signed magnitude. -/
def bounded (negative : Bool) (n : Nat) : Except Fault Int :=
  if negative then
    if n ≤ 9223372036854775808 then .ok (-(n : Int)) else .error (.outOfRange minValue)
  else if n ≤ 9223372036854775807 then .ok n else .error (.outOfRange maxValue)

/-- An optional sign and decimal digits. -/
def read (s : Bytes) : Except Fault Int :=
  let (negative, body) := sign s
  match digits? 10 body with
  | none => .error .malformed
  | some n => bounded negative n

def read? (s : Bytes) : Option Int := (read s).toOption

/-- Underscores stand only between digits, or between a base sign and a digit. -/
def underscoresOk (body : Bytes) : Bool :=
  let hasBase := match body with
    | 0x30 :: b :: _ => [0x62, 0x6f, 0x78].elem (Bytes.lowerAscii b)
    | _ => false
  let start : UInt8 := if hasBase then 0x30 else 0x5e
  let isHex := hasBase && (body[1]?.map Bytes.lowerAscii) == some 0x78
  let digits := if hasBase then body.drop 2 else body
  let last := digits.foldl (fun (acc : Option UInt8) b => do
    let prev ← acc
    if Bytes.isDigit b || (isHex && Bytes.isLetter b && Bytes.lowerAscii b ≤ 0x66) then some 0x30
    else if b = 0x5f then (if prev = 0x30 then some 0x5f else none)
    else if prev = 0x5f then none else some 0x21) (some start)
  match last with
  | some c => c != 0x5f
  | none => false

/-- The magnitude of a numeral whose base is told by its start: `0x`, `0b`, `0o` or `0`. -/
def prefixed? (body : Bytes) : Option Nat :=
  let clean := body.filter (· != 0x5f)
  let value := match clean with
    | 0x30 :: b :: rest =>
      if Bytes.lowerAscii b = 0x78 then digits? 16 rest
      else if Bytes.lowerAscii b = 0x62 then digits? 2 rest
      else if Bytes.lowerAscii b = 0x6f then digits? 8 rest
      else digits? 8 (b :: rest)
    | _ => digits? 10 clean
  if body.any (· == 0x5f) && !underscoresOk body then none else value

/-- An optional sign and a numeral in any base. -/
def readAnyBase (s : Bytes) : Except Fault Int :=
  let (negative, body) := sign s
  match prefixed? body with
  | none => .error .malformed
  | some n => bounded negative n

end LineStore.Int64
