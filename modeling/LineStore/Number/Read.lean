import LineStore.Number.Binary64
import LineStore.Number.Int64
/-!
# Reading numbers

Decimal and hexadecimal floating point numerals, with optional underscores between digits, and the
names of infinity and NaN in any case.
-/
namespace LineStore.Number

private structure Mantissa where
  value : Nat := 0
  count : Nat := 0
  fraction : Nat := 0
  point : Bool := false
  rest : Bytes := []

private def mantissaDigit? (hex : Bool) (b : UInt8) : Option Nat :=
  match Bytes.digitValue? b with
  | some d => if d < (if hex then 16 else 10) then some d else none
  | none => none

private def mantissa (hex : Bool) (m : Mantissa) : Bytes → Mantissa
  | [] => { m with rest := [] }
  | b :: s =>
    if b = 0x5f then mantissa hex m s
    else if b = 0x2e then
      if m.point then { m with rest := b :: s } else mantissa hex { m with point := true } s
    else match mantissaDigit? hex b with
      | some d =>
        mantissa hex { m with
          value := m.value * (if hex then 16 else 10) + d
          count := m.count + 1
          fraction := if m.point then m.fraction + 1 else m.fraction } s
      | none => { m with rest := b :: s }

-- An exponent: optional sign, then digits; large ones are cut off at a bound that decides the value
-- anyway.
private def exponent? (s : Bytes) : Option (Int × Bytes) :=
  let (negative, body) := Int64.sign s
  let digits := body.takeWhile fun b => Bytes.isDigit b || b == 0x5f
  match digits.head? with
  | some b =>
    if Bytes.isDigit b then
      let n : Nat := (digits.filter (· != 0x5f)).foldl
        (fun (n : Nat) b => if n < 1000000 then n * 10 + (b.toNat - 0x30) else n) 0
      some (if negative then -(n : Int) else (n : Int), body.drop digits.length)
    else none
  | none => none

private def ofDecimal (negative : Bool) (value : Nat) (exponent : Int) : Number :=
  if value = 0 then .finite negative 0 0
  else
    let size := ((Bytes.ofNat value).length : Int) + exponent
    if 400 < size then .infinite negative
    else if size < -400 then .finite negative 0 0
    else if 0 ≤ exponent then ofRatio negative (value * tenTo exponent.toNat) 1
    else ofRatio negative value (tenTo (-exponent).toNat)

private def ofBinary (negative : Bool) (value : Nat) (exponent : Int) : Number :=
  if value = 0 then .finite negative 0 0
  else
    let size := (Nat.log2 value : Int) + exponent
    if 1100 < size then .infinite negative
    else if size < -1200 then .finite negative 0 0
    else if 0 ≤ exponent then ofRatio negative (value * twoTo exponent.toNat) 1
    else ofRatio negative value (twoTo (-exponent).toNat)

private def named? (s : Bytes) : Option Number :=
  let (negative, body) := Int64.sign s
  let name := body.map Bytes.lowerAscii
  if name = utf8 "inf" ∨ name = utf8 "infinity" then some (.infinite negative)
  else if s.map Bytes.lowerAscii = utf8 "nan" then some .nan
  else none

private def numeral? (s : Bytes) : Option Number :=
  let (negative, body) := Int64.sign s
  let hex := match body with
    | 0x30 :: x :: _ :: _ => Bytes.lowerAscii x == 0x78
    | _ => false
  let m := mantissa hex {} (if hex then body.drop 2 else body)
  if m.count = 0 ∨ (body.any (· == 0x5f) ∧ !Int64.underscoresOk body) then none
  else match m.rest with
    | [] => if hex then none else some (ofDecimal negative m.value (-(m.fraction : Int)))
    | e :: rest =>
      if Bytes.lowerAscii e = (if hex then 0x70 else 0x65) then
        match exponent? rest with
        | some (n, []) =>
          if hex then some (ofBinary negative m.value (n - 4 * (m.fraction : Int)))
          else some (ofDecimal negative m.value (n - (m.fraction : Int)))
        | _ => none
      else none

/-- The number a text denotes, if it is a numeral.  One too large denotes an infinity. -/
def read? (s : Bytes) : Option Number := (named? s).or (numeral? s)

/-- Was an infinity read from digits rather than from its name? -/
def readsOutOfRange (s : Bytes) : Bool :=
  match read? s with
  | some (.infinite _) => (named? s).isNone
  | _ => false

/-- A numeral whose value is in range. -/
def readInRange? (s : Bytes) : Option Number := if readsOutOfRange s then none else read? s

end LineStore.Number
