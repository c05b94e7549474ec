import LineStore.Time.Zone
import LineStore.Time.Instant
/-!
# Time stamps

Reading `2006-01-02T15:04:05Z` with any offset, and writing a moment in the local time of a zone.
-/
namespace LineStore.Time

private def fixedDigits? (n : Nat) (s : Bytes) : Option (Nat × Bytes) :=
  let d := s.take n
  if d.length = n ∧ d.all Bytes.isDigit then
    (Int64.digits? 10 d).map fun v => (v, s.drop n)
  else none

private def shortDigits? (s : Bytes) : Option (Nat × Bytes) :=
  (fixedDigits? 2 s).or (fixedDigits? 1 s)

private def literal? (b : UInt8) (s : Bytes) : Option Bytes :=
  match s with
  | c :: rest => if b = c then some rest else none
  | [] => none

private def fraction (s : Bytes) : Nat × Bytes :=
  match s with
  | p :: rest =>
    let digits := rest.takeWhile Bytes.isDigit
    if (p = 0x2e ∨ p = 0x2c) ∧ !digits.isEmpty then
      let nine := (digits.take 9) ++ List.replicate (9 - digits.length) 0x30
      ((Int64.digits? 10 nine).getD 0, rest.drop digits.length)
    else (0, s)
  | [] => (0, s)

private def offset? (s : Bytes) : Option (Int × Bytes) :=
  match s with
  | 0x5a :: rest => some (0, rest)
  | sign :: rest => do
    if sign ≠ 0x2b ∧ sign ≠ 0x2d then none
    else
      let (h, rest) ← fixedDigits? 2 rest
      let rest ← literal? 0x3a rest
      let (m, rest) ← fixedDigits? 2 rest
      if 24 < h ∨ 60 < m then none
      else
        let n : Int := ((h * 3600 + m * 60 : Nat) : Int)
        some (if sign = 0x2d then -n else n, rest)
  | [] => none

/-- The moment a time stamp names, or nothing if it is malformed or names no moment. -/
def parse? (s : Bytes) : Option Instant := do
  let (year, s) ← fixedDigits? 4 s
  let s ← literal? 0x2d s
  let (month, s) ← fixedDigits? 2 s
  let s ← literal? 0x2d s
  let (day, s) ← fixedDigits? 2 s
  let s ← literal? 0x54 s
  let (hour, s) ← shortDigits? s
  let s ← literal? 0x3a s
  let (minute, s) ← fixedDigits? 2 s
  let s ← literal? 0x3a s
  let (second, s) ← fixedDigits? 2 s
  let (nsec, s) := fraction s
  let (offset, s) ← offset? s
  if month < 1 ∨ 12 < month ∨ day < 1 ∨ daysInMonth year month < day ∨ 24 ≤ hour ∨ 60 ≤ minute ∨
      60 ≤ second ∨ !s.isEmpty then none
  else
    let days := (Date.mk year month day).toDays
    some ⟨days * 86400 + ((hour * 3600 + minute * 60 + second : Nat) : Int) - offset, nsec⟩

/-- Local time followed by the abbreviation of the zone. -/
def localText (z : Zone) (t : Instant) : Bytes :=
  let k := z.kindAt t.sec
  clockText 0x54 (t.sec + k.offset) ++ k.abbreviation

end LineStore.Time
