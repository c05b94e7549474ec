import LineStore.Text.Bytes
/-!
# The civil calendar

Days are counted from 1970-01-01 in the proleptic Gregorian calendar, with floor division so that
days before it count down.
-/
namespace LineStore.Time

structure Date where
  year : Int
  month : Nat
  day : Nat
  deriving Repr, DecidableEq, Inhabited

def isLeap (y : Int) : Bool := y % 4 == 0 && (y % 100 != 0 || y % 400 == 0)

def daysInMonth (y : Int) (m : Nat) : Nat :=
  if m == 2 then (if isLeap y then 29 else 28)
  else if m == 4 || m == 6 || m == 9 || m == 11 then 30
  else 31

/-- The day number of a date; the month is counted from March so that the leap day comes last. -/
def Date.toDays (d : Date) : Int :=
  let y := if d.month ≤ 2 then d.year - 1 else d.year
  let era := y.fdiv 400
  let yoe := y - era * 400
  let mp : Int := ((d.month + 9) % 12 : Nat)
  let doy := (153 * mp + 2) / 5 + (d.day : Int) - 1
  let doe := yoe * 365 + yoe / 4 - yoe / 100 + doy
  era * 146097 + doe - 719468

def Date.ofDays (n : Int) : Date :=
  let z := n + 719468
  let era := z.fdiv 146097
  let doe := z - era * 146097
  let yoe := (doe - doe / 1460 + doe / 36524 - doe / 146096) / 365
  let doy := doe - (365 * yoe + yoe / 4 - yoe / 100)
  let mp := (5 * doy + 2) / 153
  let day := doy - (153 * mp + 2) / 5 + 1
  let month := if mp < 10 then mp + 3 else mp - 9
  let year := yoe + era * 400 + (if month ≤ 2 then 1 else 0)
  ⟨year, month.toNat, day.toNat⟩

/-- 0 is Sunday. -/
def weekday (days : Int) : Nat := ((days + 4) % 7).toNat

/-- A year has at least four digits, after its sign. -/
def yearText (y : Int) : Bytes :=
  let digits := Bytes.padLeft 0x30 4 (Bytes.ofNat y.natAbs)
  if y < 0 then 0x2d :: digits else digits

def twoDigits (n : Nat) : Bytes := Bytes.padLeft 0x30 2 (Bytes.ofNat n)

/-- A second count split into its day and the second within the day. -/
def splitDay (sec : Int) : Int × Nat := (sec.fdiv 86400, (sec.fmod 86400).toNat)

/-- `YYYY-MM-DD`, then `sep`, then `hh:mm:ss`, of a count of seconds. -/
def clockText (sep : UInt8) (sec : Int) : Bytes :=
  let (days, s) := splitDay sec
  let d := Date.ofDays days
  yearText d.year ++ [0x2d] ++ twoDigits d.month ++ [0x2d] ++ twoDigits d.day ++ [sep] ++
    twoDigits (s / 3600) ++ [0x3a] ++ twoDigits (s / 60 % 60) ++ [0x3a] ++ twoDigits (s % 60)

end LineStore.Time
