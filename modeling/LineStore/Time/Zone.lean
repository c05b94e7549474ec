import LineStore.Time.Civil
import LineStore.Time.ZoneData
import LineStore.Number.Int64
/-!
# Local time

A zone gives the offset from UTC and the abbreviation in force at a moment: before the first transition
its first kind of time, then that of the last transition passed, and after the last one what the yearly
rule says.
-/
namespace LineStore.Time

/-- A kind of local time. -/
structure LocalKind where
  abbreviation : Bytes
  offset : Int
  deriving Repr, DecidableEq, Inhabited

/-- The day of a yearly change. -/
inductive RuleDay where
  /-- Week `week` (5 is the last) of a month, on a weekday. -/
  | weekday (month week day : Nat)
  /-- Day 1 to 365; 29 February is never counted. -/
  | julian (n : Nat)
  /-- Day 0 to 365, leap days counted. -/
  | ordinal (n : Nat)
  deriving Repr, DecidableEq, Inhabited

/-- A yearly change: a day, and seconds of local time from its start. -/
structure RuleChange where
  day : RuleDay
  second : Int
  deriving Repr, DecidableEq, Inhabited

/-- What holds in all later years: one kind, or two that alternate. -/
inductive YearRule where
  | fixed (kind : LocalKind)
  | alternating (standard summer : LocalKind) (start finish : RuleChange)
  deriving Repr, DecidableEq, Inhabited

structure Zone where
  first : LocalKind
  transitions : List (Int × LocalKind)
  rule : Option YearRule
  deriving Repr, DecidableEq, Inhabited

namespace Zone

/-- Seconds from 1970 to the start of the change's day in `year`, as if in UTC. -/
def RuleDay.toDays (year : Int) : RuleDay → Int
  | .weekday month week day =>
    let first := (Date.mk year month 1).toDays
    let skip := (day + 7 - Time.weekday first) % 7
    let d := skip + (week - 1) * 7
    let d := if daysInMonth year month ≤ d then d - 7 else d
    first + d
  | .julian n =>
    (Date.mk year 1 1).toDays + n - 1 + (if isLeap year ∧ 60 ≤ n then 1 else 0)
  | .ordinal n => (Date.mk year 1 1).toDays + n

def RuleChange.toSeconds (year : Int) (c : RuleChange) : Int :=
  RuleDay.toDays year c.day * 86400 + c.second

/-- The kind a yearly rule gives at a moment. -/
def YearRule.kindAt (sec : Int) : YearRule → LocalKind
  | .fixed k => k
  | .alternating std dst start finish =>
    let year := (Date.ofDays ((sec + std.offset).fdiv 86400)).year
    let a := RuleChange.toSeconds year start - std.offset
    let b := RuleChange.toSeconds year finish - dst.offset
    let summer := if a < b then a ≤ sec ∧ sec < b else ¬(b ≤ sec ∧ sec < a)
    if summer then dst else std

private def afterTransitions (sec : Int) : LocalKind → List (Int × LocalKind) → LocalKind × Bool
  | k, [] => (k, true)
  | k, (t, k') :: rest => if sec < t then (k, false) else afterTransitions sec k' rest

/-- The kind of local time in force at a moment. -/
def kindAt (z : Zone) (sec : Int) : LocalKind :=
  match afterTransitions sec z.first z.transitions with
  | (k, false) => k
  | (k, true) => match z.rule with
    | some r => YearRule.kindAt sec r
    | none => k

/-! ## Reading the table -/

private def name? (s : Bytes) : Option (Bytes × Bytes) :=
  match s with
  | 0x3c :: rest => Bytes.cut? 0x3e rest
  | _ =>
    let n := s.takeWhile Bytes.isLetter
    if n.isEmpty then none else some (n, s.drop n.length)

private def hours (s : Bytes) : Int × Bytes :=
  let (negative, body) := Int64.sign s
  let text := body.takeWhile fun b => Bytes.isDigit b || b == 0x3a
  let parts := (Bytes.splitOn 0x3a text).map fun p => (Int64.digits? 10 p).getD 0
  let n : Int := ((parts.getD 0 0 * 3600 + parts.getD 1 0 * 60 + parts.getD 2 0 : Nat) : Int)
  (if negative then -n else n, body.drop text.length)

private def change (s : Bytes) : RuleChange :=
  let (dayText, time) := (Bytes.cut? 0x2f s).getD (s, utf8 "2")
  let num (b : Bytes) := (Int64.digits? 10 b).getD 0
  let day := match dayText with
    | 0x4d :: rest =>
      let p := (Bytes.splitOn 0x2e rest).map num
      RuleDay.weekday (p.getD 0 1) (p.getD 1 1) (p.getD 2 0)
    | 0x4a :: rest => .julian (num rest)
    | _ => .ordinal (num dayText)
  ⟨day, (hours time).1⟩

/-- A yearly rule such as `EST5EDT,M3.2.0,M11.1.0`: offsets count westwards. -/
def rule? (s : Bytes) : Option YearRule := do
  let (std, rest) ← name? s
  let (west, rest) := hours rest
  let standard : LocalKind := ⟨std, -west⟩
  if rest.isEmpty then some (.fixed standard)
  else
    let (dst, rest) ← name? rest
    let (offset, rest) := match rest with
      | 0x2c :: _ => (standard.offset + 3600, rest)
      | _ =>
        let (w, r) := hours rest
        (-w, r)
    match Bytes.splitOn 0x2c rest with
    | [_, a, b] => some (.alternating standard ⟨dst, offset⟩ (change a) (change b))
    | _ => none

private def kind? (s : Bytes) : Option LocalKind := do
  let (a, o) ← Bytes.cut? 0x2f s
  return ⟨a, ← Int64.read? o⟩

private def signed36 (s : Bytes) : Int :=
  let (negative, body) := Int64.sign s
  let n : Int := (((Int64.digits? 36 body).getD 0 : Nat) : Int)
  if negative then -n else n

private def readTransitions (kinds : List LocalKind) : Int → List Bytes → List (Int × LocalKind)
  | _, [] => []
  | start, item :: rest =>
    match item with
    | [] => readTransitions kinds start rest
    | letter :: delta =>
      let t := start + signed36 delta
      (t, kinds.getD (letter.toNat - 0x41) default) :: readTransitions kinds t rest

private def ofLine? (line : Bytes) : Option Zone :=
  match Bytes.splitOn 0x7c line with
  | [_, kinds, rule, changes] =>
    let kinds := (Bytes.splitOn 0x20 kinds).filterMap kind?
    some ⟨kinds.getD 0 default, readTransitions kinds 0 (Bytes.splitOn 0x20 changes), rule? rule⟩
  | _ => none

private def tableLines : List String := zoneTable.splitOn "\n"

private def names (line : String) : List String :=
  match line.splitOn "|" with
  | n :: _ => n.splitOn " "
  | [] => []

def utc : Zone := ⟨⟨utf8 "UTC", 0⟩, [], none⟩

/-- The zone of a name of the tz database; local time is that of UTC. -/
def find? (name : Bytes) : Option Zone :=
  if name.isEmpty ∨ name = utf8 "UTC" ∨ name = utf8 "Local" then some utc
  else
    match tableLines.find? fun l => (names l).any fun n => utf8 n = name with
    | some l => ofLine? (utf8 l)
    | none => none

end Zone
end LineStore.Time
