import LineStore.Cache.Basic
import LineStore.Number.Binary64
/-!
# Describing files

For each name: where it was found, how many lines it has, its size, its modification time and its
digest.  Size and time can be written for people.
-/
namespace LineStore

/-- A size as a number of bytes or as text for people. -/
inductive SizeCell where
  | none
  | bytes (n : Int)
  | human (s : Bytes)
  deriving Repr, DecidableEq, Inhabited

structure FileRow where
  file : Bytes
  path : Bytes
  lines : Nat
  size : SizeCell := .none
  mtime : Bytes := []
  digest : Bytes := []
  deriving Repr, DecidableEq, Inhabited

namespace Human

private def units : List Bytes :=
  [utf8 "B", utf8 "KiB", utf8 "MiB", utf8 "GiB", utf8 "TiB", utf8 "PiB", utf8 "EiB"]

/-- A size in the largest unit that fits, to one decimal below ten.  The size is an unsigned 64-bit
number, so a negative one is huge. -/
def size (n : Int) : Bytes :=
  let s := (n % 18446744073709551616).toNat
  if s < 10 then Bytes.ofNat s ++ utf8 " B"
  else
    let e := min (Nat.log2 s / 10) 6
    let unit := Number.twoTo (10 * e)
    let tenths := (20 * s + unit) / (2 * unit)
    let text :=
      if tenths < 100 then Bytes.ofNat (tenths / 10) ++ [0x2e] ++ Bytes.ofNat (tenths % 10)
      else Bytes.ofNat (Number.divRound tenths 10)
    text ++ [0x20] ++ units.getD e []

private def second : Int := 1000000000
private def minute : Int := 60 * second
private def hour : Int := 60 * minute
private def day : Int := 24 * hour
private def week : Int := 7 * day
private def month : Int := 30 * day
private def year : Int := 12 * month

-- Spans of time up to a bound, with the text for them; a span is counted in `per`.
private structure Span where
  bound : Int
  one : Bytes := []
  per : Int := 1
  many : Bytes := []

private def spans : List Span :=
  [ { bound := 2 * second, one := utf8 "1 second " },
    { bound := minute, per := second, many := utf8 " seconds " },
    { bound := 2 * minute, one := utf8 "1 minute " },
    { bound := hour, per := minute, many := utf8 " minutes " },
    { bound := 2 * hour, one := utf8 "1 hour " },
    { bound := day, per := hour, many := utf8 " hours " },
    { bound := 2 * day, one := utf8 "1 day " },
    { bound := week, per := day, many := utf8 " days " },
    { bound := 2 * week, one := utf8 "1 week " },
    { bound := month, per := week, many := utf8 " weeks " },
    { bound := 2 * month, one := utf8 "1 month " },
    { bound := year, per := month, many := utf8 " months " },
    { bound := 18 * month, one := utf8 "1 year " },
    { bound := 2 * year, one := utf8 "2 years " },
    { bound := 37 * year, per := year, many := utf8 " years " } ]

private def nanoseconds (t : Time.Instant) : Int := t.sec * second + t.nsec

/-- How long before or after `now` a moment lies. -/
def time (now t : Time.Instant) : Bytes :=
  let a := nanoseconds t
  let b := nanoseconds now
  let (diff, label) := if b < a then (a - b, utf8 "from now") else (b - a, utf8 "ago")
  if diff < second then utf8 "now"
  else match spans.find? fun s => diff < s.bound with
    | some s =>
      if s.one.isEmpty then Bytes.ofInt (diff.tdiv s.per) ++ s.many ++ label else s.one ++ label
    | none => utf8 "a long while " ++ label

end Human

namespace Cache

/-- The row of a key at a path, put together from what the cache says of the key. -/
def describeKey (w : World) (now : Option Time.Instant) (c : Cache) (key path : Bytes) :
    Outcome FileRow :=
  (c.lineCount w key false).andThen fun count c =>
    let (digest, c) := c.digest key
    let row : FileRow := { file := key, path, lines := count.getD 0, digest := digest.getD [] }
    match c.witness? key, now with
    | none, _ => ⟨row, c, []⟩
    | some st, some now =>
      ⟨{ row with size := .human (Human.size st.size), mtime := Human.time now st.mtime }, c, []⟩
    | some st, none => ⟨{ row with size := .bytes st.size, mtime := st.mtime.rfc3339 }, c, []⟩

/-- A row for every name that loads, in order, and the names that do not.  With a time `now`, sizes
and times are written for people. -/
def describe (w : World) (now : Option Time.Instant) (reload : Bool) :
    List Bytes → Cache → Outcome (List FileRow × List Bytes)
  | [], c => ⟨([], []), c, []⟩
  | f :: fs, c =>
    (c.ensure w f reload).andThen fun
      | none => fun c =>
        (describe w now reload fs c).map fun (rows, missing) => (rows, f :: missing)
      | some path => fun c =>
        (describeKey w now c f path).andThen fun row c =>
          (describe w now reload fs c).map fun (rows, missing) => (row :: rows, missing)

end Cache
end LineStore
