import LineStore.Time.Civil
/-!
# Instants

A moment in time, as whole seconds since 1970 and nanoseconds below one second.  The same moment
has one representation, so equality of instants is equality of values.
-/
namespace LineStore.Time

structure Instant where
  sec : Int
  nsec : Nat := 0
  deriving Repr, DecidableEq, Inhabited

/-- Any number of nanoseconds may be given; full seconds are carried. -/
def Instant.ofUnix (sec nsec : Int) : Instant :=
  ⟨sec + nsec.fdiv 1000000000, (nsec.fmod 1000000000).toNat⟩

/-- `2006-01-02T15:04:05Z`: a moment in UTC, fractions dropped. -/
def Instant.rfc3339 (t : Instant) : Bytes := clockText 0x54 t.sec ++ [0x5a]

/-- A point and the digits of the nanoseconds up to the last that is not zero; nothing on a full
second. -/
def Instant.fractionText (t : Instant) : Bytes :=
  if t.nsec = 0 then []
  else [0x2e] ++ ((Bytes.padLeft 0x30 9 (Bytes.ofNat t.nsec)).reverse.dropWhile (· == 0x30)).reverse

/-- A moment in UTC to the nanosecond. -/
def Instant.exactText (t : Instant) : Bytes := clockText 0x54 t.sec ++ t.fractionText ++ [0x5a]

end LineStore.Time
