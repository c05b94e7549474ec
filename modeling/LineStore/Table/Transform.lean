import LineStore.Data.Value
import LineStore.Log.Record
import LineStore.Number.Int64
import LineStore.Table.Attribute
import LineStore.Text.Case
import LineStore.Time.Timestamp
/-!
# Transforms

What the letters and numbers of a transform do to a text cell, in this order: `c` drops line ends, `t`
turns a time stamp into local time, `l` and `u` change case, and a number limits the length in bytes,
from the end or, when negative, by taking out the middle.  Of several case letters and of several
numbers the last counts.
-/
namespace LineStore.Transform

def isChomp (b : UInt8) : Bool := b == 0x63
def isTime (b : UInt8) : Bool := b == 0x74 || b == 0x54
def isLowerMark (b : UInt8) : Bool := b == 0x6c || b == 0x4c
def isUpperMark (b : UInt8) : Bool := b == 0x75 || b == 0x55

/-- Drops carriage returns and newlines at the end. -/
def chomp (s : Bytes) : Bytes := (s.reverse.dropWhile fun b => b == 0x0d || b == 0x0a).reverse

/-- Which case the last case letter of a transform asks for. -/
inductive CaseChange where
  | none | lower | upper
  deriving Repr, DecidableEq, Inhabited

def caseChange : Bytes → CaseChange
  | [] => .none
  | b :: rest =>
    match caseChange rest with
    | .none => if isLowerMark b then .lower else if isUpperMark b then .upper else .none
    | c => c

def CaseChange.apply : CaseChange → Bytes → Bytes
  | .none, s => s
  | .lower, s => Case.lower s
  | .upper, s => Case.upper s

/-- The last number of a transform, as written. -/
def lastNumeral? (spec : Bytes) : Option Bytes :=
  let fromDigit := spec.reverse.dropWhile (!Bytes.isDigit ·)
  let digits := (fromDigit.takeWhile Bytes.isDigit).reverse
  if digits.isEmpty then none
  else match fromDigit.drop digits.length with
    | 0x2d :: _ => some (0x2d :: digits)
    | _ => some digits

/-- The length limit of a transform; a number out of range counts as the nearest bound. -/
def lengthLimit? (spec : Bytes) : Option Int :=
  (lastNumeral? spec).map fun s =>
    match Int64.read s with
    | .ok n => n
    | .error f => f.nearest

/-- A transform that would cut outside a text. -/
inductive Error where
  | cutOutOfRange
  deriving Repr, DecidableEq, Inhabited

/-- Bytes `lo` up to `hi` of a text. -/
def slice (s : Bytes) (lo hi : Int) : Except Error Bytes :=
  if 0 ≤ lo ∧ lo ≤ hi ∧ hi ≤ s.length then .ok ((s.take hi.toNat).drop lo.toNat)
  else .error .cutOutOfRange

/-- The absolute value of a limit, which passes through binary floating point: exact up to `2 ^ 53`,
and the least integer when it rounds up to `2 ^ 63`. -/
def bound (n : Int) : Int := (Number.ofRatio false n.natAbs 1).toInt64

/-- Limits the length of a text. -/
def limit (n : Int) (s : Bytes) : Except Error Bytes :=
  let abs := bound n
  if (s.length : Int) ≤ abs then .ok s
  else if n < 0 then
    let k := max (abs.tdiv 2 - 1) 0
    match slice s 0 k, slice s (s.length - k) s.length with
    | .ok left, .ok right => .ok (left ++ utf8 ".." ++ right)
    | .error e, _ => .error e
    | _, .error e => .error e
  else slice s 0 n

/-- What a transform makes of a cell.  A time stamp that cannot be read is reported and takes the time
letters out of the attribute's transform. -/
structure Result where
  value : Except Error Value
  attr : Attribute
  log : List Log.Record := []

/-- The text after the time step, the transform from then on, and what was reported. -/
def timeStep (zone : Option Time.Zone) (spec s : Bytes) : Bytes × Bytes × List Log.Record :=
  if spec.any isTime then
    match zone with
    | none => (s, spec, [])
    | some z =>
      match Time.parse? s with
      | some t => (Time.localText z t, spec, [])
      | none =>
        (s, spec.filter (!isTime ·), [.error (utf8 "failed to parse time: " ++ s)])
  else (s, spec, [])

def applyText (zone : Option Time.Zone) (spec s : Bytes) :
    Except Error Bytes × Bytes × List Log.Record :=
  let s := if spec.any isChomp then chomp s else s
  let (s, spec, log) := timeStep zone spec s
  let s := (caseChange spec).apply s
  match lengthLimit? spec with
  | none => (.ok s, spec, log)
  | some n => (limit n s, spec, log)

/-- Transforms a cell; only text is changed. -/
def apply (zone : Option Time.Zone) (a : Attribute) (v : Value) : Result :=
  match v with
  | .text s =>
    let (r, transform, log) := applyText zone a.transform s
    ⟨r.map Value.text, { a with transform }, log⟩
  | v => ⟨.ok v, a, []⟩

end LineStore.Transform
