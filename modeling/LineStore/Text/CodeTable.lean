/-!
# Tables of code points

Character properties are written as text: records separated by white space, each of hexadecimal fields
separated by commas, in ascending order.  A record is `first,last`, or one code point alone.  Mappings
are looked up in the same way.
-/
namespace LineStore

/-- Ascending, disjoint ranges of code points. -/
abbrev CodeRanges := Array (Nat × Nat)

/-- `first` to `last` in steps of `stride`, sent to `image` onwards. -/
structure CodeMapping where
  first : Nat
  last : Nat
  stride : Nat
  image : Nat
  deriving Repr, DecidableEq, Inhabited

namespace CodeTable

private structure Scan where
  records : Array (List Nat) := #[]
  fields : List Nat := []
  number : Option Nat := none

private def Scan.endField (s : Scan) : Scan :=
  match s.number with
  | some n => { s with fields := s.fields ++ [n], number := none }
  | none => s

private def Scan.endRecord (s : Scan) : Scan :=
  let s := s.endField
  if s.fields.isEmpty then s else { s with records := s.records.push s.fields, fields := [] }

private def Scan.step (s : Scan) (c : Char) : Scan :=
  if c = ',' then s.endField
  else if c = ' ' || c = '\n' then s.endRecord
  else
    let v := if c.isDigit then c.toNat - 0x30 else c.toNat - 0x57
    { s with number := some (s.number.getD 0 * 16 + v) }

/-- The records of a table. -/
def records (text : String) : Array (List Nat) := (text.toList.foldl Scan.step {}).endRecord.records

def ranges (text : String) : CodeRanges :=
  (records text).filterMap fun
    | [a] => some (a, a)
    | [a, b] => some (a, b)
    | _ => none

private def bisect (key : Nat → Nat) (c : Nat) : Nat → Nat → Nat → Nat
  | 0, lo, _ => lo
  | fuel + 1, lo, hi =>
    if hi ≤ lo + 1 then lo
    else
      let mid := (lo + hi) / 2
      if key mid ≤ c then bisect key c fuel mid hi else bisect key c fuel lo mid

/-- The range a code point lies in. -/
def range? (t : CodeRanges) (c : Nat) : Option (Nat × Nat) :=
  let i := bisect (fun i => (t.getD i (0, 0)).1) c 64 0 t.size
  match t[i]? with
  | some (a, b) => if a ≤ c ∧ c ≤ b then some (a, b) else none
  | none => none

def contains (t : CodeRanges) (c : Nat) : Bool := (range? t c).isSome

/-- The image of a code point, if a mapping covers it. -/
def image? (t : Array CodeMapping) (c : Nat) : Option Nat :=
  let i := bisect (fun i => (t.getD i default).first) c 64 0 t.size
  match t[i]? with
  | some m =>
    if m.first ≤ c ∧ c ≤ m.last ∧ (c - m.first) % m.stride = 0 then some (m.image + (c - m.first))
    else none
  | none => none

/-- The code points sent to `c`. -/
def preimages (t : Array CodeMapping) (c : Nat) : List Nat :=
  t.toList.filterMap fun m =>
    if m.image ≤ c ∧ c ≤ m.image + (m.last - m.first) ∧ (c - m.image) % m.stride = 0 then
      some (m.first + (c - m.image))
    else none

end CodeTable
end LineStore
