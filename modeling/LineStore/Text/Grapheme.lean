import LineStore.Text.GraphemeData
import LineStore.Text.Utf8
/-!
# Graphemes

A grapheme is what a reader sees as one character.  It is shown in a number of terminal columns.
-/
namespace LineStore.Grapheme

inductive Class where
  | other | cr | lf | control | extend | joiner | regional | prepend | spacingMark
  | hangulL | hangulV | hangulT | hangulLV | hangulLVT | pictographic
  deriving Repr, DecidableEq, Inhabited

def classOf (c : Nat) : Class :=
  if c == 0x0d then .cr
  else if c == 0x0a then .lf
  else if c < 0x20 then .control
  else if c < 0x7f then .other
  else if c == 0x200d then .joiner
  else if 0x1f1e6 ≤ c && c ≤ 0x1f1ff then .regional
  else if (0x1100 ≤ c && c ≤ 0x115f) || (0xa960 ≤ c && c ≤ 0xa97c) then .hangulL
  else if (0x1160 ≤ c && c ≤ 0x11a7) || (0xd7b0 ≤ c && c ≤ 0xd7c6) then .hangulV
  else if (0x11a8 ≤ c && c ≤ 0x11ff) || (0xd7cb ≤ c && c ≤ 0xd7fb) then .hangulT
  else if 0xac00 ≤ c && c ≤ 0xd7a3 then (if (c - 0xac00) % 28 == 0 then .hangulLV else .hangulLVT)
  else if CodeTable.contains GraphemeData.control c then .control
  else if CodeTable.contains GraphemeData.extend c then .extend
  else if CodeTable.contains GraphemeData.spacingMark c then .spacingMark
  else if CodeTable.contains GraphemeData.prepend c then .prepend
  else if CodeTable.contains GraphemeData.pictographic c then .pictographic
  else .other

private structure State where
  last : Class
  oddRegional : Bool
  /-- A pictograph followed by extenders only. -/
  pictograph : Bool
  /-- The same, followed by a joiner. -/
  joined : Bool

private def State.start (c : Class) : State := ⟨c, c == .regional, c == .pictographic, false⟩

private def State.next (s : State) (c : Class) : State :=
  { last := c
    oddRegional := c == .regional && !s.oddRegional
    pictograph := c == .pictographic || (s.pictograph && c == .extend)
    joined := s.pictograph && c == .joiner }

private def State.breaks (s : State) (c : Class) : Bool :=
  let isControl (x : Class) : Bool := x == .control || x == .cr || x == .lf
  if s.last == .cr && c == .lf then false
  else if isControl s.last || isControl c then true
  else if c == .extend || c == .joiner || c == .spacingMark then false
  else if s.last == .prepend then false
  else if s.last == .hangulL then
    !(c == .hangulL || c == .hangulV || c == .hangulLV || c == .hangulLVT)
  else if s.last == .hangulLV || s.last == .hangulV then !(c == .hangulV || c == .hangulT)
  else if s.last == .hangulLVT || s.last == .hangulT then c != .hangulT
  else if s.joined && c == .pictographic then false
  else if s.oddRegional && c == .regional then false
  else true

private def runeWidth (c : Nat) (k : Class) : Nat :=
  match k with
  | .control | .cr | .lf | .extend | .joiner => 0
  | .regional => 2
  | .pictographic => if CodeTable.contains GraphemeData.emojiPresentation c then 2 else 1
  | _ =>
    if c == 0x2e3a then 3 else if c == 0x2e3b then 4
    else if CodeTable.contains GraphemeData.wide c then 2 else 1

private def takeRest (first : Class) : State → Nat → Nat → List Rune → Nat × Nat
  | _, taken, width, [] => (taken, width)
  | s, taken, width, r :: rs =>
    let k := classOf r.code
    if s.breaks k then (taken, width)
    else
      let width :=
        if first == .pictographic then
          if r.code == 0xfe0e then 1 else if r.code == 0xfe0f then 2 else width
        else if first == .regional || first == .hangulL then width
        else width + runeWidth r.code k
      takeRest first (s.next k) (taken + 1) width rs

/-- The first grapheme: how many characters it has and how many columns it takes. -/
def first : List Rune → Nat × Nat
  | [] => (0, 0)
  | r :: rs =>
    let k := classOf r.code
    takeRest k (.start k) 1 (runeWidth r.code k) rs

end LineStore.Grapheme
