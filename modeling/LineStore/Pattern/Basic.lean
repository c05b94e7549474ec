import LineStore.Text.Case
import LineStore.Text.Utf8
/-!
# Patterns

Regular expressions over characters, with assertions about the characters on both sides of a position.
`size` and `height` measure a pattern; patterns beyond the limits on them are refused.
-/
namespace LineStore

namespace Pattern

/-- A test for characters: in one of the ranges, or in none of them when `negated`.  With `fold` a
character counts if any of its case variants does. -/
structure ClassItem where
  ranges : List (Nat × Nat)
  fold : Bool := false
  negated : Bool := false
  deriving Repr, DecidableEq, Inhabited

def ClassItem.contains (i : ClassItem) (c : Nat) : Bool :=
  let inRanges (c : Nat) := i.ranges.any fun (lo, hi) => lo ≤ c && c ≤ hi
  (if i.fold then (Case.orbit c).any inRanges else inRanges c) != i.negated

/-- A set of characters: the union of items, or its complement. -/
structure CharSet where
  items : List ClassItem
  negated : Bool := false
  deriving Repr, DecidableEq, Inhabited

def CharSet.contains (s : CharSet) (c : Nat) : Bool := (s.items.any (·.contains c)) != s.negated

/-- What must hold between two characters. -/
inductive Assertion where
  | startOfText | endOfText | startOfLine | endOfLine | wordBoundary | noWordBoundary
  deriving Repr, DecidableEq, Inhabited

end Pattern

open Pattern in
inductive Pattern where
  | empty
  | set (s : CharSet)
  | assertion (a : Assertion)
  | cat (a b : Pattern)
  | alt (a b : Pattern)
  /-- A part in parentheses that could be referred to. -/
  | group (a : Pattern)
  /-- At least `least` and at most `most` repetitions. -/
  | rep (a : Pattern) (least : Nat) (most : Option Nat)
  deriving Repr, DecidableEq, Inhabited

namespace Pattern

/-- A position: the characters before and after it. -/
structure Place where
  prev : Option Nat
  next : Option Nat

def isWordCode (c : Nat) : Bool :=
  (0x30 ≤ c && c ≤ 0x39) || (0x41 ≤ c && c ≤ 0x5a) || (0x61 ≤ c && c ≤ 0x7a) || c == 0x5f

def Place.atBoundary (p : Place) : Bool :=
  (p.prev.any isWordCode) != (p.next.any isWordCode)

def Assertion.holds (p : Place) : Assertion → Bool
  | .startOfText => p.prev.isNone
  | .endOfText => p.next.isNone
  | .startOfLine => p.prev.isNone || p.prev == some 0x0a
  | .endOfLine => p.next.isNone || p.next == some 0x0a
  | .wordBoundary => p.atBoundary
  | .noWordBoundary => !p.atBoundary

/-- Does the pattern stand for one character only? -/
def isLiteral : Pattern → Bool
  | set { items := [{ ranges := [(lo, hi)], negated := false, .. }], negated := false } => lo == hi
  | _ => false

/-- How many steps a pattern takes when its repetitions are written out. -/
def size : Pattern → Nat
  | empty | set _ | assertion _ => 1
  | cat a b => size a + size b
  | alt a b => size a + size b + 1
  | group a => size a + 2
  | rep a least none => if least = 0 then size a + 2 else least * size a + 1
  | rep a least (some most) => max 1 (most * size a + (most - least))

/-- How deep a pattern is nested: by itself, as a member of a sequence and as one of several
alternatives.  Letters in a row count as one. -/
structure Depth where
  own : Nat
  inCat : Nat
  inAlt : Nat
  letters : Bool

/-- The nesting of a pattern, the depth of a sequence being one more than that of its deepest member. -/
def depth : Pattern → Depth
  | cat a b =>
    let (da, db) := (depth a, depth b)
    let inner := max da.inCat db.inCat
    let own := if da.letters && db.letters then 1 else inner + 1
    ⟨own, inner, own, da.letters && db.letters⟩
  | alt a b =>
    let inner := max (depth a).inAlt (depth b).inAlt
    ⟨inner + 1, inner + 1, inner, false⟩
  | group a | rep a _ _ =>
    let own := (depth a).own + 1
    ⟨own, own, own, false⟩
  | p => ⟨1, 1, 1, p.isLiteral⟩

def height (p : Pattern) : Nat := p.depth.own

end Pattern
end LineStore
