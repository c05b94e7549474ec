import LineStore.Data.CommonSubsequence
import LineStore.Number.Binary64
import LineStore.Text.Utf8
/-!
# Differences of two lists of lines

Lines outside a longest common subsequence are moved, modified, deleted or added.  Between two common
lines those that are most alike are paired up as modified.  The difference is shown as the list before,
with each line replaced by what happened at its place.
-/
namespace LineStore.LineDiff

/-- What happened to a line; places of deleted lines count in the list before, all others in the list
after. -/
inductive Delta where
  | moved (place : Nat)
  | modified (place : Nat) (old new : Bytes)
  | deleted (place : Nat) (line : Bytes)
  | added (place : Nat) (line : Bytes)
  deriving Repr, DecidableEq, Inhabited

def Delta.place : Delta → Nat
  | moved n | modified n _ _ | deleted n _ | added n _ => n

/-- A line outside the common ones: its place, and how many common ones come before it. -/
structure Loose where
  place : Nat
  gap : Nat
  line : Bytes
  deriving Repr, DecidableEq, Inhabited

/-- The loose lines of one side, given the places of the common ones. -/
def looseFrom (place gap : Nat) : List Nat → List Bytes → List Loose
  | _, [] => []
  | c :: common, l :: ls =>
    if c = place then looseFrom (place + 1) (gap + 1) common ls
    else ⟨place, gap, l⟩ :: looseFrom (place + 1) gap (c :: common) ls
  | [], l :: ls => ⟨place, gap, l⟩ :: looseFrom (place + 1) gap [] ls

/-- Takes the first loose line with a text out of a list. -/
def takeLine (line : Bytes) : List Loose → Option (Loose × List Loose)
  | [] => none
  | a :: rest =>
    if a.line = line then some (a, rest)
    else (takeLine line rest).map fun (b, rest) => (b, a :: rest)

/-- Lines that are loose on both sides have moved: the moves, and what stays loose. -/
def moves : List Loose → List Loose → List Delta × List Loose × List Loose
  | [], right => ([], [], right)
  | a :: left, right =>
    match takeLine a.line right with
    | some (b, right) =>
      let (ms, left, right) := moves left right
      (.moved b.place :: ms, left, right)
    | none =>
      let (ms, left, right) := moves left right
      (ms, a :: left, right)

/-! ## Likeness -/

/-- The characters of a text, each at its first byte; the other bytes have none. -/
def slots (s : Bytes) : List (Option Nat) :=
  (Utf8.runes s).flatMap fun r => some r.code :: List.replicate (r.bytes.length - 1) none

private def threeTenths : Number := Number.ofRatio false 3 10
private def fourTenths : Number := Number.ofRatio false 4 10

/-- How alike two texts are; an empty one is like nothing. -/
def likeness? (a b : Bytes) : Option Number :=
  if a.isEmpty ∨ b.isEmpty then none
  else
    let n := CommonSubsequence.length (slots a) (slots b)
    let shared := (Number.ofRatio false n a.length).product (Number.ofRatio false n b.length)
    some ((threeTenths.sum threeTenths).sum (fourTenths.product shared))

private def larger (a b : Number) : Number := if a.lt b then b else a

/-- The best sums of likeness for a line against the rest of the right side, from the row below. -/
def bestRow (a : Loose) : List Loose → List Number → List Number
  | b :: right, below :: diagonal :: more =>
    let rest := bestRow a right (diagonal :: more)
    let best := larger below (rest.headD .zero)
    (match likeness? a.line b.line with
      | some s => larger best (s.sum diagonal)
      | none => best) :: rest
  | _, _ => [.zero]

def bestTable (right : List Loose) : List Loose → List (List Number)
  | [] => [List.replicate (right.length + 1) .zero]
  | a :: left =>
    let rows := bestTable right left
    bestRow a right (rows.headD []) :: rows

/-- Lines paired up, and those left over on either side. -/
structure Pairing where
  deltas : List Delta := []
  left : List Loose := []
  right : List Loose := []

/-- Walks the table of best sums from `x`, `y`.  As many lines are paired as the shorter side has; a line
is left out where that keeps the best sum.  Where one side ends, each line left over on the other stands
for the line before it. -/
def walk (t : Array (Array Number)) (left right : Array Loose) (x y : Nat) : Pairing :=
  let spare := min left.size right.size
  if h : x < left.size ∧ y < right.size then
    let value (x y : Nat) : Number := (t.getD x #[]).getD y .zero
    if x + 1 + spare < left.size + 1 + y ∧ (value x y).eq (value (x + 1) y) then
      let p := walk t left right (x + 1) y
      { p with left := left[x] :: p.left }
    else if y + 1 + spare < right.size + 1 + x ∧ (value x y).eq (value x (y + 1)) then
      let p := walk t left right x (y + 1)
      { p with right := right[y] :: p.right }
    else
      let p := walk t left right (x + 1) (y + 1)
      { p with deltas := .modified right[y].place left[x].line right[y].line :: p.deltas }
  else
    { left := (left.toList.drop (x - 1)).take (left.size - x)
      right := (right.toList.drop (y - 1)).take (right.size - y) }
termination_by (left.size - x) + (right.size - y)

/-- Pairs up the loose lines of one gap. -/
def pairUp (left right : List Loose) : Pairing :=
  if left.isEmpty ∨ right.isEmpty then { left, right }
  else walk ((bestTable right left).map List.toArray).toArray left.toArray right.toArray 0 0

/-- What happened in one gap. -/
def gapDeltas (left right : List Loose) : List Delta :=
  let p := pairUp left right
  p.deltas ++ p.left.map (fun a => .deleted a.place a.line) ++
    p.right.map fun b => .added b.place b.line

/-- Everything that happened: moves first, then gap by gap. -/
def deltas (before after : List Bytes) : List Delta :=
  let common := CommonSubsequence.pairs before after
  let (ms, left, right) := moves (looseFrom 0 0 (common.map (·.1)) before)
    (looseFrom 0 0 (common.map (·.2)) after)
  ms ++ (List.range (common.length + 1)).flatMap fun gap =>
    gapDeltas (left.filter (·.gap == gap)) (right.filter (·.gap == gap))

/-! ## Text -/

/-- Text written so far, and how many items are still expected after it. -/
structure Out where
  text : Bytes := []
  size : Int

/-- Writes an item with its mark; a comma follows as long as more are expected. -/
def Out.item (o : Out) (mark : UInt8) (place : Nat) (line : Bytes) : Out :=
  { text := o.text ++ mark :: Bytes.spaces 4 ++ Bytes.ofNat place ++ utf8 ": \"" ++ line ++ [0x22] ++
      (if 0 < o.size - 1 then [0x2c] else []) ++ [0x0a]
    size := o.size - 1 }

private def same : UInt8 := 0x20
private def minus : UInt8 := 0x2d
private def plus : UInt8 := 0x2b

/-- Writes what happened at a place, up to a move. -/
def Out.changes (place : Nat) : List Delta → Out → Out
  | [], o => o
  | .moved _ :: _, o => o
  | .modified _ old new :: rest, o =>
    let first := o.item minus place old
    changes place rest ({ first with size := o.size }.item plus place new)
  | .deleted _ l :: rest, o => changes place rest (o.item minus place l)
  | .added _ l :: rest, o =>
    let o := o.item plus place l
    changes place rest { o with size := o.size + 1 }

/-- Writes a line of the list before, or what happened at its place. -/
def Out.line (ds : List Delta) (o : Out) (line : Bytes) (place : Nat) : Out :=
  match ds.filter (·.place == place) with
  | [] => o.item same place line
  | here => o.changes place here

/-- The difference of two lists of lines; nothing if there is none. -/
def text (before after : List Bytes) : Bytes :=
  let ds := deltas before after
  if ds.isEmpty then []
  else
    let body := before.zipIdx.foldl (fun o (l, i) => o.line ds l i) ({ size := before.length } : Out)
    let body := ds.foldl (fun o d => match d with
      | .added n l => if n < before.length then o else o.item plus n l
      | _ => o) body
    utf8 " \x7b\n   \"lines\": [\n" ++ body.text ++ utf8 "   ]\n \x7d\n"

end LineStore.LineDiff
