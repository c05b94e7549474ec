/-!
# Longest common subsequences

The length is found row by row; the pairs of equal items are then read off the whole table from its far
corner.
-/
namespace LineStore.CommonSubsequence

variable {α : Type} [BEq α]

/-- The entries of a row after `last`, from an item and the row above. -/
def rowFrom (a : α) (last : Nat) : List α → List Nat → List Nat
  | b :: bs, diagonal :: above :: more =>
    let n := max (max (diagonal + if a == b then 1 else 0) above) last
    n :: rowFrom a n bs (above :: more)
  | _, _ => []

def nextRow (right : List α) (row : List Nat) (a : α) : List Nat := 0 :: rowFrom a 0 right row

/-- The row of an empty left side. -/
def firstRow (right : List α) : List Nat := List.replicate (right.length + 1) 0

/-- All rows; entry `y` of row `x` is the length for the first `x` and the first `y` items. -/
def table (left right : List α) : List (List Nat) :=
  let rec go (row : List Nat) : List α → List (List Nat)
    | [] => [row]
    | a :: as => row :: go (nextRow right row a) as
  go (firstRow right) left

/-- The length of a longest common subsequence. -/
def length (left right : List α) : Nat :=
  ((left.foldl (nextRow right) (firstRow right)).getLast?).getD 0

/-- Reads the pairs before `x` and `y` off the table; of two ways the one that leaves out an item of the
left side is taken. -/
def pairsBefore (left right : Array α) (t : Array (Array Nat)) (x y : Nat)
    (found : List (Nat × Nat)) : List (Nat × Nat) :=
  match x, y with
  | x + 1, y + 1 =>
    if left[x]? == right[y]? then pairsBefore left right t x y ((x, y) :: found)
    else
      let withoutLeft := (t.getD x #[]).getD (y + 1) 0
      let withoutRight := (t.getD (x + 1) #[]).getD y 0
      if withoutRight ≤ withoutLeft then pairsBefore left right t x (y + 1) found
      else pairsBefore left right t (x + 1) y found
  | _, _ => found
termination_by x + y

/-- The places of the items of a longest common subsequence on both sides. -/
def pairs (left right : List α) : List (Nat × Nat) :=
  pairsBefore left.toArray right.toArray ((table left right).map List.toArray).toArray
    left.length right.length []

end LineStore.CommonSubsequence
