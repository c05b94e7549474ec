/-!
# A stable sort

Runs of twenty are sorted by insertion and then merged in pairs; each merge splits both runs at a
symmetric place found by bisection.  The comparison is any Boolean function: when it is a strict weak
order the result is the stable sorted list, and in any case it is a permutation fixed by the order in
which pairs are compared.
-/
namespace LineStore

namespace StableSort

variable {α : Type}

/-- Inserts `x` after the last element of `sorted` that it is not below. -/
def insertLast (less : α → α → Bool) (sorted : List α) (x : α) : List α :=
  let above := sorted.reverse.takeWhile (less x)
  let below := sorted.reverse.dropWhile (less x)
  below.reverse ++ x :: above.reverse

def insertionSort (less : α → α → Bool) (l : List α) : List α := l.foldl (insertLast less) []

/-- The least index in `[lo, hi)` at which `p` holds, found by halving; `hi` if it never does. -/
def bisect (p : Nat → Bool) : Nat → Nat → Nat → Nat
  | 0, lo, _ => lo
  | fuel + 1, lo, hi =>
    if hi ≤ lo then lo
    else
      let mid := (lo + hi) / 2
      if p mid then bisect p fuel lo mid else bisect p fuel (mid + 1) hi

/-- Does `p` hold of the elements at two indices? -/
def testAt (l : List α) (p : α → α → Bool) (i j : Nat) : Bool :=
  match l[i]?, l[j]? with
  | some x, some y => p x y
  | _, _ => false

/-- Merges two sorted runs. -/
def merge (less : α → α → Bool) : Nat → List α → List α → List α
  | 0, l, r => l ++ r
  | _, [], r => r
  | _, l, [] => l
  | _, [x], r =>
    let i := bisect (fun i => !(r[i]?.any (less · x))) (r.length + 1) 0 r.length
    r.take i ++ x :: r.drop i
  | _, l, [y] =>
    let i := bisect (fun i => l[i]?.any (less y)) (l.length + 1) 0 l.length
    l.take i ++ y :: l.drop i
  | fuel + 1, l, r =>
    let all := l ++ r
    let m := l.length
    let b := all.length
    let mid := b / 2
    let n := mid + m
    let (lo, hi) := if mid < m then (n - b, mid) else (0, m)
    let start := bisect (fun c => testAt all less (n - 1 - c) c) (b + 1) lo hi
    let k := mid - start
    merge less fuel (l.take start) (r.take k) ++ merge less fuel (l.drop start) (r.drop k)

/-- Runs of twenty. -/
def runs : Nat → List α → List (List α)
  | 0, _ => []
  | _, [] => []
  | fuel + 1, l => l.take 20 :: runs fuel (l.drop 20)

/-- Merges neighbouring runs in pairs. -/
def mergePairs (less : α → α → Bool) : List (List α) → List (List α)
  | a :: b :: rest => merge less (a.length + b.length) a b :: mergePairs less rest
  | l => l

/-- Merges until one run is left. -/
def mergeAll (less : α → α → Bool) : Nat → List (List α) → List α
  | 0, ls => ls.flatten
  | fuel + 1, ls =>
    match ls with
    | [] => []
    | [l] => l
    | ls => mergeAll less fuel (mergePairs less ls)

end StableSort

/-- Sorts by a comparison that says which of two elements must come before the other. -/
def stableSort {α : Type} (less : α → α → Bool) (l : List α) : List α :=
  let rs := (StableSort.runs l.length l).map (StableSort.insertionSort less)
  StableSort.mergeAll less rs.length rs

end LineStore
