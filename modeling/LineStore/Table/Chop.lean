import LineStore.File.Path
import LineStore.Table.Sort
/-!
# Shortening common directories

If at least half of the rows share two or more leading directories in a column, those directories are
replaced by `..` in the rows that have them.  The shared directories are found one at a time: the most
frequent next one, the least of several, as long as half of the rows have it.
-/
namespace LineStore.Chop

/-- The directories of a path: its segments without the last. -/
def directories (path : Bytes) : List Bytes := (Bytes.splitOn Path.slash path).dropLast

/-- What follows the directories `shared`, if a list starts with them. -/
def dropShared? : List Bytes → List Bytes → Option (List Bytes)
  | [], l => some l
  | _ :: _, [] => none
  | p :: ps, d :: ds => if p = d then dropShared? ps ds else none

/-- The next directory of every list that starts with `shared`. -/
def nextDirectories (shared : List Bytes) (lists : List (List Bytes)) : List Bytes :=
  lists.filterMap fun l => (dropShared? shared l).bind List.head?

/-- The most frequent item and how often it occurs; of several the least. -/
def mostFrequent (items : List Bytes) : Option (Bytes × Nat) :=
  items.foldl (fun best x =>
    let n := items.count x
    match best with
    | none => some (x, n)
    | some (y, m) => if m < n ∨ (m = n ∧ x < y) then some (x, n) else best) none

/-- Extends the shared directories while one more is shared by `threshold` lists. -/
def extend (threshold : Nat) (lists : List (List Bytes)) : Nat → List Bytes → List Bytes
  | 0, shared => shared
  | fuel + 1, shared =>
    match mostFrequent (nextDirectories shared lists) with
    | some (d, n) =>
      if threshold ≤ n then extend threshold lists fuel (shared ++ [d]) else shared
    | none => shared

/-- The longest run of leading directories shared by at least half. -/
def shared (paths : List Bytes) : List Bytes :=
  let lists := paths.map directories
  let longest := (lists.map List.length).foldl max 0
  extend ((paths.length + 1) / 2) lists longest []

/-- The text taken off, if the paths share two directories with a name. -/
def start? (paths : List Bytes) : Option Bytes :=
  let dirs := shared paths
  if (dirs.filter (!·.isEmpty)).length < 2 then none
  else some (Bytes.join [Path.slash] dirs ++ [Path.slash])

/-- Shortens the texts of a column. -/
def rows (column : Bytes) (rows : List Row) : List Row :=
  let paths := rows.filterMap fun r => (r.cell column).text?
  match start? paths with
  | none => rows
  | some start => rows.map fun r =>
    match r.cell column with
    | .text p =>
      match Bytes.dropStart? start p with
      | some rest => r.set column (.text (utf8 "../" ++ rest))
      | none => r
    | _ => r

end LineStore.Chop
