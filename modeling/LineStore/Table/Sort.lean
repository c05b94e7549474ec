import LineStore.Data.Assoc
import LineStore.Data.StableSort
import LineStore.Data.Value
import LineStore.Text.Case
import LineStore.Text.Space
/-!
# Sorting rows

`-line,!file` sorts by columns in turn: `-` reverses a column, `!` makes it case sensitive.  Numbers
compare by value and everything else by its text; a missing cell comes first.  Rows that compare equal
keep their order.
-/
namespace LineStore

/-- A row: the cells of a table by column. -/
abbrev Row := Assoc Value

structure SortKey where
  column : Bytes
  descending : Bool := false
  caseSensitive : Bool := false
  deriving Repr, DecidableEq, Inhabited

namespace SortKey

/-- Reads the marks in front of a column name. -/
def readMarks (k : SortKey) : Bytes → SortKey
  | [] => k
  | b :: s =>
    if b = 0x2d then readMarks { k with descending := true } s
    else if b = 0x21 then readMarks { k with caseSensitive := true } s
    else { k with column := b :: s }

def parse? (field : Bytes) : Option SortKey :=
  let k := readMarks { column := [] } (Space.trim field)
  if k.column.isEmpty then none else some k

/-- The keys of a sort text; fields without a name are dropped. -/
def parseAll (spec : Bytes) : List SortKey := (Bytes.splitOn 0x2c spec).filterMap parse?

end SortKey

/-- The order of two byte strings. -/
def Bytes.order (a b : Bytes) : Ordering :=
  if a < b then .lt else if b < a then .gt else .eq

/-- The order of two numbers; a NaN is equal to everything. -/
def Number.order (a b : Number) : Ordering :=
  if a.lt b then .lt else if b.lt a then .gt else .eq

namespace Value

/-- The order of two cells. -/
def order (caseSensitive : Bool) (a b : Value) : Ordering :=
  if a.isNull then (if b.isNull then .eq else .lt)
  else if b.isNull then .gt
  else match a.toNumber?, b.toNumber? with
    | some x, some y => x.order y
    | _, _ =>
      if caseSensitive then Bytes.order a.display b.display
      else Bytes.order (Case.lower a.display) (Case.lower b.display)

end Value

def Row.cell (r : Row) (column : Bytes) : Value := (r.get? column).getD .null

namespace SortKey

/-- How a key orders two rows. -/
def order (k : SortKey) (a b : Row) : Ordering :=
  let o := Value.order k.caseSensitive (a.cell k.column) (b.cell k.column)
  if k.descending then o.swap else o

/-- The first key that tells two rows apart decides. -/
def rowOrder : List SortKey → Row → Row → Ordering
  | [], _, _ => .eq
  | k :: ks, a, b =>
    match k.order a b with
    | .eq => rowOrder ks a b
    | o => o

end SortKey

/-- Sorts rows by keys, keeping the order of equal rows. -/
def sortRows (keys : List SortKey) (rows : List Row) : List Row :=
  if keys.isEmpty then rows
  else stableSort (fun a b => SortKey.rowOrder keys a b == .lt) rows

end LineStore
