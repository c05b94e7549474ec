import LineStore.Json.Query
import LineStore.Log.Event
import LineStore.Table.Filter
import LineStore.Table.Sort
import LineStore.Table.Transform
/-!
# From a document to rows

The items of a document that pass every filter become rows, one cell for each attribute.  Then the
transforms of the attributes are applied, cell by cell.
-/
namespace LineStore.Dataset

/-- The query of the first attribute with a column name. -/
def queryOf? (attrs : List Attribute) (column : Bytes) : Option Bytes :=
  ((attrs.find? (·.column == column)).map Attribute.key).filter (!·.isEmpty)

/-- What is reported of a filter on a column that does not exist. -/
def unknownKey (key : Bytes) : List Event :=
  let text := utf8 "filter key not found: " ++ key
  [.logged (.error text), .warned (utf8 "warning: " ++ text ++ [0x0a])]

/-- What some filters say of an item, and what they report. -/
structure Judgement where
  accepted : Bool
  trace : List Event := []

/-- Applies filters in turn up to the first that refuses.  One on an unknown column refuses nothing. -/
def judge (attrs : List Attribute) (item : Json.Part) : List Filter → Judgement
  | [] => ⟨true, []⟩
  | f :: fs =>
    match queryOf? attrs f.key with
    | none =>
      let rest := judge attrs item fs
      ⟨rest.accepted, unknownKey f.key ++ rest.trace⟩
    | some query =>
      let v := f.checkValue (item.get query).value
      let log := v.log.map Event.logged
      if v.accepted then
        let rest := judge attrs item fs
        ⟨rest.accepted, log ++ rest.trace⟩
      else ⟨false, log⟩

/-- The row of an item: a cell for every attribute but `*`. -/
def project (attrs : List Attribute) (item : Json.Part) : Row :=
  attrs.foldl (fun row a =>
    if a.isWildcard then row else row.set a.column (item.get a.key).value) .empty

/-- The rows of the items that pass every filter, in order. -/
def rowsOf (attrs : List Attribute) (filters : List Filter) : List Json.Part → List Row × List Event
  | [] => ([], [])
  | item :: items =>
    let j := judge attrs item filters
    let (rows, t) := rowsOf attrs filters items
    (if j.accepted then project attrs item :: rows else rows, j.trace ++ t)

/-- Filters the items of a document. -/
def select (delimiter spec : Bytes) (attrs : List Attribute) (doc : Json.Part) :
    List Row × List Event :=
  let built := Filter.build delimiter spec
  let (rows, t) := rowsOf attrs built.filters doc.rows
  (rows, built.log.map Event.logged ++ t)

/-- Asks for local time in every column that holds a time stamp in the first row. -/
def markTimes (attrs : List Attribute) : List Row → List Attribute
  | [] => attrs
  | row :: _ => attrs.map fun a =>
    match row.cell a.column with
    | .text s => if (Time.parse? s).isSome then { a with transform := a.transform ++ [0x74] } else a
    | _ => a

/-- Rows after a transform, the attributes after it, and what was reported. -/
structure Transformed (α : Type) where
  value : Except Transform.Error α
  attrs : List Attribute
  log : List Log.Record := []

/-- Applies the attributes to a row in turn. -/
def transformRow (zone : Option Time.Zone) : List Attribute → Row → Transformed Row
  | [], row => ⟨.ok row, [], []⟩
  | a :: rest, row =>
    if a.transform.isEmpty then
      let r := transformRow zone rest row
      ⟨r.value, a :: r.attrs, r.log⟩
    else
      let cell := Transform.apply zone a (row.cell a.column)
      match cell.value with
      | .error e => ⟨.error e, cell.attr :: rest, cell.log⟩
      | .ok v =>
        let r := transformRow zone rest (row.set a.column v)
        ⟨r.value, cell.attr :: r.attrs, cell.log ++ r.log⟩

/-- Transforms rows in turn; what a row does to the attributes holds for the rows after it. -/
def transformRows (zone : Option Time.Zone) : List Attribute → List Row → Transformed (List Row)
  | attrs, [] => ⟨.ok [], attrs, []⟩
  | attrs, row :: rows =>
    let first := transformRow zone attrs row
    match first.value with
    | .error e => ⟨.error e, first.attrs, first.log⟩
    | .ok row =>
      let r := transformRows zone first.attrs rows
      ⟨r.value.map (row :: ·), r.attrs, first.log ++ r.log⟩

/-- Takes the columns out of the rows that only excluded attributes have. -/
def dropExcluded (attrs : List Attribute) (rows : List Row) : List Row :=
  let dropped := (attrs.filter fun a =>
    !a.included && !attrs.any fun b => b.included && b.column == a.column).map Attribute.column
  rows.map fun row => dropped.foldl Assoc.erase row

end LineStore.Dataset
