import LineStore.Text.Color
import LineStore.Text.Wrap
/-!
# Text tables

Columns are as wide as their widest cell and stand one blank apart; every column but the first is
padded on its left.  A cell of several lines makes its row higher.
-/
namespace LineStore

/-- The colors of titles and of every other row. -/
structure Palette where
  title : Option Color := none
  even : Option Color := none
  odd : Option Color := none
  deriving Repr, DecidableEq, Inhabited

structure Grid where
  /-- Absent if no titles are shown. -/
  titles : Option (List Bytes) := none
  rows : List (List Bytes)
  padding : Nat := 1
  palette : Palette := {}

namespace Grid

/-- The padding of a column. -/
def paddingOf (g : Grid) (column : Nat) : Nat := if column = 0 then 0 else g.padding

def titleCells (g : Grid) : List Bytes := g.titles.getD []

/-- Columns of the widest cell, without padding. -/
def contentWidths (g : Grid) : List Nat :=
  let cells := if g.titleCells.isEmpty then g.rows else g.titleCells :: g.rows
  (List.range ((g.rows.map List.length).foldl max 0)).map fun i =>
    (cells.map fun row => Terminal.blockWidth (row.getD i [])).foldl max 0

private def unixLines (s : Bytes) : Bytes := Bytes.replaceAll [0x0d, 0x0a] [0x0a] s

private def linesOf (s : Bytes) : List Bytes := Bytes.splitOn 0x0a s

private def ofLines (ls : List Bytes) : Bytes := Bytes.join [0x0a] ls

/-- Lines a cell takes when it is wrapped to a width; one if it has no width. -/
def cellHeight (width : Nat) (cell : Bytes) : Nat :=
  if width = 0 then 1 else ((linesOf (unixLines cell)).map (Terminal.wrappedLines width)).foldl (· + ·) 0

def rowHeight (widths : List Nat) (row : List Bytes) : Nat :=
  ((row.zip widths).map fun (cell, w) => cellHeight w cell).foldl max 1

private def noBreakSpace : Bytes := [0xc2, 0xa0]

private def padTo (width : Nat) (line : Bytes) : Bytes :=
  line ++ Bytes.spaces (width - Terminal.width line)

/-- The lines of a cell, all of one width, cut to the size of its place. -/
def cellLines (color : Option Color) (padding width height : Nat) (cell : Bytes) : List Bytes :=
  let text := Terminal.wrap width (unixLines (Bytes.replaceAll [0x09] (Bytes.spaces 4) cell))
  let lines := (linesOf text).map fun l => noBreakSpace.times padding ++ Color.paint color l
  let lines := lines ++ List.replicate (height - lines.length) []
  let full := padding + width
  let widest := (lines.map Terminal.width).foldl max 0
  let lines := lines.map (padTo (max widest full))
  (if full = 0 then lines else lines.map (Terminal.truncate full)).take height

private def dropEmptyEnd (ls : List Bytes) : List Bytes :=
  let kept := (ls.reverse.dropWhile List.isEmpty).reverse
  if kept.isEmpty then [[]] else kept

/-- Puts blocks of lines side by side, filling each to its widest line and to the highest block. -/
def besides (blocks : List (List Bytes)) : List Bytes :=
  match blocks with
  | [] => [[]]
  | [b] => b
  | blocks =>
    let height := (blocks.map List.length).foldl max 0
    (List.range height).map fun i =>
      blocks.flatMap fun b => padTo ((b.map Terminal.width).foldl max 0) (b.getD i [])

/-- The lines of a row. -/
def rowLines (g : Grid) (color : Option Color) (widths : List Nat) (height : Nat) (row : List Bytes) :
    List Bytes :=
  let cells := ((row.zip widths).zipIdx).map fun ((cell, w), i) =>
    dropEmptyEnd (cellLines color (g.paddingOf i) w height cell)
  besides (cells.intersperse (List.replicate height [0x20]))

/-- The table, with a newline at its end. -/
def render (g : Grid) : Bytes :=
  let widths := g.contentWidths
  let heights := g.rows.map (rowHeight widths)
  let hasTitles := !g.titleCells.isEmpty
  let head := if hasTitles then g.rowLines g.palette.title widths 1 g.titleCells else []
  let body := ((g.rows.zip heights).zipIdx).flatMap fun ((row, h), i) =>
    g.rowLines (if i % 2 = 0 then g.palette.even else g.palette.odd) widths h row
  let lines := linesOf (unixLines (ofLines (head ++ body ++ [[]])))
  let widest := (lines.map Terminal.width).foldl max 0
  let lines := lines.map (padTo widest)
  -- The place kept for the rule under the titles is free when there are none.
  let height := heights.foldl (· + ·) 0 + (if hasTitles then 2 else 0) +
    (if g.titles.isNone then 1 else 0) - 1
  ofLines (if height = 0 then lines else lines.take height) ++ [0x0a]

end Grid
end LineStore
