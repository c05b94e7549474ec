import LineStore.Config.Load
import LineStore.Json.Printer
import LineStore.Table.Cell
import LineStore.Table.Dataset
import LineStore.Table.Grid
import LineStore.Yaml.Printer
/-!
# Writing rows

A document is filtered, transformed, sorted and written as a text table, as JSON or as YAML, or it is
passed on as it is.
-/
namespace LineStore

/-- How rows are chosen and shown. -/
structure OutputOptions where
  output : Bytes := []
  filter : Bytes := []
  sort : Bytes := []
  color : Bool := false
  titles : Bool := false
  localTime : Bool := false
  deriving Repr, DecidableEq, Inhabited

namespace Host

/-- What separates the clauses of a filter. -/
def filterDelimiter (h : Host) : Bytes := (h.given? "LINECACHE_FILTER_DELIM").getD [0x2c]

/-- The time zone of the user, if one is named and known. -/
def zone? (h : Host) : Option Time.Zone := (h.given? "TZ").bind Time.Zone.find?

end Host

namespace Output

inductive Error where
  | cut (e : Transform.Error)
  /-- What was to be done to the sorted rows failed. -/
  | adjust (message : Bytes)
  | json (e : Json.PrintError)
  deriving Repr, DecidableEq, Inhabited

def Error.message : Error → Bytes
  | cut _ => utf8 "slice bounds out of range"
  | adjust m => m
  | json e => utf8 "failed to marshal json: " ++ e.message

abbrev Result := Config.Outcome (Except Error Unit)

/-- What is done to the rows after sorting. -/
abbrev Adjustment := List Row → Except Bytes (List Row)

/-- Three colors of the settings; one that cannot be had is empty. -/
structure ColorNames where
  title : Bytes
  even : Bytes
  odd : Bytes
  deriving Repr, DecidableEq, Inhabited

private def colorName (h : Host) (c : Config) (key : Bytes) (standard : String) :
    Config.Outcome Bytes :=
  let o := Config.text h c key [utf8 standard]
  ⟨o.value.toOption.getD [], o.config, o.trace⟩

/-- The colors below a key. -/
def colorNames (h : Host) (c : Config) (key : Bytes) : Config.Outcome ColorNames :=
  let title := colorName h c (key ++ utf8 ".title") "#f6be00"
  let even := colorName h title.config (key ++ utf8 ".even") "#ffffff"
  let odd := colorName h even.config (key ++ utf8 ".odd") "#00c8f0"
  ⟨⟨title.value, even.value, odd.value⟩, odd.config, title.trace ++ even.trace ++ odd.trace⟩

/-- The palette of the settings, if colors are wanted. -/
def palette (h : Host) (c : Config) (color : Bool) : Config.Outcome Palette :=
  if color then
    let o := colorNames h c (utf8 "colors")
    ⟨⟨Color.parse? o.value.title, Color.parse? o.value.even, Color.parse? o.value.odd⟩, o.config,
      o.trace⟩
  else ⟨{}, c, []⟩

/-- The cells of the attributes that are shown. -/
def cells (attrs : List Attribute) (row : Row) : List Bytes :=
  (attrs.filter Attribute.included).map fun a => (row.cell a.column).cellText [0x2d]

/-- Writes rows as a text table; no rows, no table. -/
def writeText (h : Host) (c : Config) (opts : OutputOptions) (attrs : List Attribute)
    (rows : List Row) : Result :=
  if rows.isEmpty then ⟨.ok (), c, []⟩
  else
    let p := palette h c opts.color
    let pad := Config.int h p.config (utf8 "padding") [1]
    let padding := pad.value.toOption.getD 0
    let grid : Grid :=
      { titles := if opts.titles then some ((attrs.filter Attribute.included).map Attribute.column)
          else none
        rows := rows.map (cells attrs)
        padding := padding.toNat
        palette := p.value }
    ⟨.ok (), pad.config, p.trace ++ pad.trace ++
      [.logged (.debug (utf8 "padding: " ++ Bytes.ofInt padding)), .printed grid.render]⟩

/-- Writes rows in the form asked for. -/
def write (h : Host) (c : Config) (opts : OutputOptions) (attrs : List Attribute) (rows : List Row) :
    Result :=
  if opts.output = utf8 "json" then
    match Json.print (.list ((Dataset.dropExcluded attrs rows).map fun r => .object r.pairs)) with
    | .ok s => ⟨.ok (), c, [.printed (s ++ [0x0a])]⟩
    | .error e => ⟨.error (.json e), c, []⟩
  else if opts.output = utf8 "yaml" then
    ⟨.ok (), c, [.printed (Yaml.printList ((Dataset.dropExcluded attrs rows).map fun r =>
      .object r.pairs))]⟩
  else writeText h c opts attrs rows

/-- The rows of a document after filters, transforms and sorting, with the attributes as the transforms
left them. -/
def rowsOf (h : Host) (opts : OutputOptions) (attrs : List Attribute) (doc : Json.Part) :
    Except Transform.Error (List Row) × List Attribute × List Event :=
  let (rows, t) := Dataset.select h.filterDelimiter opts.filter attrs doc
  let attrs := if opts.localTime then Dataset.markTimes attrs rows else attrs
  let r := Dataset.transformRows h.zone? attrs rows
  (r.value.map (sortRows (SortKey.parseAll opts.sort)), r.attrs, t ++ r.log.map Event.logged)

/-- The part of a document that holds the rows. -/
def source (parent raw : Bytes) : Json.Part :=
  let doc := Json.parse raw
  if parent.isEmpty then doc else doc.get parent

/-- Filters, transforms, sorts and writes a document. -/
def emit (h : Host) (c : Config) (opts : OutputOptions) (attrs : List Attribute) (parent raw : Bytes)
    (adjust : Adjustment) : Result :=
  if opts.output = utf8 "raw" then ⟨.ok (), c, [.printed raw]⟩
  else
    let (rows, attrs, t) := rowsOf h opts attrs (source parent raw)
    match rows with
    | .error e => ⟨.error (.cut e), c, t⟩
    | .ok rows =>
      match adjust rows with
      | .error m => ⟨.error (.adjust m), c, t⟩
      | .ok rows =>
        let r := write h c opts attrs rows
        ⟨r.value, r.config, t ++ r.trace⟩

end Output
end LineStore
