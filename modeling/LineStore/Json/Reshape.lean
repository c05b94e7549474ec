import LineStore.Json.Layout
import LineStore.Json.Path
import LineStore.Json.Printer
import LineStore.Json.Valid
import LineStore.Text.Space
/-!
# Reshaping a document

What each modifier makes of the text of a document.  A modifier that has nothing to work on mostly leaves
the text as it is.
-/
namespace LineStore.Json

private def bracketed (opening closing : UInt8) (parts : List Bytes) : Bytes :=
  [opening] ++ Bytes.join [0x2c] parts ++ [closing]

private def listText (parts : List Bytes) : Bytes := bracketed 0x5b 0x5d parts

private def objectText (fields : List (Bytes × Bytes)) : Bytes :=
  bracketed 0x7b 0x7d (fields.map fun (k, v) => k ++ [0x3a] ++ v)

private def option? (name : String) (argument : Bytes) : Option Part :=
  ((parse argument).entries.filter fun (k, _) => k.display = utf8 name).getLast?.map (·.2)

private def isOn (name : String) (argument : Bytes) : Bool :=
  ((option? name argument).bind Part.truth?).getD false

private def onlyBlanks (s : Bytes) : Bytes :=
  s.filter fun b => b == 0x20 || b == 0x09 || b == 0x0a || b == 0x0d

private def wholeNumber (p : Part) : Int :=
  match p.kind with
  | .true => 1
  | .text => ((Int64.read p.text).toOption).getD 0
  | .number => ((Int64.read p.raw).toOption).getD p.number.toInt64
  | _ => 0

private def layoutOf (argument : Bytes) : Layout :=
  let base : Layout := {}
  { width := ((option? "width" argument).map wholeNumber).getD base.width
    lead := ((option? "prefix" argument).map fun p => onlyBlanks p.display).getD base.lead
    indent := ((option? "indent" argument).map fun p => onlyBlanks p.display).getD base.indent
    sorted := isOn "sortKeys" argument }

private def reversed (json : Bytes) : Bytes :=
  let p := parse json
  if p.isList then listText (p.entries.reverse.map fun (_, v) => v.raw)
  else if p.isObject then objectText (p.entries.reverse.map fun (k, v) => (k.raw, v.raw))
  else json

private def unwrapped (s : Bytes) : Bytes :=
  let s := ((s.dropWhile (· ≤ 0x20)).reverse.dropWhile (· ≤ 0x20)).reverse
  if 2 ≤ s.length ∧ (s.head? = some 0x5b ∨ s.head? = some 0x7b) then (s.drop 1).dropLast else s

private def flattened (deep : Bool) : Nat → Bytes → Bytes
  | 0, json => json
  | fuel + 1, json =>
    let p := parse json
    if !p.isList then json
    else
      let parts := p.entries.map fun (_, v) =>
        Space.trim (if v.isList then unwrapped (if deep then flattened deep fuel v.raw else v.raw)
          else v.raw)
      listText (parts.filter (!·.isEmpty))

-- A field set again keeps its place and its key as first written.
private def setField (fields : List (Part × Part)) (k v : Part) : List (Part × Part) :=
  if fields.any fun (k', _) => k'.text = k.text then
    fields.map fun (k', v') => if k'.text = k.text then (k', v) else (k', v')
  else fields ++ [(k, v)]

private def joined (keepAll : Bool) (json : Bytes) : Bytes :=
  let p := parse json
  if !p.isList then json
  else
    let objects := (p.entries.map (·.2)).filter Part.isObject
    if keepAll then bracketed 0x7b 0x7d (objects.map fun o => unwrapped o.raw)
    else
      let fields := (objects.flatMap Part.entries).foldl (fun fs (k, v) => setField fs k v) []
      objectText (fields.map fun (k, v) => (k.raw, v.raw))

private def keysOf (json : Bytes) : Bytes :=
  let p := parse json
  listText (p.entries.map fun (k, _) => if p.isObject then k.raw else utf8 "null")

private def valuesOf (json : Bytes) : Bytes :=
  let p := parse json
  if p.isList then json else listText (p.entries.map fun (_, v) => v.raw)

private def grouped (json : Bytes) : Bytes :=
  let p := parse json
  if !p.isObject then []
  else
    let columns : List (Bytes × List Bytes) :=
      (p.entries.filter fun (_, v) => v.isList).map fun (k, v) => (k.raw, v.entries.map (·.2.raw))
    let height := (columns.map fun (_, xs) => xs.length).foldl max 0
    listText ((List.range height).map fun i =>
      objectText (columns.filterMap fun (k, xs) => xs[i]?.map fun x => (k, x)))

private def dug (find : Bytes → Part) : Nat → Part → List Bytes
  | 0, _ => []
  | fuel + 1, p =>
    let here := find p.raw
    (if here.exists then [here.raw] else []) ++
      (if p.kind == .composite then p.entries.flatMap fun (_, v) => dug find fuel v else [])

/-- The document that a modifier makes.  `find` answers queries. -/
def Modifier.apply (find : Bytes → Bytes → Part) (m : Modifier) (argument json : Bytes) : Bytes :=
  match m with
  | pretty => (layoutOf argument).write json
  | ugly => compact json
  | reverse => reversed json
  | this => json
  | flatten => flattened (isOn "deep" argument) (json.length + 1) json
  | join => joined (isOn "preserve" argument) json
  | valid => if isValid json then json else []
  | keys => keysOf json
  | values => valuesOf json
  | toText => quoteEscaped json
  | fromText => if isValid json then (parse json).display else []
  | group => grouped json
  | dig => listText (dug (find argument) (json.length + 1) (parse json))

end LineStore.Json
