import LineStore.Text.Bytes
import LineStore.Text.Quoted
import LineStore.Text.Space
/-!
# Attributes

An attribute is a column of a table: the query that finds its cell in a row, the name of the column,
whether it is shown, and how its text is transformed.  A list of attributes is built from texts such as
`file,line:number,text::c20`; naming an attribute again changes it in place.
-/
namespace LineStore

structure Attribute where
  key : Bytes
  column : Bytes
  included : Bool := true
  transform : Bytes := []
  deriving Repr, DecidableEq, Inhabited

namespace Attribute

inductive Error where
  | emptyKey (spec : Bytes)
  deriving Repr, DecidableEq, Inhabited

def Error.message : Error → Bytes
  | emptyKey spec => utf8 "empty attribute key in " ++ Quoted.quote spec

/-- The key of the attribute that stands for all of them. -/
def wildcard : Bytes := [0x2a]

def isWildcard (a : Attribute) : Bool := a.key == wildcard

/-- The part of a key after its last dot. -/
def lastSegment (key : Bytes) : Bytes := ((Bytes.splitOn 0x2e key).getLast?).getD []

/-- A key without its marks: `!` excludes the attribute, a leading dot means nothing. -/
def readKey (field : Bytes) : Bool × Bytes :=
  let key := Space.trim field
  let (included, key) := match key with
    | 0x21 :: rest => (false, rest)
    | _ => (true, key)
  (included, Bytes.trimStart [0x2e] key)

/-- Reads `key`, `key:column` or `key:column:transform`. -/
def parse (spec : Bytes) : Except Error Attribute :=
  let fields := Bytes.splitOn 0x3a spec
  let (included, key) := readKey (fields.getD 0 [])
  if key.isEmpty then .error (.emptyKey spec)
  else
    let column := match fields with
      | _ :: name :: _ => if name.isEmpty then key else Space.trim name
      | _ => lastSegment key
    .ok { key, column, included := included && key != wildcard,
          transform := Space.trim (fields.getD 2 []) }

/-- Does a spec with this key mean this attribute? -/
def answersTo (a : Attribute) (key : Bytes) : Bool := a.key == key || a.column == key

/-- Changes the first attribute that answers to the key of `a`, or appends `a`. -/
def put (a : Attribute) : List Attribute → List Attribute
  | [] => [a]
  | b :: rest =>
    if b.answersTo a.key then
      { b with column := a.column, included := a.included, transform := a.transform } :: rest
    else b :: put a rest

/-- Applies specs in turn up to the first that is refused. -/
def putAll : List Attribute → List Bytes → List Attribute × Option Error
  | l, [] => (l, none)
  | l, spec :: rest =>
    match parse spec with
    | .error e => (l, some e)
    | .ok a => putAll (put a l) rest

/-- Adds the attributes of a comma-separated text.  An empty text and `*` add nothing. -/
def add (l : List Attribute) (value : Bytes) : List Attribute × Option Error :=
  if value.isEmpty ∨ value = wildcard then (l, none)
  else putAll l (Bytes.splitOn 0x2c value)

/-- Adds several texts in turn. -/
def addAll : List Attribute → List Bytes → List Attribute × Option Error
  | l, [] => (l, none)
  | l, v :: vs =>
    match add l v with
    | (l, none) => addAll l vs
    | (l, some e) => (l, some e)

/-- The transform of the first `*` attribute, put in front of every transform. -/
def spreadWildcard (l : List Attribute) : List Attribute :=
  match l.find? isWildcard with
  | none => l
  | some g =>
    if g.transform.isEmpty then l
    else l.map fun a => { a with transform := g.transform ++ [0x2c] ++ a.transform }

/-- The text of a list, `key:column:transform` for each. -/
def listText (l : List Attribute) : Bytes :=
  Bytes.join [0x2c] (l.map fun a => Bytes.join [0x3a] [a.key, a.column, a.transform])

/-- How a list is shown in the log. -/
def logText (l : List Attribute) : Bytes :=
  [0x5b] ++ Bytes.join [0x20] (l.map fun a =>
    [0x7b] ++ Bytes.join [0x20]
      [a.key, if a.included then utf8 "true" else utf8 "false", a.column, a.transform] ++ [0x7d])
    ++ [0x5d]

/-- The name of the kind of value an attribute option takes. -/
def listType : Bytes := utf8 "list"

end Attribute
end LineStore
