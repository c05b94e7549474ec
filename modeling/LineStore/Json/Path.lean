import LineStore.Json.Part
/-!
# The syntax of queries

A query is a path of steps separated by dots.  Into an object a step is the name of a field, in which `*`
and `?` stand for any text and any one character; into a list it is a position, `#` for the number of
items, `#.` and a query for what it finds in each item, or `#(...)` for the first item that meets a
condition and `#(...)#` for all of them.  A bar ends a path: what follows is a query on the part found.
So does a dot before a modifier, a selection or a literal.  Reading a path never fails.
-/
namespace LineStore.Json

/-- What turns a document into another. -/
inductive Modifier where
  | pretty | ugly | reverse | this | flatten | join | valid | keys | values | toText | fromText | group
  | dig
  deriving Repr, DecidableEq, Inhabited

namespace Modifier

private def names : List (String × Modifier) :=
  [("pretty", pretty), ("ugly", ugly), ("reverse", reverse), ("this", this), ("flatten", flatten),
    ("join", join), ("valid", valid), ("keys", keys), ("values", values), ("tostr", toText),
    ("fromstr", fromText), ("group", group), ("dig", dig)]

def ofName? (name : Bytes) : Option Modifier := (names.find? fun (n, _) => utf8 n = name).map (·.2)

end Modifier

private def atSign : UInt8 := 0x40
private def bar : UInt8 := 0x7c
private def dot : UInt8 := 0x2e
private def hash : UInt8 := 0x23
private def backslash : UInt8 := 0x5c
private def doubleQuote : UInt8 := 0x22

private def endsModifierName (b : UInt8) : Bool := b == dot || b == bar || b == 0x3a

private def opensPipe : Bytes → Bool
  | [] => false
  | b :: s =>
    if b == atSign then (Modifier.ofName? (s.takeWhile (!endsModifierName ·))).isSome
    else b == 0x5b || b == 0x7b || b == 0x21

/-! ## Steps -/

/-- A step into an object: the rest of the path is taken inside the field, the pipe on what is found. -/
structure FieldStep where
  name : Bytes
  wild : Bool := false
  rest : Option Bytes := none
  pipe : Option Bytes := none
  deriving Repr, DecidableEq, Inhabited

private def readField (name : Bytes) (wild : Bool) : Bytes → FieldStep
  | [] => { name := name.reverse, wild }
  | b :: s =>
    if b == bar then { name := name.reverse, wild, pipe := some s }
    else if b == dot then
      if opensPipe s then { name := name.reverse, wild, pipe := some s }
      else { name := name.reverse, wild, rest := some s }
    else if b == backslash then
      match s with
      | [] => { name := name.reverse, wild }
      | c :: s => readField (c :: name) wild s
    else readField (b :: name) (wild || b == 0x2a || b == 0x3f) s

/-- The first step of a path into an object; a backslash takes the next byte as it is. -/
def FieldStep.read (path : Bytes) : FieldStep := readField [] false path

inductive Comparison where
  | equal | differs | less | atMost | greater | atLeast | like | unlike
  /-- A lone exclamation mark, which nothing meets. -/
  | never
  deriving Repr, DecidableEq, Inhabited

/-- What an item must meet: a part of it must exist and, if there is a comparison, compare so. -/
structure Condition where
  path : Bytes := []
  comparison : Option Comparison := none
  value : Bytes := []
  /-- All items that meet it are wanted, not only the first. -/
  all : Bool := false
  deriving Repr, DecidableEq, Inhabited

/-- A step into a list. -/
structure ItemStep where
  name : Bytes
  /-- The name has a `#` and is no position. -/
  hashed : Bool := false
  rest : Option Bytes := none
  pipe : Option Bytes := none
  /-- What is looked up in each item. -/
  each : Option Bytes := none
  condition : Option Condition := none
  deriving Repr, DecidableEq, Inhabited

private def trim (s : Bytes) : Bytes :=
  ((s.dropWhile (· ≤ 0x20)).reverse.dropWhile (· ≤ 0x20)).reverse

private def readQuoted : Bytes → Bytes × Bool × Bytes
  | [] => ([], false, [])
  | b :: s =>
    if b == doubleQuote then ([b], false, s)
    else if b == backslash then
      match s with
      | [] => ([b], true, [])
      | c :: s =>
        let (text, _, rest) := readQuoted s
        (b :: c :: text, true, rest)
    else
      let (text, escaped, rest) := readQuoted s
      (b :: text, escaped, rest)

private def startsComparison (b : UInt8) : Bool :=
  b == 0x21 || b == 0x3d || b == 0x3c || b == 0x3e || b == 0x25

private def isOpening (b : UInt8) : Bool := b == 0x5b || b == 0x28

private def isClosing (b : UInt8) : Bool := b == 0x5d || b == 0x29

private structure Reading where
  depth : Nat := 1
  path : Bytes := []
  value : Option Bytes := none
  escaped : Bool := false

private def Reading.push (r : Reading) (s : Bytes) : Reading :=
  match r.value with
  | none => { r with path := s.reverse ++ r.path }
  | some v => { r with value := some (s.reverse ++ v) }

private def readCondition : Nat → Reading → Bytes → Option (Reading × Bytes)
  | 0, _, _ => none
  | _, _, [] => none
  | fuel + 1, r, b :: s =>
    if r.depth = 1 ∧ r.value.isNone ∧ startsComparison b then
      readCondition fuel { r with value := some [b] } s
    else if b == backslash then readCondition fuel (r.push (b :: s.take 1)) (s.drop 1)
    else if isOpening b then readCondition fuel { r.push [b] with depth := r.depth + 1 } s
    else if isClosing b then
      if r.depth ≤ 1 then some (r, s)
      else readCondition fuel { r.push [b] with depth := r.depth - 1 } s
    else if b == doubleQuote then
      let (text, escaped, rest) := readQuoted s
      readCondition fuel { r.push (b :: text) with escaped := r.escaped || escaped } rest
    else readCondition fuel (r.push [b]) s

private def splitComparison (s : Bytes) : Option Comparison × Bytes :=
  match s with
  | [0x21] => (some .never, [])
  | 0x21 :: 0x3d :: v => (some .differs, v)
  | 0x21 :: 0x25 :: v => (some .unlike, v)
  | 0x3c :: 0x3d :: v => (some .atMost, v)
  | 0x3e :: 0x3d :: v => (some .atLeast, v)
  | 0x3d :: 0x3d :: v => (some .equal, v)
  | 0x3c :: v => (some .less, v)
  | 0x3e :: v => (some .greater, v)
  | 0x3d :: v => (some .equal, v)
  | 0x25 :: v => (some .like, v)
  | s => (none, s)

private def unquote (escaped : Bool) (s : Bytes) : Bytes :=
  if 2 ≤ s.length ∧ s.head? = some doubleQuote ∧ s.getLast? = some doubleQuote then
    let body := (s.drop 1).dropLast
    if escaped then unescape body else body
  else s

/-- Reads a condition after its opening bracket, and what follows the closing one. -/
def Condition.read? (s : Bytes) : Option (Condition × Bytes) :=
  (readCondition (s.length + 1) {} s).map fun (r, rest) =>
    let path := trim r.path.reverse
    let all := rest.head? == some hash
    match r.value with
    | none => ({ path, all }, rest)
    | some v =>
      let (comparison, value) := splitComparison (trim v.reverse)
      ({ path, comparison, value := unquote r.escaped (trim value), all }, rest)

private def endItem (step : ItemStep) (s : Bytes) : ItemStep :=
  match s with
  | [] => step
  | b :: s =>
    if b == bar then { step with pipe := some s }
    else if !step.hashed && opensPipe s then { step with pipe := some s }
    else { step with rest := some s }

private def endsItem (b : UInt8) : Bool := b == bar || b == dot

/-- The first step of a path into a list.  A condition that never closes is met by whatever exists. -/
def ItemStep.read (path : Bytes) : ItemStep :=
  match path with
  | 0x23 :: 0x2e :: key => { name := [hash], hashed := true, each := some key }
  | 0x23 :: b :: s =>
    if isOpening b then
      match Condition.read? s with
      | none => { name := path, hashed := true, condition := some {} }
      | some (c, rest) =>
        endItem { name := path, hashed := true, condition := some c } (rest.dropWhile (!endsItem ·))
    else plain path
  | _ => plain path
where
  plain (path : Bytes) : ItemStep :=
    let name := path.takeWhile (!endsItem ·)
    endItem { name, hashed := name.contains hash } (path.drop name.length)

/-- The position a step names.  Positions are words of 64 bits, of which the upper half is none. -/
def ItemStep.position? (step : ItemStep) : Option Nat := do
  if step.hashed then none
  else
    let n := (← Int64.digits? 10 step.name) % 18446744073709551616
    if n < 9223372036854775808 then some n else none

/-! ## Pipes -/

private def skipBrackets (opening closing : UInt8) : Nat → Nat → Bytes → Bytes × Bytes
  | 0, _, s => ([], s)
  | _, _, [] => ([], [])
  | fuel + 1, depth, b :: s =>
    if b == closing && depth ≤ 1 then ([b], s)
    else
      let (taken, depth, rest) :=
        if b == backslash then (b :: s.take 1, depth, s.drop 1)
        else if b == opening then ([b], depth + 1, s)
        else if b == closing then ([b], depth - 1, s)
        else if b == doubleQuote then
          let (text, _, rest) := readQuoted s
          (b :: text, depth, rest)
        else ([b], depth, s)
      let (more, rest) := skipBrackets opening closing fuel depth rest
      (taken ++ more, rest)

private def splitPipeFuel : Nat → Bytes → Bytes → Option (Bytes × Bytes)
  | 0, _, _ => none
  | _, _, [] => none
  | fuel + 1, left, b :: s =>
    if b == bar then some (left.reverse, s)
    else if b == backslash then splitPipeFuel fuel ((s.take 1).reverse ++ b :: left) (s.drop 1)
    else if b == dot && s.head? == some hash then
      let left := hash :: b :: left
      match s.drop 1 with
      | [] => none
      | c :: s =>
        if isOpening c then
          let (inner, rest) := skipBrackets c (if c == 0x5b then 0x5d else 0x29) s.length 1 s
          splitPipeFuel fuel (inner.reverse ++ c :: left) rest
        -- The byte after `.#` is never taken for a bar.
        else splitPipeFuel fuel (c :: left) s
    else splitPipeFuel fuel (b :: left) s

/-- Splits a path at its first bar outside brackets that follow `.#`.  A selection is split only if the
bar comes right after it. -/
def splitPipe? (path : Bytes) : Option (Bytes × Bytes) :=
  if !path.elem bar then none
  else match path with
    | 0x7b :: s =>
      let inner := balanced s
      match s.drop inner.length with
      | b :: right => if b == bar then some (0x7b :: inner, right) else none
      | [] => none
    | _ => splitPipeFuel (path.length + 1) [] path

/-! ## Selections -/

/-- One of several queries whose answers are put together, perhaps with a name of its own. -/
structure Selector where
  name : Bytes := []
  path : Bytes
  deriving Repr, DecidableEq, Inhabited

private structure SelectorText where
  text : Bytes := []
  colon : Option Nat := none
  modified : Bool := false

private def SelectorText.push (t : SelectorText) (s : Bytes) : SelectorText :=
  { t with text := s.reverse ++ t.text }

private def SelectorText.selector (t : SelectorText) : Selector :=
  let text := t.text.reverse
  match t.colon with
  | none => { path := text }
  | some i => { name := text.take i, path := text.drop (i + 1) }

private def readSelectors : Nat → Nat → SelectorText → Bytes → Option (List Selector × Bytes)
  | 0, _, _, _ => none
  | _, _, _, [] => none
  | fuel + 1, depth, t, b :: s =>
    if b == backslash then readSelectors fuel depth (t.push (b :: s.take 1)) (s.drop 1)
    else if b == atSign then
      let modified := t.modified || t.text.head?.any fun c => c == dot || c == bar
      readSelectors fuel depth { t.push [b] with modified } s
    else if b == 0x3a && !t.modified && depth = 1 then
      readSelectors fuel depth { t.push [b] with colon := some t.text.length } s
    else if b == 0x2c && depth = 1 then
      (readSelectors fuel depth {} s).map fun (more, rest) => (t.selector :: more, rest)
    else if b == doubleQuote then
      let (text, _, rest) := readQuoted s
      readSelectors fuel depth (t.push (b :: text)) rest
    else if isOpening b || b == 0x7b then readSelectors fuel (depth + 1) (t.push [b]) s
    else if isClosing b || b == 0x7d then
      if depth ≤ 1 then some ([t.selector], s) else readSelectors fuel (depth - 1) (t.push [b]) s
    else readSelectors fuel depth (t.push [b]) s

/-- The selectors between brackets, given what follows the opening one, and what follows the closing
one. -/
def Selector.readAll? (s : Bytes) : Option (List Selector × Bytes) :=
  readSelectors (s.length + 1) 1 {} s

private def isPlainName (name : Bytes) : Bool :=
  name.all fun b => 0x20 ≤ b && !isOpening b && !isClosing b && b != 0x7b && b != 0x7d && b != hash &&
    b != bar && b != 0x21

private def lastName : Bytes → Bytes
  | [] => []
  | b :: s => if endsItem b && s.head? != some backslash then [] else b :: lastName s

/-- The name of a field of a selection that has none: the last step, or a line if that is no plain
name. -/
def Selector.lastStep (sel : Selector) : Bytes :=
  let name := (lastName sel.path.reverse).reverse
  if isPlainName name then name else [0x5f]

/-! ## Modifiers and literals -/

private def simpleArgument : Nat → Bytes → Bytes × Bytes
  | 0, s => ([], s)
  | _, [] => ([], [])
  | fuel + 1, b :: s =>
    if b == bar then ([], b :: s)
    else
      let taken := if isOpening b || b == 0x7b || b == doubleQuote then balanced (b :: s) else [b]
      let (more, rest) := simpleArgument fuel ((b :: s).drop taken.length)
      (taken ++ more, rest)

/-- A modifier with its argument and what follows, given what comes after the at sign. -/
def Modifier.read? (s : Bytes) : Option (Modifier × Bytes × Bytes) := do
  let name := s.takeWhile (!endsModifierName ·)
  let m ← Modifier.ofName? name
  match s.drop name.length with
  | 0x3a :: rest =>
    match rest with
    | [] => some (m, [], [])
    | b :: _ =>
      if (b == 0x7b || b == 0x5b || b == doubleQuote) && (parse rest).exists then
        let argument := balanced rest
        some (m, argument, rest.drop argument.length)
      else
        let (argument, rest) := simpleArgument rest.length rest
        some (m, argument, rest)
  | rest => some (m, [], rest)

private def startsLongLiteral (b : UInt8) : Bool :=
  b == 0x7b || b == 0x5b || b == doubleQuote || b == 0x2b || b == 0x2d || Bytes.isDigit b

/-- A literal and what follows, given what comes after the exclamation mark.  Up to a dot or a bar,
unless it is composite, a text or a number: those reach to the bracket that closes them. -/
def readLiteral (s : Bytes) : Bytes × Bytes :=
  let literal :=
    if s.head?.any startsLongLiteral then s.take (balanced (0x5b :: s.drop 1)).length
    else s.takeWhile (!endsItem ·)
  (literal, s.drop literal.length)

end LineStore.Json
