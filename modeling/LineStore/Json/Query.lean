import LineStore.Json.Reshape
import LineStore.Json.Wildcard
/-!
# Answering queries

A search walks through the text of a document once and goes into the parts that its path names.  It stops
at the first part found; where a path leads nowhere it goes on behind that part.  What a search learns on
its way, a part for several items and the query that follows a bar, is kept even if it goes on.
-/
namespace LineStore.Json

/-! ## Conditions -/

-- A value that starts with a tilde asks whether the part exists, or counts as null, true or false:
-- the part and the value to compare then are truth values.
private def Condition.resolve (c : Condition) (p : Part) : Part × Bytes :=
  match c.value with
  | 0x7e :: word =>
    let answer? : Option Bool :=
      if word = utf8 "*" then some p.exists
      else if word = utf8 "null" then some (p.kind == .null)
      else if word = utf8 "true" then some (p.truth? == some true)
      else if word = utf8 "false" then some (p.kind == .null || p.truth? == some false)
      else none
    match answer? with
    | some true => ({ kind := .true }, utf8 "true")
    | some false => ({ kind := .false }, utf8 "true")
    | none => ({}, [])
  | v => (p, v)

private def compareText (op : Comparison) (a b : Bytes) : Bool :=
  match op with
  | .equal => a == b
  | .differs => a != b
  | .less => decide (a < b)
  | .atMost => !decide (b < a)
  | .greater => decide (b < a)
  | .atLeast => !decide (a < b)
  | .like => Wildcard.accepts b a
  | .unlike => !Wildcard.accepts b a
  | .never => false

private def compareNumber (op : Comparison) (a b : Number) : Bool :=
  match op with
  | .equal => a.eq b
  | .differs => !a.eq b
  | .less => a.lt b
  | .atMost => a.lt b || a.eq b
  | .greater => b.lt a
  | .atLeast => b.lt a || a.eq b
  | _ => false

private def compareTruth (op : Comparison) (a : Bool) (word : Bytes) : Bool :=
  let same := word == Value.boolText a
  match op with
  | .equal => same
  | .differs => !same
  | .less => !a && word == utf8 "true"
  | .atMost => !a
  | .greater => a && word == utf8 "false"
  | .atLeast => a
  | _ => false

/-- Does a part meet a condition? -/
def Condition.accepts (c : Condition) (p : Part) : Bool :=
  let (p, value) := c.resolve p
  p.exists && match c.comparison with
    | none => true
    | some op =>
      match p.kind with
      | .text => compareText op p.text value
      | .number => compareNumber op p.number (numberOf value)
      | .true => compareTruth op true value
      | .false => compareTruth op false value
      | _ => false

/-! ## Searching -/

private structure Finding where
  part : Part := {}
  pipe : Option Bytes := none

private abbrev Walk := Finding × Option Bytes

private def Finding.found (f : Finding) (p : Part) : Walk := ({ f with part := p }, none)

private def Finding.withPipe (f : Finding) (pipe : Option Bytes) : Finding :=
  if pipe.isSome then { f with pipe := pipe } else f

private def nextKey : Bytes → Except Bytes (Bytes × Bytes)
  | [] => .error []
  | b :: s =>
    if b = 0x7d then .error s
    else if b = 0x22 then
      let p := stringPart s
      if p.isClosed then .ok (p.text, s.drop (p.raw.length - 1)) else .error []
    else nextKey s

private def composite (parts : List Bytes) : Part :=
  { kind := .composite, raw := [0x5b] ++ Bytes.join [0x2c] parts ++ [0x5d] }

-- What was gathered of a list so far: how many items came before, the texts from each item on, and
-- what is wanted of those that met the condition; the last ones first.
private structure Gathering where
  count : Nat := 0
  starts : List Bytes := []
  chosen : List Bytes := []

private def isListBlank (b : UInt8) : Bool := b == 0x20 || b == 0x09 || b == 0x0a || b == 0x0d

private def inItem? (find : Bytes → Part) (s : Bytes) : Option Bytes :=
  let s := s.dropWhile isListBlank
  if s.head? = some 0x5d then none
  else match nextPart? s with
    | some (p, _) =>
      let q := find p.raw
      if q.exists then some (if q.raw.isEmpty then q.display else q.raw) else none
    | none => none

private def closeList (find : Bytes → Bytes → Part) (step : ItemStep) (f : Finding) (g : Gathering)
    (rest : Bytes) : Walk :=
  if step.hashed ∧ step.name = [0x23] then
    match step.each with
    | some key =>
      let (key, f) := match splitPipe? key with
        | some (left, right) => (left, f.withPipe (some right))
        | none => (key, f)
      f.found (composite (g.starts.reverse.filterMap (inItem? (find key))))
    | none =>
      f.found { kind := .number, raw := Bytes.ofNat g.count, number := Number.ofInt g.count }
  else if !f.part.exists ∧ (step.condition.any Condition.all) then
    ({ f with part := composite g.chosen.reverse }, some rest)
  else (f, some rest)

private def judge (find : Bytes → Bytes → Part) (step : ItemStep) (c : Condition) (f : Finding)
    (g : Gathering) (p : Part) : Finding × Gathering × Bool :=
  let asked? : Option Part :=
    if p.kind == .composite then some (find c.path p.raw) else if c.path.isEmpty then some p else none
  if !(asked?.any c.accepts) then (f, g, false)
  else
    let (wanted, f) := match step.rest with
      | none => (p, f)
      | some path =>
        match splitPipe? path with
        | some (left, right) => (find left p.raw, f.withPipe (some right))
        | none => (find path p.raw, f)
    if c.all then
      let raw := if wanted.raw.isEmpty then wanted.display else wanted.raw
      (f, if raw.isEmpty then g else { g with chosen := raw :: g.chosen }, false)
    else ({ f with part := wanted }, g, true)

mutual
private def inObject (find : Bytes → Bytes → Part) : Nat → Finding → Bytes → Bytes → Walk
  | 0, f, _, _ => (f, some [])
  | fuel + 1, f, path, s =>
    let step := FieldStep.read path
    let f := f.withPipe step.pipe
    match nextKey s with
    | .error rest => (f, some rest)
    | .ok (key, s) =>
      let s := s.dropWhile (!startsPart ·)
      match nextPart? s with
      | none => (f, some [])
      | some (p, after) =>
        let matched := if step.wild then Wildcard.accepts step.name key else step.name == key
        if !matched then inObject find fuel f path after
        else match step.rest with
          | none => f.found p
          | some rest =>
            if p.kind != .composite then inObject find fuel f path after
            else match inside find fuel f rest s with
              | (f, none) => (f, none)
              | (f, some after) => inObject find fuel f path after

private def inList (find : Bytes → Bytes → Part) : Nat → Finding → ItemStep → Gathering → Bytes → Walk
  | 0, f, _, _, _ => (f, some [])
  | fuel + 1, f, step, g, s =>
    let g := if step.each.isSome then { g with starts := s :: g.starts } else g
    match s.dropWhile fun b => !startsPart b && b != 0x5d with
    | [] => closeList find step f g []
    | 0x5d :: rest => closeList find step f g rest
    | s =>
      match nextPart? s with
      | none => (f, some [])
      | some (p, after) =>
        let next := { g with count := g.count + 1 }
        match step.condition with
        | some c =>
          let (f, next, done) := judge find step c f next p
          if done then (f, none) else inList find fuel f step next after
        | none =>
          if step.position? ≠ some g.count then inList find fuel f step next after
          else match step.rest with
            | none => f.found p
            | some rest =>
              if p.kind != .composite then inList find fuel f step next after
              else match inside find fuel f rest s with
                | (f, none) => (f, none)
                | (f, some after) => inList find fuel f step next after

private def inside (find : Bytes → Bytes → Part) : Nat → Finding → Bytes → Bytes → Walk
  | 0, f, _, _ => (f, some [])
  | fuel + 1, f, path, s =>
    if s.head? = some 0x7b then inObject find fuel f path (s.drop 1)
    else
      let step := ItemStep.read path
      inList find fuel (f.withPipe step.pipe) step {} (s.drop 1)
end

private def enough (json : Bytes) : Nat := 2 * json.length + 4

private def search (find : Bytes → Bytes → Part) (path json : Bytes) : Finding :=
  match path with
  | 0x2e :: 0x2e :: path =>
    let step := ItemStep.read path
    (inList find (enough json) (({} : Finding).withPipe step.pipe) step {} json).1
  | _ =>
    let s := json.dropWhile fun b => b != 0x7b && b != 0x5b
    if s.isEmpty then {} else (inside find (enough json) {} path s).1

/-! ## Queries -/

private def select (find : Bytes → Bytes → Part) (asObject : Bool) (selectors : List Selector)
    (json : Bytes) : Part :=
  let parts := selectors.filterMap fun sel =>
    let p := find sel.path json
    if !p.exists then none
    else
      let raw := if !p.raw.isEmpty then p.raw else if p.display.isEmpty then utf8 "null" else p.display
      if !asObject then some raw
      else
        let name :=
          if sel.name.isEmpty then quoteEscaped sel.lastStep
          else if sel.name.head? = some 0x22 ∧ isValid sel.name then sel.name
          else quoteEscaped sel.name
        some (name ++ [0x3a] ++ raw)
  let (opening, closing) : UInt8 × UInt8 := if asObject then (0x7b, 0x7d) else (0x5b, 0x5d)
  { kind := .composite, raw := [opening] ++ Bytes.join [0x2c] parts ++ [closing] }

private def goesOn (path : Bytes) : Bool := path.head? == some 0x7c || path.head? == some 0x2e

private def continued (find : Bytes → Bytes → Part) (rest json : Bytes) : Part :=
  if goesOn rest then find (rest.drop 1) json else parse json

private def searchPiped (find : Bytes → Bytes → Part) (path json : Bytes) : Part :=
  let f := search find path json
  match f.pipe with
  | some pipe => find pipe f.part.raw
  | none => f.part

-- Answers a query; every query asked on the way is shorter.
private def answer : Nat → Bytes → Bytes → Part
  | 0, _, _ => {}
  | fuel + 1, path, json =>
    let find := answer fuel
    match path with
    | b :: c :: rest =>
      if b = 0x40 then
        match Modifier.read? (c :: rest) with
        | some (m, argument, after) => continued find after (m.apply find argument json)
        | none => searchPiped find path json
      else if b = 0x21 then
        let (literal, after) := readLiteral (c :: rest)
        continued find after literal
      else if b = 0x5b ∨ b = 0x7b then
        match Selector.readAll? (c :: rest) with
        | none => searchPiped find [] json
        | some (selectors, after) =>
          if after.isEmpty then select find (b == 0x7b) selectors json
          else if goesOn after then find (after.drop 1) (select find (b == 0x7b) selectors json).raw
          else searchPiped find after json
      else searchPiped find path json
    | _ => searchPiped find path json

/-- The part a query finds, or a missing part. -/
def Part.get (p : Part) (path : Bytes) : Part := answer (path.length + 1) path p.raw

end LineStore.Json
