import LineStore.Yaml.Scalar
import LineStore.Yaml.Stream
/-!
# From characters to tokens

The scanner keeps the indentation of the open block collections, the depth of flow brackets, and for
each depth the place where a key without mark may have begun.  When a colon shows that it was a key, the
marks for it are put in at that place.
-/
namespace LineStore.Yaml

/-- Where a key without mark may have begun: at a token, and whether it still may. -/
structure PossibleKey where
  possible : Bool := false
  token : Nat := 0
  index : Nat := 0
  line : Nat := 0
  column : Nat := 0
  required : Bool := false
  deriving Repr, Inhabited

structure Scanner where
  cursor : Cursor
  /-- The tokens scanned and not yet taken, and how many were taken before. -/
  ahead : List Token := [.streamStart]
  taken : Nat := 0
  indent : Int := -1
  indents : List Int := []
  flow : Nat := 0
  keyAllowed : Bool := true
  /-- One place for each open flow bracket, innermost first, and one for the block level. -/
  keys : List PossibleKey := [{}]
  /-- The tokens at which a key may have begun, each with the depth of its place. -/
  heads : List (Nat × Nat) := []
  /-- The stream has a byte order mark after the first one. -/
  marked : Bool := false
  /-- The stream breaks off after the characters ahead. -/
  broken : Bool := false
  deriving Inhabited

namespace Scanner

def push (s : Scanner) (t : Token) : Scanner := { s with ahead := s.ahead ++ [t] }

private def next (s : Scanner) : Nat := s.taken + s.ahead.length

private def insertAt (s : Scanner) (n : Nat) (t : Token) : Scanner :=
  if n < s.taken then s.push t
  else
    let (before, after) := s.ahead.splitAt (n - s.taken)
    { s with ahead := before ++ t :: after }

private def unrollLoop (column : Int) : Nat → Scanner → Scanner
  | 0, s => s
  | fuel + 1, s =>
    if column < s.indent then
      unrollLoop column fuel { s.push .blockEnd with
        indent := s.indents.headD (-1), indents := s.indents.drop 1 }
    else s

/-- Closes the block collections that are indented further than `column`. -/
def unroll (s : Scanner) (column : Int) : Scanner :=
  if 0 < s.flow then s else unrollLoop column (s.indents.length + 1) s

private def deepest : Nat := 10000

private def roll (s : Scanner) (column : Nat) (at? : Option Nat) (t : Token) : Option Scanner :=
  if 0 < s.flow || (column : Int) ≤ s.indent then some s
  else if deepest ≤ s.indents.length then none
  else
    let s := { s with indents := s.indent :: s.indents, indent := column }
    some (match at? with
      | some n => s.insertAt n t
      | none => s.push t)

private def key (s : Scanner) : PossibleKey := s.keys.headD {}

private def setKey (s : Scanner) (k : PossibleKey) : Scanner := { s with keys := k :: s.keys.drop 1 }

private def forget (s : Scanner) (token : Nat) : Scanner :=
  { s with heads := s.heads.filter (·.1 != token) }

/-- Gives up the place of a key; one that had to be a key is an error. -/
def dropKey (s : Scanner) : Option Scanner :=
  let k := s.key
  if !k.possible then some s
  else if k.required then none
  else some ((s.setKey { k with possible := false }).forget k.token)

/-- Notes that a key may begin here. -/
def saveKey (s : Scanner) : Option Scanner :=
  if !s.keyAllowed then some s
  else do
    let c := s.cursor
    let k : PossibleKey := ⟨true, s.next, c.index, c.line, c.column,
      s.flow == 0 && s.indent == (c.column : Int)⟩
    let s ← s.dropKey
    let s := s.setKey k
    return { s with heads := (k.token, s.keys.length - 1) :: (s.forget k.token).heads }

private def checkKey (s : Scanner) (depth : Nat) : Option (Bool × Scanner) :=
  let i := s.keys.length - 1 - depth
  let k := s.keys.getD i {}
  if !k.possible then some (false, s)
  else if k.line < s.cursor.line || k.index + 1024 < s.cursor.index then
    if k.required then none
    else some (false, { s with keys := s.keys.set i { k with possible := false } })
  else some (true, s)

private def advance (s : Scanner) (n : Nat := 1) : Scanner := { s with cursor := s.cursor.skip n }

private def commentReach : Nat := 512

private def comments : Nat → Cursor → Cursor
  | 0, c => c
  | fuel + 1, c =>
    let c := c.skipComment
    let ahead := (c.rest.drop 1).take (commentReach - 1)
    let gap := (ahead.takeWhile fun x => isBlank x || isBreak x).length
    if ahead[gap]? == some 0x23 then
      comments fuel ((Nat.repeat (fun d : Cursor => if d.index < c.index + gap + 1 then d.pass 1 else d)
        (gap + 1)) c)
    else c

private def toNextToken : Nat → Scanner → Scanner
  | 0, s => s
  | fuel + 1, s =>
    let c := s.cursor
    if c.is 0x20 || ((0 < s.flow || !s.keyAllowed) && c.is 0x09) then toNextToken fuel s.advance
    else
      let c := if c.is 0x23 then comments c.bound c else c
      if c.atBreak then
        let c := c.readBreak.2
        let c := if s.marked && !c.rest.isEmpty then c.skip else c
        toNextToken fuel { s with cursor := c, keyAllowed := s.keyAllowed || s.flow == 0 }
      else { s with cursor := c }

private def lineComment (s : Scanner) : Scanner :=
  if s.cursor.fresh || s.ahead.getLast? == some .blockEntry then s
  else
    let gap := ((s.cursor.rest.take commentReach).takeWhile isBlank).length
    if gap < commentReach && s.cursor.is 0x23 gap then
      { s with cursor := (s.cursor.skip gap).skipComment }
    else s

private def nameRun (p : Nat → Bool) (c : Cursor) : Bytes × Cursor :=
  let run := c.rest.takeWhile p
  (Utf8.ofCodes run, c.skip run.length)

private def afterName (c : Cursor) : Bool :=
  c.atBlankOrEnd || c.peek.any fun x =>
    x == 0x3f || x == 0x3a || x == 0x2c || x == 0x5d || x == 0x7d || x == 0x25 || x == 0x40 || x == 0x60

private def scanName (c : Cursor) : Option (Bytes × Cursor) :=
  let (name, c) := nameRun isNameChar c.skip
  if name.isEmpty || !afterName c then none else some (name, c)

private def isUriChar (x : Nat) : Bool :=
  isNameChar x || [0x3b, 0x2f, 0x3f, 0x3a, 0x40, 0x26, 0x3d, 0x2b, 0x24, 0x2c, 0x2e, 0x21, 0x7e,
    0x2a, 0x27, 0x28, 0x29, 0x5b, 0x5d].elem x

private def hexPair? (a b : Nat) : Option UInt8 := do
  let x ← Bytes.digitValue? a.toUInt8
  let y ← Bytes.digitValue? b.toUInt8
  if a < 0x80 && b < 0x80 && x < 16 && y < 16 then some (x * 16 + y).toUInt8 else none

private def escapedByte? (c : Cursor) : Option UInt8 := do
  if c.is 0x25 then hexPair? (← c.peek 1) (← c.peek 2) else none

private def escapedRest : Nat → Bytes → Cursor → Option (Bytes × Cursor)
  | 0, acc, c => some (acc, c)
  | n + 1, acc, c => do
    let b ← escapedByte? c
    if b &&& 0xc0 == 0x80 then escapedRest n (acc ++ [b]) (c.skip 3) else none

private def uri : Nat → Bytes → Cursor → Option (Bytes × Cursor)
  | 0, _, _ => none
  | fuel + 1, acc, c =>
    match c.peek with
    | none => some (acc, c)
    | some x =>
      if isUriChar x then uri fuel (acc ++ Utf8.encode x) c.skip
      else if x == 0x25 then do
        let b ← escapedByte? c
        if Stream.widthOf b = 0 then none
        else
          let (acc, c) ← escapedRest (Stream.widthOf b - 1) (acc ++ [b]) (c.skip 3)
          uri fuel acc c
      else some (acc, c)

private def tagHandle (c : Cursor) : Bytes × Cursor :=
  let (name, c) := nameRun isNameChar c.skip
  if c.is 0x21 then ([0x21] ++ name ++ [0x21], c.skip) else ([0x21] ++ name, c)

private def scanTag (c : Cursor) : Option (Token × Cursor) := do
  let (t, c) ←
    if c.is 0x3c 1 then do
      let (suffix, c) ← uri (c.bound + 1) [] (c.skip 2)
      if suffix.isEmpty || !c.is 0x3e then none else some (Token.tag [] suffix, c.skip)
    else do
      let (handle, c) := tagHandle c
      if 1 < handle.length && handle.getLast? == some 0x21 then do
        let (suffix, c) ← uri (c.bound + 1) [] c
        if suffix.isEmpty then none else some (.tag handle suffix, c)
      else do
        let (suffix, c) ← uri (c.bound + 1) (handle.drop 1) c
        some (if suffix.isEmpty then .tag [] [0x21] else .tag [0x21] suffix, c)
  if c.atBlankOrEnd then some (t, c) else none

private def number? (c : Cursor) : Option (Nat × Cursor) :=
  let run := c.rest.takeWhile fun x => 0x30 ≤ x && x ≤ 0x39
  if run.isEmpty || 2 < run.length then none
  else some (run.foldl (fun n d => n * 10 + (d - 0x30)) 0, c.skip run.length)

private def scanDirective (c : Cursor) : Option (Token × Cursor) := do
  let (name, c) := nameRun isNameChar c.skip
  if name.isEmpty || !c.atBlankOrEnd then none
  else
    let (t, c) ←
      if name = utf8 "YAML" then do
        let (major, c) ← number? c.skipBlanks
        if !c.is 0x2e then none
        else
          let (minor, c) ← number? c.skip
          some (Token.versionDirective major minor, c)
      else if name = utf8 "TAG" then do
        let c := c.skipBlanks
        if !c.is 0x21 then none
        else
          let (handle, c) := tagHandle c
          if handle != [0x21] && handle.getLast? != some 0x21 then none
          else if !c.atBlank then none
          else
            let (start, c) ← uri (c.bound + 1) [] c.skipBlanks
            if start.isEmpty || !c.atBlankOrEnd then none else some (.tagDirective handle start, c)
      else none
    let c := c.skipBlanks.skipComment
    if c.atBreakOrEnd then some (t, if c.atBreak then c.readBreak.2 else c) else none

private def fetchValue (s : Scanner) : Option Scanner := do
  let (good, s) ← s.checkKey (s.keys.length - 1)
  let k := s.key
  let s ←
    if good then do
      let s ← (s.insertAt k.token .key).roll k.column (some k.token) .blockMappingStart
      some { (s.setKey { k with possible := false }).forget k.token with keyAllowed := false }
    else if s.flow == 0 && !s.keyAllowed then none
    else do
      let s ← s.roll s.cursor.column none .blockMappingStart
      some { s with keyAllowed := s.flow == 0 }
  return (s.advance).push .value

private def fetchKey (s : Scanner) : Option Scanner := do
  if s.flow == 0 && !s.keyAllowed then none
  else
    let s ← (← s.roll s.cursor.column none .blockMappingStart).dropKey
    return ({ s with keyAllowed := s.flow == 0 }.advance).push .key

private def fetchEntry (s : Scanner) : Option Scanner := do
  if s.flow == 0 && !s.keyAllowed then none
  else
    let s ← (← s.roll s.cursor.column none .blockSequenceStart).dropKey
    return ({ s with keyAllowed := true }.advance).push .blockEntry

private def flowStart (s : Scanner) (t : Token) : Option Scanner := do
  let s ← s.saveKey
  let c := s.cursor
  if deepest ≤ s.flow then none
  else
    return ({ s with
      keys := ⟨false, s.next, c.index, c.line, c.column, false⟩ :: s.keys
      flow := s.flow + 1
      keyAllowed := true }.advance).push t

private def flowEnd (s : Scanner) (t : Token) : Option Scanner := do
  let s ← s.dropKey
  let s := if 0 < s.flow then
      { s.forget s.key.token with flow := s.flow - 1, keys := s.keys.drop 1 }
    else s
  return ({ s with keyAllowed := false }.advance).push t

private def documentMark (s : Scanner) (t : Token) : Option Scanner := do
  let s ← (s.unroll (-1)).dropKey
  return ({ s with keyAllowed := false }.advance 3).push t

private def withKey (s : Scanner) (scan : Cursor → Option (Token × Cursor)) : Option Scanner := do
  let s ← s.saveKey
  let (t, c) ← scan s.cursor
  return { s with cursor := c, keyAllowed := false }.push t

private def isIndicator (x : Nat) : Bool :=
  [0x2d, 0x3f, 0x3a, 0x2c, 0x5b, 0x5d, 0x7b, 0x7d, 0x23, 0x26, 0x2a, 0x21, 0x7c, 0x3e, 0x27, 0x22,
    0x25, 0x40, 0x60].elem x

private def startsPlain (s : Scanner) : Bool :=
  let c := s.cursor
  let blankNext := c.peek 1 |>.any isBlank
  (!c.atBlankOrEnd && !(c.peek.any isIndicator)) || (c.is 0x2d && !blankNext) ||
    (s.flow == 0 && (c.is 0x3f || c.is 0x3a) && !c.atBlankOrEnd 1)

private def fetchPlain (s : Scanner) : Option Scanner := do
  let s ← s.saveKey
  let (text, broken, c) ← scanPlain s.flow s.indent s.cursor
  return { s with cursor := c, keyAllowed := broken }.push (.scalar text .plain)

private def fetchBlock (s : Scanner) (folded : Bool) : Option Scanner := do
  let s ← s.dropKey
  let (text, c) ← scanBlock folded s.indent s.cursor
  return { s with cursor := c, keyAllowed := true }.push
    (.scalar text (if folded then .folded else .literal))

private def fetchEnd (s : Scanner) : Option Scanner := do
  let c := s.cursor
  let c := if c.column == 0 then c else { c with line := c.line + 1, column := 0 }
  let s ← ({ s with cursor := c }.unroll (-1)).dropKey
  return { s with keyAllowed := false }.push .streamEnd

private def fetch (s : Scanner) : Option Scanner :=
  let c := s.cursor
  match c.peek with
  | none => fetchEnd s
  | some x =>
    let blankNext := c.atBlankOrEnd 1
    if c.column == 0 && x == 0x25 then do
      let s ← (s.unroll (-1)).dropKey
      let (t, c) ← scanDirective s.cursor
      return { s with cursor := c, keyAllowed := false }.push t
    else if c.atDocumentMark then
      documentMark s (if x == 0x2d then .documentStart else .documentEnd)
    else (fun r => r.map lineComment) <|
      if x == 0x5b then flowStart s .flowSequenceStart
    else if x == 0x7b then flowStart s .flowMappingStart
    else if x == 0x5d then flowEnd s .flowSequenceEnd
    else if x == 0x7d then flowEnd s .flowMappingEnd
    else if x == 0x2c then do
      let s ← s.dropKey
      return ({ s with keyAllowed := true }.advance).push .flowEntry
    else if x == 0x2d && blankNext then fetchEntry s
    else if x == 0x3f && (0 < s.flow || blankNext) then fetchKey s
    else if x == 0x3a && (0 < s.flow || blankNext) then fetchValue s
    else if x == 0x2a then withKey s fun c => (scanName c).map fun (n, c) => (.alias n, c)
    else if x == 0x26 then withKey s fun c => (scanName c).map fun (n, c) => (.anchor n, c)
    else if x == 0x21 then withKey s scanTag
    else if x == 0x7c && s.flow == 0 then fetchBlock s false
    else if x == 0x3e && s.flow == 0 then fetchBlock s true
    else if x == 0x27 then
      withKey s fun c => (scanQuoted true c).map fun (t, c) => (.scalar t .singleQuoted, c)
    else if x == 0x22 then
      withKey s fun c => (scanQuoted false c).map fun (t, c) => (.scalar t .doubleQuoted, c)
    else if startsPlain s then fetchPlain s
    else none

private def breaksWithin (n : Nat) (s : Scanner) : Bool :=
  s.broken && (s.cursor.rest.drop (n - 1)).isEmpty

private def fetchNext (s : Scanner) : Option Scanner := do
  let s := toNextToken (s.cursor.bound + 1) s
  if s.breaksWithin 4 then none
  else
    let s ← fetch (s.unroll s.cursor.column)
    if s.breaksWithin 1 then none else some s

-- Scans until three tokens are ahead, and until it is known whether the first of them begins a key.
private def fetchMore : Nat → Scanner → Option Scanner
  | 0, _ => none
  | fuel + 1, s => do
    if 2 < s.ahead.length then
      match s.heads.find? fun (t, _) => t == s.taken with
      | none => some s
      | some (_, depth) =>
        let (good, s) ← s.checkKey depth
        if good then fetchMore fuel (← s.fetchNext) else some s
    else fetchMore fuel (← s.fetchNext)

/-- The token ahead. -/
def peek (s : Scanner) : Option (Token × Scanner) := do
  let s ← fetchMore (s.cursor.bound + 8) s
  return (s.ahead.headD .streamEnd, s)

def take (s : Scanner) : Scanner := { s with taken := s.taken + 1, ahead := s.ahead.drop 1 }

end Scanner

/-- A scanner at the start of a stream. -/
def Scanner.ofStream (s : Stream) : Scanner :=
  let cursor : Cursor := { rest := s.codes }
  if cursor.is 0xfeff then { cursor := cursor.skip, marked := true, broken := s.broken }
  else { cursor, broken := s.broken }

end LineStore.Yaml
