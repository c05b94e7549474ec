import LineStore.Yaml.Token
/-!
# Scanning scalars

Block, quoted and plain scalars: how their lines are folded and where they end.  A scan gives the text
and the cursor after it, or nothing if the scalar is malformed.
-/
namespace LineStore.Yaml

private structure Gap where
  blanks : Bytes := []
  first : Bytes := []
  more : Bytes := []
  broken : Bool := false

-- One break is folded to a blank; of several the first is dropped.
private def Gap.text (g : Gap) : Bytes :=
  if g.broken then
    if g.first.head? == some 0x0a then (if g.more.isEmpty then [0x20] else g.more)
    else g.first ++ g.more
  else g.blanks

private def Gap.isEmpty (g : Gap) : Bool := !g.broken && g.blanks.isEmpty

private def gap (tabLimit : Option Nat) : Nat → Gap → Cursor → Option (Gap × Cursor)
  | 0, _, _ => none
  | fuel + 1, g, c =>
    match c.peek with
    | none => some (g, c)
    | some x =>
      if isBlank x then
        if g.broken && x == 0x09 && tabLimit.any (c.column < ·) then none
        else if g.broken then gap tabLimit fuel g c.skip
        else gap tabLimit fuel { g with blanks := g.blanks ++ Utf8.encode x } c.skip
      else if isBreak x then
        let (b, c) := c.readBreak
        if g.broken then gap tabLimit fuel { g with more := g.more ++ b } c
        else gap tabLimit fuel { g with blanks := [], first := b, broken := true } c
      else some (g, c)

private def endsPlain (flow : Nat) (c : Cursor) : Bool :=
  match c.peek with
  | none => true
  | some x =>
    (x == 0x3a && c.atBlankOrEnd 1) ||
      (0 < flow && (x == 0x2c || x == 0x3f || x == 0x5b || x == 0x5d || x == 0x7b || x == 0x7d))

private def ofPieces (pieces : List Bytes) : Bytes := pieces.reverse.flatten

private def here (c : Cursor) : Bytes := Utf8.encode (c.peek.getD 0)

private def plainRun (flow : Nat) : Nat → List Bytes → Cursor → Bytes × Cursor
  | 0, acc, c => (ofPieces acc, c)
  | fuel + 1, acc, c =>
    if c.atBlankOrEnd || endsPlain flow c then (ofPieces acc, c)
    else plainRun flow fuel (here c :: acc) c.skip

private def plainLoop (flow : Nat) (indent : Int) : Nat → List Bytes → Gap → Cursor →
    Option (Bytes × Bool × Cursor)
  | 0, _, _, _ => none
  | fuel + 1, acc, g, c =>
    if c.atDocumentMark || c.is 0x23 then some (ofPieces acc, g.broken, c)
    else
      let (run, c') := plainRun flow (c.bound + 1) [] c
      let (acc, g) := if run.isEmpty then (acc, g) else (run :: g.text :: acc, {})
      if !(c'.atBlank || c'.atBreak) then some (ofPieces acc, g.broken, c')
      else
        match gap (some indent.toNat) (c'.bound + 1) g c' with
        | none => none
        | some (g, c) =>
          if flow == 0 && (c.column : Int) < indent then some (ofPieces acc, g.broken, c)
          else plainLoop flow indent fuel acc g c

/-- A plain scalar; also whether it was left after a line break. -/
def scanPlain (flow : Nat) (parentIndent : Int) (c : Cursor) : Option (Bytes × Bool × Cursor) :=
  plainLoop flow (parentIndent + 1) (c.bound + 1) [] {} c

private def escapeCode? (x : Nat) : Option Nat :=
  if x == 0x30 then some 0 else if x == 0x61 then some 7 else if x == 0x62 then some 8
  else if x == 0x74 || x == 0x09 then some 9 else if x == 0x6e then some 0x0a
  else if x == 0x76 then some 0x0b else if x == 0x66 then some 0x0c
  else if x == 0x72 then some 0x0d else if x == 0x65 then some 0x1b
  else if x == 0x20 || x == 0x22 || x == 0x27 || x == 0x5c then some x
  else if x == 0x4e then some 0x85 else if x == 0x5f then some 0xa0
  else if x == 0x4c then some 0x2028 else if x == 0x50 then some 0x2029
  else none

private def hexValue? (xs : List Nat) : Option Nat :=
  xs.foldl (fun acc x => do
    let n ← acc
    let d ← if 0x30 ≤ x && x ≤ 0x39 then some (x - 0x30)
      else if 0x41 ≤ x && x ≤ 0x46 then some (x - 0x37)
      else if 0x61 ≤ x && x ≤ 0x66 then some (x - 0x57)
      else none
    return n * 16 + d) (some 0)

private def escaped? (c : Cursor) : Option (Bytes × Cursor) := do
  let x ← c.peek
  match escapeCode? x with
  | some code => some (Utf8.encode code, c.skip)
  | none =>
    let width := if x == 0x78 then 2 else if x == 0x75 then 4 else if x == 0x55 then 8 else 0
    let digits := (c.rest.drop 1).take width
    if width == 0 || digits.length != width then none
    else
      let v ← hexValue? digits
      if Utf8.isScalar v then some (Utf8.encode v, c.skip (width + 1)) else none

private def quotedRun (single : Bool) : Nat → List Bytes → Cursor → Option (Bytes × Bool × Cursor)
  | 0, _, _ => none
  | fuel + 1, acc, c =>
    if c.atBlankOrEnd then some (ofPieces acc, false, c)
    else if single then
      if c.is 0x27 then
        if c.is 0x27 1 then quotedRun single fuel ([0x27] :: acc) (c.skip 2)
        else some (ofPieces acc, false, c)
      else quotedRun single fuel (here c :: acc) c.skip
    else if c.is 0x22 then some (ofPieces acc, false, c)
    else if c.is 0x5c then
      if c.skip.atBreak then some (ofPieces acc, true, c.skip.readBreak.2)
      else match escaped? c.skip with
        | some (b, c) => quotedRun single fuel (b :: acc) c
        | none => none
    else quotedRun single fuel (here c :: acc) c.skip

private def quotedLoop (single : Bool) : Nat → List Bytes → Cursor → Option (Bytes × Cursor)
  | 0, _, _ => none
  | fuel + 1, acc, c =>
    if c.atDocumentMark || c.peek.isNone then none
    else
      match quotedRun single (c.bound + 1) [] c with
      | none => none
      | some (run, broken, c) =>
        let acc := run :: acc
        if c.is (if single then 0x27 else 0x22) then some (ofPieces acc, c.skip)
        else
          match gap none (c.bound + 1) { broken } c with
          | none => none
          | some (g, c) => quotedLoop single fuel (g.text :: acc) c

/-- A quoted scalar, given the cursor at its opening quote. -/
def scanQuoted (single : Bool) (c : Cursor) : Option (Bytes × Cursor) :=
  quotedLoop single (c.bound + 1) [] c.skip

/-- What becomes of the line breaks at the end of a block scalar. -/
inductive Chomping where
  | strip | clip | keep
  deriving Repr, DecidableEq, Inhabited

private def chompMark? (c : Cursor) : Option Chomping :=
  if c.is 0x2b then some .keep else if c.is 0x2d then some .strip else none

private def indentMark? (c : Cursor) : Option Nat :=
  match c.peek with
  | some x => if 0x30 ≤ x && x ≤ 0x39 then some (x - 0x30) else none
  | none => none

private def blockHeader (c : Cursor) : Option (Chomping × Option Nat × Cursor) :=
  let check (ch : Chomping) (n : Option Nat) (c : Cursor) :=
    if n == some 0 then none else some (ch, n, c)
  match chompMark? c with
  | some ch =>
    match indentMark? c.skip with
    | some n => check ch (some n) (c.skip 2)
    | none => check ch none c.skip
  | none =>
    match indentMark? c with
    | some n =>
      match chompMark? c.skip with
      | some ch => check ch (some n) (c.skip 2)
      | none => check .clip (some n) c.skip
    | none => check .clip none c

private def skipWhile (p : Nat → Bool) : Nat → Cursor → Cursor
  | 0, c => c
  | fuel + 1, c => if c.peek.any p then skipWhile p fuel c.skip else c

def Cursor.skipBlanks (c : Cursor) : Cursor := skipWhile isBlank c.bound c

/-- Skips a comment up to the line break. -/
def Cursor.skipComment (c : Cursor) : Cursor :=
  if c.is 0x23 then skipWhile (!isBreak ·) c.bound c else c

-- Indentation and empty lines. Without a known indentation the widest one met is kept.
private def blockBreaks (indent : Option Nat) : Nat → Nat → Bytes → Cursor → Option (Nat × Bytes × Cursor)
  | 0, _, _, _ => none
  | fuel + 1, widest, acc, c =>
    let open_ := indent.all (c.column < ·)
    if open_ && c.is 0x20 then blockBreaks indent fuel widest acc c.skip
    else
      let widest := max widest c.column
      if open_ && c.is 0x09 then none
      else if c.atBreak then
        let (b, c) := c.readBreak
        blockBreaks indent fuel widest (acc ++ b) c
      else some (widest, acc, c)

private def lineText : Nat → List Bytes → Cursor → Bytes × Cursor
  | 0, acc, c => (ofPieces acc, c)
  | fuel + 1, acc, c =>
    if c.atBreakOrEnd then (ofPieces acc, c) else lineText fuel (here c :: acc) c.skip

private def blockLoop (folded : Bool) (indent : Nat) : Nat → List Bytes → Bool → Bytes → Bytes → Cursor →
    Option (Bytes × Bytes × Bytes × Cursor)
  | 0, _, _, _, _, _ => none
  | fuel + 1, acc, leadingBlank, leading, trailing, c =>
    if c.column != indent || c.peek.isNone then some (ofPieces acc, leading, trailing, c)
    else
      let blank := c.atBlank
      let acc :=
        if folded && !leadingBlank && !blank && leading.head? == some 0x0a then
          if trailing.isEmpty then [0x20] :: acc else acc
        else leading :: acc
      let acc := trailing :: acc
      let (line, c) := lineText (c.bound + 1) [] c
      let (leading, c) := c.readBreak
      match blockBreaks (some indent) (c.bound + 1) 0 [] c with
      | none => none
      | some (_, trailing, c) => blockLoop folded indent fuel (line :: acc) blank leading trailing c

/-- A block scalar, given the cursor at its indicator. -/
def scanBlock (folded : Bool) (parentIndent : Int) (c : Cursor) : Option (Bytes × Cursor) := do
  let (chomping, increment, c) ← blockHeader c.skip
  let c := c.skipBlanks.skipComment
  if !c.atBreakOrEnd then none
  else
    let c := c.readBreak.2
    let known := increment.map fun n => if 0 ≤ parentIndent then parentIndent.toNat + n else n
    let (widest, trailing, c) ← blockBreaks known (c.bound + 1) 0 [] c
    let indent := known.getD (max (max widest (parentIndent + 1).toNat) 1)
    let (acc, leading, trailing, c) ←
      blockLoop folded indent (c.bound + 1) [] false [] trailing c
    some (match chomping with
      | .strip => acc
      | .clip => acc ++ leading
      | .keep => acc ++ leading ++ trailing, c)

end LineStore.Yaml
