import LineStore.Data.Value
import LineStore.Number.Format
import LineStore.Number.Read
import LineStore.Text.Case
/-!
# Parts of a JSON document

A forgiving reader: a part is recognised by its first byte and reaches as far as it can, and what makes
no sense is skipped.  Nothing is ever refused.
-/
namespace LineStore.Json

inductive Kind where
  | null | false | true | number | text | composite
  deriving Repr, DecidableEq, Inhabited

/-- A part of a document: its raw bytes, and what they stand for when they are text or a number. -/
structure Part where
  kind : Kind := .null
  raw : Bytes := []
  text : Bytes := []
  number : Number := .zero
  deriving Repr, Inhabited

/-- A missing part has no bytes at all; a `null` that is written out has. -/
def Part.exists (p : Part) : Bool := p.kind != .null || !p.raw.isEmpty

private def hex4 (s : Bytes) : Nat := (Int64.digits? 16 s).getD 0

private def isSurrogate (c : Nat) : Bool := 0xd800 ≤ c && c < 0xe000

-- A pair of surrogates is one character; any other surrogate is no character.
private def surrogatePair (hi lo : Nat) : Nat :=
  if 0xd800 ≤ hi ∧ hi < 0xdc00 ∧ 0xdc00 ≤ lo ∧ lo < 0xe000 then
    0x10000 + (hi - 0xd800) * 1024 + (lo - 0xdc00)
  else Utf8.replacement

private def simpleEscape? (b : UInt8) : Option UInt8 :=
  if b = 0x5c ∨ b = 0x2f ∨ b = 0x22 then some b
  else if b = 0x62 then some 0x08
  else if b = 0x66 then some 0x0c
  else if b = 0x6e then some 0x0a
  else if b = 0x72 then some 0x0d
  else if b = 0x74 then some 0x09
  else none

private def unescapeFuel : Nat → Bytes → Bytes
  | 0, _ => []
  | _, [] => []
  | n + 1, b :: s =>
    if b < 0x20 then []
    else if b != 0x5c then b :: unescapeFuel n s
    else match s with
      | [] => []
      | e :: s =>
        match simpleEscape? e with
        | some c => c :: unescapeFuel n s
        | none =>
          if e != 0x75 ∨ s.length < 4 then []
          else
            let c := hex4 (s.take 4)
            let rest := s.drop 4
            if isSurrogate c then
              match rest with
              | 0x5c :: 0x75 :: more =>
                if 4 ≤ more.length then
                  Utf8.encode (surrogatePair c (hex4 (more.take 4))) ++
                    unescapeFuel n (more.drop 4)
                else Utf8.encode c ++ unescapeFuel n rest
              | _ => Utf8.encode c ++ unescapeFuel n rest
            else Utf8.encode c ++ unescapeFuel n rest

/-- Resolves the escapes of a string body; it ends early at a control character or a bad escape. -/
def unescape (s : Bytes) : Bytes := unescapeFuel s.length s

private def stringBodyLoop : Nat → Bool → Bytes → Nat × Bool × Bool
  | n, escaped, [] => (n, escaped, false)
  | n, escaped, b :: s =>
    if b = 0x22 then (n, escaped, true)
    else if b = 0x5c then
      match s with
      | [] => (n + 1, true, false)
      | _ :: s' => stringBodyLoop (n + 2) true s'
    else stringBodyLoop (n + 1) escaped s

/-- The body of a string up to its closing quote: its length, whether it has escapes, and whether
the quote was found. -/
def stringBody (s : Bytes) : Nat × Bool × Bool := stringBodyLoop 0 false s

/-- A string, given the bytes after its opening quote.  Without a closing quote it takes all. -/
def stringPart (s : Bytes) : Part :=
  let (n, escaped, closed) := stringBody s
  let body := s.take n
  { kind := .text
    raw := 0x22 :: (if closed then s.take (n + 1) else s)
    text := if escaped then unescape body else body }

/-- The value of a raw numeral; zero if it is none. -/
def numberOf (raw : Bytes) : Number := (Number.read? raw).getD .zero

private def endsNumber (b : UInt8) : Bool := b ≤ 0x20 || b == 0x2c || b == 0x5d || b == 0x7d

/-- A number reaches to the next white space, comma or closing bracket. -/
def numberPart (s : Bytes) : Part :=
  let raw := s.take 1 ++ (s.drop 1).takeWhile (!endsNumber ·)
  { kind := .number, raw, number := numberOf raw }

/-- A word of lower-case letters. -/
def literalPart (kind : Kind) (s : Bytes) : Part :=
  { kind, raw := s.take 1 ++ (s.drop 1).takeWhile Bytes.isLower }

private inductive Place where
  /-- Inside a text, perhaps right after a backslash. -/
  | text (escaped : Bool)
  | outside

private def balancedLength : Nat → Place → Nat → Bytes → Nat
  | n, _, _, [] => n
  | n, .text true, depth, _ :: s => balancedLength (n + 1) (.text false) depth s
  | n, .text false, depth, b :: s =>
    balancedLength (n + 1) (if b = 0x22 then .outside else .text (b == 0x5c)) depth s
  | n, .outside, depth, b :: s =>
    if b = 0x22 then balancedLength (n + 1) (.text false) depth s
    else if b = 0x7b ∨ b = 0x5b ∨ b = 0x28 then balancedLength (n + 1) .outside (depth + 1) s
    else if b = 0x7d ∨ b = 0x5d ∨ b = 0x29 then
      if depth ≤ 1 then n + 1 else balancedLength (n + 1) .outside (depth - 1) s
    else balancedLength (n + 1) .outside depth s

/-- The bytes up to the bracket that closes the first one, whatever byte that is; a quote reaches to the
next.  Without an end it is all. -/
def balanced (s : Bytes) : Bytes :=
  if s.head? = some 0x22 then (stringPart (s.drop 1)).raw
  else s.take (balancedLength 1 .outside 1 (s.drop 1))

/-- An object or a list, up to the bracket that closes its first byte. -/
def compositePart (s : Bytes) : Part := { kind := .composite, raw := balanced s }

private def startsNumber (b : UInt8) : Bool :=
  Bytes.isDigit b || b == 0x2b || b == 0x2d || b == 0x69 || b == 0x49 || b == 0x4e

/-- Can a part start with the byte? -/
def startsPart (b : UInt8) : Bool :=
  b == 0x22 || b == 0x7b || b == 0x5b || b == 0x6e || b == 0x74 || b == 0x66 || startsNumber b

/-- The part that starts at the first byte, if that byte starts one.  An `n` that no `u` follows is
taken for a number. -/
def partAt? (s : Bytes) : Option Part :=
  match s with
  | [] => none
  | b :: rest =>
    if b = 0x22 then some (stringPart rest)
    else if b = 0x7b ∨ b = 0x5b then some (compositePart s)
    else if b = 0x6e then
      match rest with
      | c :: _ => some (if c = 0x75 then literalPart .null s else numberPart s)
      | [] => some (literalPart .null s)
    else if b = 0x74 then some (literalPart .true s)
    else if b = 0x66 then some (literalPart .false s)
    else if startsNumber b then some (numberPart s)
    else none

/-- The whole of a document: its first part.  An object or a list keeps everything after it. -/
def parse (s : Bytes) : Part :=
  let s := s.dropWhile (· ≤ 0x20)
  match s with
  | [] => {}
  | b :: _ =>
    if b = 0x7b ∨ b = 0x5b then { kind := .composite, raw := s }
    else (partAt? s).getD {}

-- A member of a composite: here an `n` is always `null` and a number starts with a digit or a minus
-- sign.
private def memberAt? (s : Bytes) : Option Part :=
  match s with
  | [] => none
  | b :: _ =>
    if b = 0x6e then some (literalPart .null s)
    else if Bytes.isDigit b ∨ b = 0x2d then some (numberPart s)
    else if startsNumber b then none
    else partAt? s

private def membersFuel : Nat → Bytes → List Part
  | 0, _ => []
  | _, [] => []
  | fuel + 1, b :: s =>
    if b = 0x5d ∨ b = 0x7d then []
    else match memberAt? (b :: s) with
      | some p => p :: membersFuel fuel ((b :: s).drop p.raw.length)
      | none => membersFuel fuel s

/-- The members between the brackets of a composite; keys and values alike for an object. -/
def Part.members (p : Part) : List Part := membersFuel p.raw.length (p.raw.drop 1)

def Part.isList (p : Part) : Bool := p.kind == .composite && p.raw.head? == some 0x5b

def Part.isObject (p : Part) : Bool := p.kind == .composite && p.raw.head? == some 0x7b

/-- A string that never ends is no part for a search. -/
def Part.isClosed (p : Part) : Bool := p.kind != .text || (stringBody (p.raw.drop 1)).2.2

/-- The next part of a text and what comes after it. -/
def nextPart? (s : Bytes) : Option (Part × Bytes) := do
  let s := s.dropWhile (!startsPart ·)
  let p ← partAt? s
  if p.isClosed then some (p, s.drop p.raw.length) else none

private def isFiller (b : UInt8) : Bool := b ≤ 0x20 || b == 0x2c || b == 0x3a

private def entriesFuel (isObject : Bool) : Nat → Bytes → List (Part × Part)
  | 0, _ => []
  | _, [] => []
  | fuel + 1, s =>
    let key? : Option (Part × Bytes) :=
      if !isObject then some ({}, s)
      else match s.dropWhile (· != 0x22) with
        | [] => none
        | _ :: r =>
          let k := stringPart r
          if k.isClosed then some (k, r.drop (k.raw.length - 1)) else none
    match key? with
    | none => []
    | some (key, s) =>
      match nextPart? (s.dropWhile isFiller) with
      | none => []
      | some (p, rest) => (key, p) :: entriesFuel isObject fuel (rest.drop 1)

/-- Keys and values in turn.  One byte after each value is taken for the comma, and the end of a
composite is only where its bytes end.  A list has no keys, and a part that holds no others counts as its
only value. -/
def Part.entries (p : Part) : List (Part × Part) :=
  if !p.exists then []
  else if p.kind != .composite then [({}, p)]
  else entriesFuel p.isObject p.raw.length (p.raw.drop 1)

/-- Everyday text of a part: a numeral of digits stays as it is written. -/
def Part.display (p : Part) : Bytes :=
  match p.kind with
  | .null => []
  | .false => utf8 "false"
  | .true => utf8 "true"
  | .text => p.text
  | .composite => p.raw
  | .number =>
    if (Bytes.trimStart [0x2d] p.raw).all Bytes.isDigit then p.raw else p.number.plain

/-- Words and numbers that count as true or false. -/
def Part.truth? (p : Part) : Option Bool :=
  match p.kind with
  | .true => some true
  | .false => some false
  | .null | .composite => none
  | .number => some (!p.number.isZero)
  | .text =>
    let word := Case.lower p.text
    if [utf8 "1", utf8 "t", utf8 "true"].contains word then some true
    else if [utf8 "0", utf8 "f", utf8 "false"].contains word then some false
    else none

/-- The rows of a document: the members of a list, nothing for no value, and else the part alone. -/
def Part.rows (p : Part) : List Part :=
  if p.kind = .null then [] else if p.isList then p.members else [p]

private def pairs : List Part → List (Bytes × Part)
  | k :: v :: rest => (k.text, v) :: pairs rest
  | _ => []

private def keepFirst : List Bytes → List (Bytes × Part) → List (Bytes × Part)
  | _, [] => []
  | seen, (k, v) :: rest =>
    if seen.elem k then keepFirst seen rest else (k, v) :: keepFirst (k :: seen) rest

private def valueFuel : Nat → Part → Value
  | 0, _ => .null
  | fuel + 1, p =>
    match p.kind with
    | .null => .null
    | .false => .bool false
    | .true => .bool true
    | .number => .number p.number
    | .text => .text p.text
    | .composite =>
      if p.isList then .list (p.members.map (valueFuel fuel))
      else .object ((keepFirst [] (pairs p.members)).map fun (k, v) => (k, valueFuel fuel v))

/-- The value of a part.  Of several fields with one name the first counts. -/
def Part.value (p : Part) : Value := valueFuel (p.raw.length + 1) p

end LineStore.Json
