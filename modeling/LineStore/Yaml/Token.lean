import LineStore.Text.Utf8
/-!
# Tokens of a YAML stream

The marks and scalars a stream is made of, and the cursor that walks over its characters.
-/
namespace LineStore.Yaml

inductive ScalarStyle where
  | plain | singleQuoted | doubleQuoted | literal | folded
  deriving Repr, DecidableEq, Inhabited

inductive Token where
  | streamStart
  | streamEnd
  | versionDirective (major minor : Nat)
  | tagDirective (handle start : Bytes)
  | documentStart
  | documentEnd
  | blockSequenceStart
  | blockMappingStart
  | blockEnd
  | flowSequenceStart
  | flowSequenceEnd
  | flowMappingStart
  | flowMappingEnd
  | blockEntry
  | flowEntry
  | key
  | value
  | alias (name : Bytes)
  | anchor (name : Bytes)
  | tag (handle suffix : Bytes)
  | scalar (text : Bytes) (style : ScalarStyle)
  deriving Repr, DecidableEq, Inhabited

def isBreak (x : Nat) : Bool :=
  x == 0x0d || x == 0x0a || x == 0x85 || x == 0x2028 || x == 0x2029

def isBlank (x : Nat) : Bool := x == 0x20 || x == 0x09

/-- The characters ahead, and where they stand. -/
structure Cursor where
  rest : List Nat
  /-- At least the number of characters ahead. -/
  bound : Nat := rest.length
  index : Nat := 0
  line : Nat := 0
  column : Nat := 0
  /-- Nothing but blanks since a line break. -/
  fresh : Bool := false
  deriving Repr, Inhabited

namespace Cursor

def peek (c : Cursor) (n : Nat := 0) : Option Nat := c.rest[n]?

/-- Moves over `n` characters of a line. -/
def skip (c : Cursor) (n : Nat := 1) : Cursor :=
  { c with
    rest := c.rest.drop n
    index := c.index + n
    column := c.column + n
    fresh := c.fresh && (c.rest.take n).all isBlank }

def is (c : Cursor) (x : Nat) (n : Nat := 0) : Bool := c.peek n == some x

end Cursor

/-- White space, a line break, or the end. -/
def Cursor.atBlankOrEnd (c : Cursor) (n : Nat := 0) : Bool :=
  match c.peek n with
  | none => true
  | some x => isBlank x || isBreak x

def Cursor.atBreak (c : Cursor) : Bool := c.peek.any isBreak

def Cursor.atBlank (c : Cursor) : Bool := c.peek.any isBlank

def Cursor.atBreakOrEnd (c : Cursor) : Bool := c.peek.isNone || c.atBreak

/-- The line break ahead as it is read, and the cursor after it.  All breaks but the two Unicode
separators are read as a newline. -/
def Cursor.readBreak (c : Cursor) : Bytes × Cursor :=
  let next (n : Nat) : Cursor :=
    { rest := c.rest.drop n, bound := c.bound, index := c.index + n, line := c.line + 1, column := 0, fresh := true }
  match c.rest with
  | 0x0d :: 0x0a :: _ => ([0x0a], next 2)
  | x :: _ =>
    if x == 0x0d || x == 0x0a || x == 0x85 then ([0x0a], next 1)
    else if x == 0x2028 || x == 0x2029 then (Utf8.encode x, next 1)
    else ([], c)
  | [] => ([], c)

/-- Moves over `n` characters, line breaks among them; a break of two characters counts once. -/
def Cursor.pass : Nat → Cursor → Cursor
  | 0, c => c
  | n + 1, c => pass n (if c.atBreak then c.readBreak.2 else c.skip)

/-- `---` or `...` at the start of a line, with nothing joined to it. -/
def Cursor.atDocumentMark (c : Cursor) : Bool :=
  c.column == 0 && c.atBlankOrEnd 3 &&
    ((c.is 0x2d 0 && c.is 0x2d 1 && c.is 0x2d 2) || (c.is 0x2e 0 && c.is 0x2e 1 && c.is 0x2e 2))

/-- Letters, digits, `_` and `-`: what names of anchors and tags are made of. -/
def isNameChar (x : Nat) : Bool :=
  (0x30 ≤ x && x ≤ 0x39) || (0x41 ≤ x && x ≤ 0x5a) || (0x61 ≤ x && x ≤ 0x7a) ||
    x == 0x5f || x == 0x2d

end LineStore.Yaml
