import LineStore.Text.Grapheme
/-!
# Text on a terminal

Escape sequences and control characters take no columns.  A text is cut into pieces: bytes that are part
of a control or an escape sequence, and graphemes.  Measuring and cutting work on pieces.
-/
namespace LineStore.Terminal

/-- Where a byte stands in an escape sequence. -/
inductive Mode where
  | ground | escape | escapeIntermediate | csi | csiIntermediate | osc | string | dcs | dcsString
  deriving Repr, DecidableEq, Inhabited

inductive Action where
  | print | execute | other
  deriving Repr, DecidableEq, Inhabited

private def isC0 (b : UInt8) : Bool := b < 0x20 && b != 0x18 && b != 0x1a && b != 0x1b

private def anywhere? (b : UInt8) : Option (Mode × Action) :=
  if b == 0x18 || b == 0x1a then some (.ground, .execute)
  else if b == 0x1b then some (.escape, .other)
  else if b == 0x90 then some (.dcs, .other)
  else if b == 0x98 || b == 0x9e || b == 0x9f then some (.string, .other)
  else if b == 0x9b then some (.csi, .other)
  else if b == 0x9d then some (.osc, .other)
  else if 0x80 ≤ b && b ≤ 0x9f then some (.ground, .execute)
  else none

/-- The next mode and what the byte does. -/
def step (m : Mode) (b : UInt8) : Mode × Action :=
  match m with
  | .osc =>
    if b == 0x1b then (.escape, .other)
    else if b == 0x07 || b == 0x9c || b == 0x18 || b == 0x1a then (.ground, .other)
    else (.osc, .other)
  | .string | .dcsString =>
    if b == 0x1b then (.escape, .other)
    else if b == 0x9c || b == 0x18 || b == 0x1a then (.ground, .other)
    else (m, .other)
  | _ =>
    match anywhere? b with
    | some r => r
    | none =>
      match m with
      | .ground =>
        if isC0 b || b == 0x7f then (.ground, .execute)
        else if 0x20 ≤ b && b ≤ 0x7e then (.ground, .print)
        else (.ground, .other)
      | .escape =>
        if isC0 b then (.escape, .execute)
        else if 0x20 ≤ b && b ≤ 0x2f then (.escapeIntermediate, .other)
        else if b == 0x5b then (.csi, .other)
        else if b == 0x5d then (.osc, .other)
        else if b == 0x50 then (.dcs, .other)
        else if b == 0x58 || b == 0x5e || b == 0x5f then (.string, .other)
        else if 0x30 ≤ b && b ≤ 0x7e then (.ground, .other)
        else (.escape, .other)
      | .escapeIntermediate =>
        if isC0 b then (.escapeIntermediate, .execute)
        else if 0x30 ≤ b && b ≤ 0x7e then (.ground, .other)
        else (.escapeIntermediate, .other)
      | .csi =>
        if isC0 b then (.csi, .execute)
        else if 0x20 ≤ b && b ≤ 0x2f then (.csiIntermediate, .other)
        else if 0x40 ≤ b && b ≤ 0x7e then (.ground, .other)
        else (.csi, .other)
      | .csiIntermediate =>
        if isC0 b then (.csiIntermediate, .execute)
        else if 0x30 ≤ b && b ≤ 0x7e then (.ground, .other)
        else (.csiIntermediate, .other)
      | .dcs =>
        if 0x40 ≤ b && b ≤ 0x7e then (.dcsString, .other) else (.dcs, .other)
      | m => (m, .other)

/-- A byte outside or inside a sequence, or a grapheme of more than ASCII. -/
inductive Piece where
  | byte (b : UInt8) (action : Action)
  | cluster (runes : List Rune) (width : Nat)
  deriving Repr, Inhabited

def Piece.bytes : Piece → Bytes
  | byte b _ => [b]
  | cluster rs _ => rs.flatMap Rune.bytes

/-- Columns of a piece. -/
def Piece.width : Piece → Nat
  | byte _ .print => 1
  | byte _ _ => 0
  | cluster _ w => w

private def startsCluster (m : Mode) (b : UInt8) : Bool :=
  0xc2 ≤ b && b ≤ 0xf4 && m != .osc && m != .string && m != .dcsString

private def piecesFuel : Nat → Mode → List Rune → List Piece
  | 0, _, _ => []
  | _, _, [] => []
  | fuel + 1, m, r :: rs =>
    match r.bytes with
    | b :: more =>
      if startsCluster m b then
        let (n, w) := Grapheme.first (r :: rs)
        .cluster ((r :: rs).take n) w :: piecesFuel fuel .ground ((r :: rs).drop n)
      else
        -- The bytes of a character inside a string, or a single byte.
        let walk := (b :: more).foldl (fun (acc : Mode × List Piece) b =>
          let (m, a) := step acc.1 b
          (m, acc.2 ++ [.byte b a])) (m, [])
        walk.2 ++ piecesFuel fuel walk.1 rs
    | [] => piecesFuel fuel m rs

/-- The pieces of a text. -/
def pieces (s : Bytes) : List Piece :=
  let rs := Utf8.runes s
  piecesFuel rs.length .ground rs

/-- Columns of a line. -/
def width (s : Bytes) : Nat := ((pieces s).map Piece.width).foldl (· + ·) 0

/-- Columns of the widest line. -/
def blockWidth (s : Bytes) : Nat := ((Bytes.splitOn 0x0a s).map width).foldl max 0

private def truncateLoop (limit : Nat) : Nat → Bool → List Piece → Bytes
  | _, _, [] => []
  | used, full, p :: ps =>
    match p with
    | .cluster _ w =>
      if full || limit < used + w then truncateLoop limit used true ps
      else p.bytes ++ truncateLoop limit (used + w) false ps
    | .byte _ .print =>
      if full || used == limit then truncateLoop limit used true ps
      else p.bytes ++ truncateLoop limit (used + 1) false ps
    | .byte _ .execute =>
      if full then truncateLoop limit used true ps else p.bytes ++ truncateLoop limit used false ps
    | .byte _ .other => p.bytes ++ truncateLoop limit used full ps

/-- Cuts a line to `limit` columns; escape sequences stay. -/
def truncate (limit : Nat) (s : Bytes) : Bytes :=
  if width s ≤ limit then s else truncateLoop limit 0 false (pieces s)

end LineStore.Terminal
