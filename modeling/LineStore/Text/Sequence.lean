import LineStore.Text.Grapheme
import LineStore.Text.Style
/-!
# Escape sequences in a text

A text is a list of graphemes, control characters and whole escape sequences.  Those that set a style or
a link are told apart.  The pieces concatenate to the text.
-/
namespace LineStore

inductive Sequence where
  /-- Something shown, with the columns it takes. -/
  | glyph (bytes : Bytes) (width : Nat)
  /-- A control character, or an escape sequence of no interest. -/
  | control (bytes : Bytes)
  | style (bytes : Bytes) (params : List Parameter)
  | link (bytes : Bytes) (link : Link)
  deriving Repr, Inhabited

namespace Sequence

def bytes : Sequence → Bytes
  | glyph b _ => b
  | control b => b
  | style b _ => b
  | link b _ => b

private structure Input where
  tail : Bytes
  runes : List Rune

private def spanRunes (p : UInt8 → Bool) : List Rune → Bytes × Input
  | [] => ([], ⟨[], []⟩)
  | r :: rs =>
    match r.bytes.span p with
    | ([], _) => ([], ⟨[], r :: rs⟩)
    | (taken, []) =>
      let (more, rest) := spanRunes p rs
      (taken ++ more, rest)
    | (taken, left) => (taken, ⟨left, rs⟩)

private def Input.span (p : UInt8 → Bool) (i : Input) : Bytes × Input :=
  match i.tail.span p with
  | (taken, []) =>
    let (more, rest) := spanRunes p i.runes
    (taken ++ more, rest)
  | (taken, left) => (taken, ⟨left, i.runes⟩)

private def Input.next? : Input → Option (UInt8 × Input)
  | ⟨b :: tail, rs⟩ => some (b, ⟨tail, rs⟩)
  | ⟨[], r :: rs⟩ => r.bytes.head?.map fun b => (b, ⟨r.bytes.tail, rs⟩)
  | ⟨[], []⟩ => none

private def between (low high b : UInt8) : Bool := low ≤ b && b ≤ high

private def ofCommand (bytes body : Bytes) : Sequence :=
  match Bytes.splitOn 0x3b body with
  | [_, params, target] =>
    if Parameter.word (body.takeWhile (between 0x30 0x39)) = 8 then link bytes ⟨params, target⟩
    else control bytes
  | _ => control bytes

private def readString (lead : Bytes) (isCommand : Bool) (i : Input) : Sequence × Input :=
  let (body, i) := i.span fun b =>
    !(b == 0x18 || b == 0x1a || b == 0x1b || b == 0x9c || (isCommand && b == 0x07))
  let close (stop : Bytes) : Sequence :=
    let bytes := lead ++ body ++ stop
    if isCommand then ofCommand bytes body else control bytes
  match i.next? with
  | none => (close [], i)
  | some (0x1b, rest) =>
    match rest.next? with
    | some (0x5c, rest) => (close [0x1b, 0x5c], rest)
    | _ => (close [], i)
  | some (b, rest) => if b == 0x9c || b == 0x07 then (close [b], rest) else (close [], i)

-- Marks, parameters and intermediate bytes, and a final byte. Before any other byte the sequence
-- breaks off. One that is for a device goes on with a string.
private def readControl (lead : Bytes) (setsStyle forDevice : Bool) (i : Input) : Sequence × Input :=
  let (marks, i) := i.span (between 0x3c 0x3f)
  let (params, i) := i.span (between 0x30 0x3b)
  let (inner, i) := i.span (between 0x20 0x2f)
  let bytes := lead ++ marks ++ params ++ inner
  match i.next? with
  | none => (control bytes, i)
  | some (b, rest) =>
    if !between 0x40 0x7e b then (control bytes, i)
    else if forDevice then readString (bytes ++ [b]) false rest
    else if setsStyle && b == 0x6d && marks.isEmpty && inner.isEmpty then
      (style (bytes ++ [b]) (Parameter.read params), rest)
    else (control (bytes ++ [b]), rest)

private def readEscape (i : Input) : Sequence × Input :=
  let (inner, i) := i.span (between 0x20 0x2f)
  let bytes := 0x1b :: inner
  let direct := inner.isEmpty
  match i.next? with
  | none => (control bytes, i)
  | some (b, rest) =>
    if b == 0x5b || b == 0x50 then
      readControl (bytes ++ [b]) (direct && b == 0x5b) (direct && b == 0x50) rest
    else if b == 0x5d || b == 0x58 || b == 0x5e || b == 0x5f then
      readString (bytes ++ [b]) (direct && b == 0x5d) rest
    else if between 0x30 0x7e b then (control (bytes ++ [b]), rest)
    else (control bytes, i)

private def splitFuel : Nat → Input → List Sequence
  | 0, _ => []
  | fuel + 1, i =>
    match i.next? with
    | none => []
    | some (b, rest) =>
      let go : Sequence × Input → List Sequence := fun (s, rest) => s :: splitFuel fuel rest
      if b == 0x1b then go (readEscape rest)
      else if b == 0x9b then go (readControl [b] true false rest)
      else if b == 0x90 then go (readControl [b] false true rest)
      else if b == 0x9d then go (readString [b] true rest)
      else if b == 0x98 || b == 0x9e || b == 0x9f then go (readString [b] false rest)
      else if between 0x20 0x7e b then glyph [b] 1 :: splitFuel fuel rest
      else if b < 0xc0 then control [b] :: splitFuel fuel rest
      else
        let (n, width) := Grapheme.first i.runes
        let bytes := (i.runes.take n).flatMap Rune.bytes
        (if width = 0 then control bytes else glyph bytes width) ::
          splitFuel fuel ⟨[], i.runes.drop n⟩

/-- The pieces of a text. -/
def split (s : Bytes) : List Sequence := splitFuel s.length ⟨[], Utf8.runes s⟩

end Sequence
end LineStore
