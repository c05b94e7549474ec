import LineStore.Data.StableSort
import LineStore.Json.Part
/-!
# Laying out a document

`compact` leaves out white space between tokens.  `Layout.write` puts every member on a line of its own,
indented by its depth; a list without objects stays on one line if it fits.
-/
namespace LineStore.Json

private def compactLoop : Bool → Bool → Bytes → Bytes
  | _, _, [] => []
  | false, _, b :: s =>
    if b ≤ 0x20 then compactLoop false false s else b :: compactLoop (b == 0x22) false s
  | true, true, b :: s => b :: compactLoop true false s
  | true, false, b :: s => b :: compactLoop (b != 0x22) (b == 0x5c) s

def compact (s : Bytes) : Bytes := compactLoop false false s

structure Layout where
  /-- Columns a list on one line may take; none at all if not positive. -/
  width : Int := 80
  /-- Stands before every line. -/
  lead : Bytes := []
  indent : Bytes := utf8 "  "
  /-- Fields are put in the order of their names. -/
  sorted : Bool := false
  deriving Repr, Inhabited

namespace Layout

private def margin (l : Layout) (depth : Nat) : Bytes := l.lead ++ l.indent.times depth

private def startsNumeral (s : Bytes) : Bool :=
  match s with
  | [] => false
  | b :: rest =>
    Bytes.isDigit b || b == 0x2d || b == 0x2b || b == 0x69 || b == 0x49 || b == 0x4e ||
      (b == 0x6e && rest.head?.any (· != 0x75))

private def endsNumeral (b : UInt8) : Bool :=
  b ≤ 0x20 || b == 0x2c || b == 0x3a || b == 0x5d || b == 0x7d

private def scalar? (s : Bytes) : Option (Bytes × Bytes) :=
  match s with
  | [] => none
  | b :: rest =>
    if b == 0x22 then
      let raw := (stringPart rest).raw
      some (raw, s.drop raw.length)
    else if startsNumeral s then
      let raw := b :: rest.takeWhile (!endsNumeral ·)
      some (raw, s.drop raw.length)
    else if b == 0x74 then some (utf8 "true", s.drop 4)
    else if b == 0x66 then some (utf8 "false", s.drop 5)
    else if b == 0x6e then some (utf8 "null", s.drop 4)
    else none

private def dropBlanks (s : Bytes) : Bytes := s.dropWhile (· ≤ 0x20)

private def lineItems : Nat → Bool → Bytes → Option (Bytes × Bytes)
  | 0, _, _ => none
  | fuel + 1, first, s =>
    match dropBlanks s with
    | [] => some ([], [])
    | 0x5d :: rest => some ([0x5d], rest)
    | s => do
      let (item, rest) ← lineValue fuel s
      let (more, rest) ← lineItems fuel false rest
      return ((if first then [] else utf8 ", ") ++ item ++ more, rest)
where
  lineValue : Nat → Bytes → Option (Bytes × Bytes)
    | 0, _ => none
    | _, [] => some ([], [])
    | fuel + 1, b :: s =>
      match scalar? (b :: s) with
      | some r => some r
      | none =>
        if b == 0x7b then none
        else if b == 0x5b then do
          let (items, rest) ← lineItems fuel true s
          return (b :: items, rest)
        else lineValue fuel s

private def fieldName (key : Bytes) : Bytes := (stringPart (key.drop 1)).text

mutual
private def value (l : Layout) : Nat → Nat → Nat → Bytes → Bytes × Bytes
  | 0, _, _, _ => ([], [])
  | _, _, _, [] => ([], [])
  | fuel + 1, depth, column, b :: s =>
    match scalar? (b :: s) with
    | some r => r
    | none =>
      if b == 0x7b then
        let (parts, closed, rest) := fields l fuel depth s
        let parts := if l.sorted && closed then
          stableSort (fun a b => decide (fieldName a.1 < fieldName b.1)) parts else parts
        (block l b 0x7d depth closed (parts.map (·.2)), rest)
      else if b == 0x5b then
        let room := l.width - column
        match (if 0 < l.width ∧ 3 < room then lineItems fuel true s else none) with
        | some (line, rest) =>
          if (line.length + 1 : Int) ≤ room then (b :: line, rest) else list l fuel depth s
        | none => list l fuel depth s
      else value l fuel depth column s

private def list (l : Layout) : Nat → Nat → Bytes → Bytes × Bytes
  | 0, _, _ => ([], [])
  | fuel + 1, depth, s =>
    let (parts, closed, rest) := items l fuel depth true s
    (block l 0x5b 0x5d depth closed parts, rest)

private def items (l : Layout) : Nat → Nat → Bool → Bytes → List Bytes × Bool × Bytes
  | 0, _, _, _ => ([], false, [])
  | fuel + 1, depth, first, s =>
    match dropBlanks s with
    | [] => ([], false, [])
    | 0x5d :: rest => ([], true, rest)
    | s =>
      let margin := l.margin (depth + 1)
      let (item, rest) := value l fuel (depth + 1) (margin.length + if first then 1 else 0) s
      let (more, closed, rest) := items l fuel depth false rest
      ((margin ++ item) :: more, closed, rest)

private def fields (l : Layout) : Nat → Nat → Bytes → List (Bytes × Bytes) × Bool × Bytes
  | 0, _, _ => ([], false, [])
  | fuel + 1, depth, s =>
    match dropBlanks s with
    | [] => ([], false, [])
    | b :: s =>
      if b == 0x7d then ([], true, s)
      else if b == 0x22 then
        let key := (stringPart s).raw
        let start := l.margin (depth + 1) ++ key ++ utf8 ": "
        let (text, rest) := value l fuel (depth + 1) (start.length + 1) (s.drop (key.length - 1))
        let (more, closed, rest) := fields l fuel depth rest
        ((key, start ++ text) :: more, closed, rest)
      else fields l fuel depth s

private def block (l : Layout) (opening closing : UInt8) (depth : Nat) (closed : Bool)
    (lines : List Bytes) : Bytes :=
  let body := if lines.isEmpty then [] else [0x0a] ++ Bytes.join [0x2c, 0x0a] lines
  let foot := if !closed then [] else if lines.isEmpty then [closing]
    else [0x0a] ++ l.margin depth ++ [closing]
  [opening] ++ body ++ foot
end

/-- The document in lines, each ended. -/
def write (l : Layout) (s : Bytes) : Bytes :=
  let text := l.lead ++ (value l (2 * s.length + 2) 0 l.lead.length s).1
  if text.isEmpty then [] else text ++ [0x0a]

end Layout
end LineStore.Json
