import LineStore.Text.Utf8
/-!
# The characters of a YAML stream

The first bytes of a stream tell how its characters are encoded.  A stream is read in blocks of 512 bytes; a
character that a block cuts goes to the next one.  A block with something that is no character, or with a
character that no stream may hold, cannot be read, and the stream breaks off before it.
-/
namespace LineStore.Yaml

inductive Encoding where
  | utf8
  /-- Units of 16 bits, each with its low byte or its high byte first. -/
  | units16 (lowFirst : Bool)
  deriving Repr, DecidableEq, Inhabited

structure Stream where
  codes : List Nat
  /-- Does the stream break off after these? -/
  broken : Bool
  deriving Repr, Inhabited

namespace Stream

/-- How many bytes a character takes whose first byte is `b`; none if no character starts so. -/
def widthOf (b : UInt8) : Nat :=
  if b < 0x80 then 1 else if b &&& 0xe0 == 0xc0 then 2 else if b &&& 0xf0 == 0xe0 then 3
  else if b &&& 0xf8 == 0xf0 then 4 else 0

/-- The characters a stream may hold. -/
def isAllowed (x : Nat) : Bool :=
  x == 0x09 || x == 0x0a || x == 0x0d || (0x20 ≤ x && x ≤ 0x7e) || x == 0x85 ||
    (0xa0 ≤ x && x ≤ 0xd7ff) || (0xe000 ≤ x && x ≤ 0xfffd) || 0x10000 ≤ x

private def unit (lowFirst : Bool) (a b : UInt8) : Nat :=
  if lowFirst then a.toNat + 256 * b.toNat else 256 * a.toNat + b.toNat

private def isHigh (u : Nat) : Bool := 0xd800 ≤ u && u ≤ 0xdbff

private def isLow (u : Nat) : Bool := 0xdc00 ≤ u && u ≤ 0xdfff

private def codes16 (lowFirst : Bool) : Bytes → Option (List Nat)
  | [] => some []
  | a :: b :: rest =>
    let u := unit lowFirst a b
    if isLow u then none
    else if isHigh u then
      match rest with
      | c :: d :: rest =>
        let v := unit lowFirst c d
        if isLow v then
          (codes16 lowFirst rest).map ((0x10000 + (u - 0xd800) * 1024 + (v - 0xdc00)) :: ·)
        else none
      | _ => none
    else (codes16 lowFirst rest).map (u :: ·)
  | [_] => none

private def decode (e : Encoding) (block : Bytes) : Option (List Nat) := do
  let codes ← match e with
    | .utf8 => if Utf8.isValid block then some (Utf8.codes block) else none
    | .units16 lowFirst => codes16 lowFirst block
  if codes.all isAllowed then some codes else none

private def cutBytes (e : Encoding) (block : Bytes) : Nat :=
  let byte (fromEnd : Nat) : UInt8 := block.getD (block.length - fromEnd) 0
  match e with
  | .utf8 => ([3, 2, 1].find? fun k => k ≤ block.length && k < widthOf (byte k)).getD 0
  | .units16 lowFirst =>
    let odd := block.length % 2
    if odd + 2 ≤ block.length && isHigh (unit lowFirst (byte (odd + 2)) (byte (odd + 1))) then odd + 2
    else odd

private def blockSize : Nat := 512

private def blocks (e : Encoding) : Nat → Nat → Bytes → Stream
  | 0, _, _ => ⟨[], true⟩
  | fuel + 1, size, s =>
    if s.isEmpty then ⟨[], false⟩
    else
      let block := s.take size
      let n := block.length - cutBytes e block
      if n = 0 then ⟨[], true⟩
      else match decode e (block.take n) with
        | none => ⟨[], true⟩
        | some codes =>
          let rest := blocks e fuel blockSize (s.drop n)
          ⟨codes ++ rest.codes, rest.broken⟩

/-- Reads a stream without the mark that tells its encoding. -/
def ofBytes (s : Bytes) : Stream :=
  let read (e : Encoding) (mark : Nat) : Stream :=
    blocks e (s.length + 1) (blockSize - mark) (s.drop mark)
  match s with
  | 0xff :: 0xfe :: _ => read (.units16 true) 2
  | 0xfe :: 0xff :: _ => read (.units16 false) 2
  | 0xef :: 0xbb :: 0xbf :: _ => read .utf8 3
  | _ => read .utf8 0

end Stream
end LineStore.Yaml
