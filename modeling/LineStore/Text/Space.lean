import LineStore.Text.Utf8
/-!
# White space

The characters with the Unicode property White_Space, trimming them off both ends, and the
words between them.
-/
namespace LineStore.Space

def isSpace (c : Nat) : Bool :=
  (0x09 ≤ c && c ≤ 0x0d) || c == 0x20 || c == 0x85 || c == 0xa0 || c == 0x1680 ||
  (0x2000 ≤ c && c ≤ 0x200a) || c == 0x2028 || c == 0x2029 || c == 0x202f || c == 0x205f ||
  c == 0x3000

private def dropSpace : List Rune → List Rune := List.dropWhile fun r => isSpace r.code

/-- `s` without white space at its ends. -/
def trim (s : Bytes) : Bytes :=
  (dropSpace (dropSpace (Utf8.runes s)).reverse).reverse.flatMap Rune.bytes

private def piecesBetween : List Rune → List Bytes
  | [] => [[]]
  | r :: rs =>
    if isSpace r.code then [] :: piecesBetween rs
    else match piecesBetween rs with
      | [] => [r.bytes]
      | p :: ps => (r.bytes ++ p) :: ps

/-- The words of `s`: what stands between white space. -/
def words (s : Bytes) : List Bytes := (piecesBetween (Utf8.runes s)).filter (!·.isEmpty)

end LineStore.Space
