import LineStore.Text.Sequence
import LineStore.Text.Space
import LineStore.Text.Terminal
/-!
# Wrapping text

Lines are filled word by word up to a limit; a word that is too long is cut.  A style or a link that is
on at the end of a line is ended there and set again on the next, so that lines can be shown apart.
-/
namespace LineStore.Terminal

-- A line being filled: what is written, the blanks after it, and the word after those, each as
-- pieces with the last one first. The style and link read last are those of the word; those of what
-- is written are kept apart.
private structure Filling where
  out : List Bytes := []
  column : Nat := 0
  space : List Bytes := []
  spaceWidth : Nat := 0
  word : List Bytes := []
  wordWidth : Nat := 0
  style : Style := {}
  link : Link := {}
  written : Style × Link := ({}, {})

namespace Filling

private def dropSpace (f : Filling) : Filling := { f with space := [], spaceWidth := 0 }

private def addSpace (f : Filling) : Filling :=
  { f with out := f.space ++ f.out, column := f.column + f.spaceWidth, space := [], spaceWidth := 0 }

private def addWord (f : Filling) : Filling :=
  if f.word.isEmpty then f
  else
    let f := f.addSpace
    { f with
      out := f.word ++ f.out, column := f.column + f.wordWidth, word := [], wordWidth := 0
      written := (f.style, f.link) }

private def addNewline (f : Filling) : Filling :=
  let (style, link) := f.written
  let off := (if style.isPlain then [] else Style.plainSequence) ++
    (if link.isNone then [] else Link.sequence {})
  let on := (if link.isNone then [] else link.sequence) ++ (if style.isPlain then [] else style.sequence)
  { f.dropSpace with out := (off ++ [0x0a] ++ on) :: f.out, column := 0 }

private def endBlanks (limit : Nat) (f : Filling) : Filling :=
  if f.wordWidth == 0 then
    if limit < f.column + f.spaceWidth then { f.dropSpace with column := 0 }
    else { f.dropSpace with out := f.space ++ f.out }
  else f

private def endLine (limit : Nat) (f : Filling) : Filling := ((f.endBlanks limit).addWord).addNewline

private def finish (limit : Nat) (f : Filling) : Bytes :=
  let f := (f.endBlanks limit).addWord
  let (style, link) := f.written
  f.out.reverse.flatten ++ (if link.isNone then [] else Link.sequence {}) ++
    (if style.isPlain then [] else Style.plainSequence)

private def put (f : Filling) (b : Bytes) (w : Nat) : Filling :=
  { f with word := b :: f.word, wordWidth := f.wordWidth + w }

private def overflow (limit : Nat) (f : Filling) : Filling :=
  if limit < f.column + f.wordWidth + f.spaceWidth then f.addNewline else f

private def putCut (limit : Nat) (f : Filling) (b : Bytes) (w : Nat) : Filling :=
  let f := if limit < f.wordWidth + w then f.addWord else f
  (f.put b w).overflow limit

private def blank (f : Filling) (b : Bytes) (w : Nat) : Filling :=
  let f := f.addWord
  { f with space := b :: f.space, spaceWidth := f.spaceWidth + w }

private def hyphen (f : Filling) : Filling :=
  let f := f.addWord
  { f with out := [0x2d] :: f.out, column := f.column + 1 }

end Filling

private def isBreakingSpace (c : Nat) : Bool := Space.isSpace c && c != 0xa0

private def measureStep (limit : Nat) (f : Filling) (p : Piece) : Filling :=
  match p with
  | .cluster rs w =>
    let c := (rs.head?.map Rune.code).getD 0
    if c != Utf8.replacement && isBreakingSpace c then f.blank (Utf8.encode c) w
    else f.putCut limit p.bytes w
  | .byte b .other => f.put [b] 0
  | .byte b _ =>
    if b == 0x0a then f.endLine limit
    else if Space.isSpace b.toNat then f.blank [b] 1
    else if b == 0x2d then
      let f := f.addSpace
      if limit ≤ f.column + f.wordWidth then f.put [b] 1 else f.hyphen
    else
      let f := if f.column == limit then f.addNewline else f
      let f := f.put [b] 1
      let f := if f.wordWidth == limit then f.addWord else f
      f.overflow limit

/-- How many lines a line takes when wrapped to `limit` columns, counting a control character as one
column. -/
def wrappedLines (limit : Nat) (s : Bytes) : Nat :=
  if limit < 1 then 1
  else
    let f := (pieces s).foldl (measureStep limit) {}
    1 + (f.finish limit).count 0x0a

private def wrapStep (limit : Nat) (f : Filling) (s : Sequence) : Filling :=
  match s with
  | .control [0x09] => f.blank [0x09] 1
  | .control [0x0a] => f.endLine limit
  | .control b => f.put b 0
  | .style b params => { f.put b 0 with style := f.style.read params }
  | .link b link => { f.put b 0 with link := link }
  | .glyph [0x20] w =>
    if f.style.hidesBlanks then f.blank [0x20] w else f.putCut limit [0x20] w
  | .glyph [0x2d] w =>
    let f := f.addSpace
    if f.column + f.wordWidth + w ≤ limit then f.hyphen else f.putCut limit [0x2d] w
  | .glyph b w => f.putCut limit b w

/-- Wraps a text to `limit` columns at blanks, and inside words that are too long. -/
def wrap (limit : Nat) (s : Bytes) : Bytes :=
  if limit < 1 then s
  else ((Sequence.split s).foldl (wrapStep limit) {}).finish limit

end LineStore.Terminal
