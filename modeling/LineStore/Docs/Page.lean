import LineStore.Text.Case
import LineStore.Text.Space
/-!
# Short pages

A page of examples is made from the Markdown document of a command: its title, the first paragraph of
its short description and the commands of its first block of quick examples.  Headings are found whatever
their case.
-/
namespace LineStore.Page

/-- The name of the program the documents are about. -/
def project : Bytes := utf8 "linecache"

/-- A command line and what it does. -/
structure Example where
  description : Bytes
  command : Bytes
  deriving Repr, DecidableEq, Inhabited

/-- The text of a page before it is written. -/
structure Content where
  title : Bytes
  short : Bytes
  examples : List Example
  deriving Repr, DecidableEq, Inhabited

/-- A heading was found past the end of the document: lower case can take more bytes. -/
inductive Error where
  | pastEnd
  deriving Repr, DecidableEq, Inhabited

/-- The document from a heading on.  The place is counted in the lower-case text. -/
def section? (heading : String) (md : Bytes) : Except Error (Option Bytes) :=
  match Bytes.indexOf? (utf8 heading) (Case.lower md) with
  | none => .ok none
  | some i => if i ≤ md.length then .ok (some (md.drop i)) else .error .pastEnd

/-- What follows the first line, if there is more than one. -/
def afterLine (s : Bytes) : Bytes :=
  match Bytes.cut? 0x0a s with
  | some (_, rest) => rest
  | none => s

private def isBlank (b : UInt8) : Bool :=
  b == 0x20 || b == 0x09 || b == 0x0a || b == 0x0c || b == 0x0d

-- The title that starts at a line, after a `#` and blanks; it may stand on a later line.
private def titleAt? : Bytes → Option Bytes
  | 0x23 :: b :: rest =>
    if isBlank b then some (Space.trim ((rest.dropWhile isBlank).takeWhile (· != 0x0a))) else none
  | _ => none

private def titleFrom : Bool → Bytes → Bytes
  | _, [] => []
  | atStart, b :: s =>
    match (if atStart then titleAt? (b :: s) else none) with
    | some t => t
    | none => titleFrom (b == 0x0a) s

/-- The first heading of the first level. -/
def title (md : Bytes) : Bytes := titleFrom true md

/-- The words of the first paragraph among some lines.  A heading or a line that ends in a colon ends
it. -/
def paragraph (started : Bool) : List Bytes → List Bytes
  | [] => []
  | l :: ls =>
    let line := Space.trim l
    if line.isEmpty then (if started then [] else paragraph false ls)
    else if line.head? = some 0x23 ∨ line.getLast? = some 0x3a then []
    else line :: paragraph true ls

/-- The first paragraph of the short description; without one, the title as a sentence. -/
def short (md : Bytes) : Except Error Bytes := do
  let text := match ← section? "short description" md with
    | some rest => Bytes.join [0x20] (paragraph false (Bytes.splitOn 0x0a (afterLine rest)))
    | none => []
  let title := title md
  return if text.isEmpty ∧ !title.isEmpty then title ++ [0x2e] else text

/-- Pairs the commands of a block with the comment before each. -/
def pairUp (description : Bytes) : List Bytes → List Example
  | [] => []
  | l :: ls =>
    let line := Space.trim l
    match line with
    | [] => pairUp description ls
    | 0x23 :: rest => pairUp (Space.trim rest) ls
    | _ =>
      ⟨if description.isEmpty then utf8 "Example" else description, line⟩ :: pairUp [] ls

private def fence : Bytes := [0x60, 0x60, 0x60]

/-- The text of the first fenced block. -/
def fenced? (s : Bytes) : Option Bytes := do
  let (_, rest) ← Bytes.cutAt? fence s
  let (block, _) ← Bytes.cutAt? fence (afterLine rest)
  return block

/-- The examples of a document. -/
def examples (md : Bytes) : Except Error (List Example) := do
  match ← section? "quick examples" md with
  | none => return []
  | some rest =>
    match fenced? rest with
    | none => return []
    | some block => return pairUp [] (Bytes.splitOn 0x0a block)

/-- What a page says, taken from a document. -/
def content (md : Bytes) : Except Error Content := do
  return ⟨title md, ← short md, ← examples md⟩

private def code (s : Bytes) : Bytes := [0x60] ++ s ++ utf8 "`\n"

private def item (e : Example) : Bytes :=
  utf8 "- " ++ Space.trim e.description ++ utf8 ":\n\n" ++
    code (Bytes.join [0x20] (Space.words e.command))

/-- Writes the page of a command. -/
def render (command : Bytes) (c : Content) : Bytes :=
  let summary :=
    if !c.short.isEmpty then c.short
    else if !c.title.isEmpty then c.title
    else project ++ [0x20] ++ command
  utf8 "# " ++ project ++ [0x2d] ++ command ++ utf8 "\n\n> " ++ summary ++ utf8 "\n" ++
    utf8 "> More information: https://github.com/staranto/linecache.\n\n" ++
    if c.examples.isEmpty then
      utf8 "- Show help for the command:\n\n" ++ code (project ++ [0x20] ++ command ++ utf8 " --help")
    else Bytes.join [0x0a] (c.examples.map item)

end LineStore.Page
