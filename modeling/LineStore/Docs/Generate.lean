import LineStore.Docs.Page
import LineStore.File.Disk
/-!
# Generating documents

Every Markdown file of `docs/commands` gives a manual page and a page of examples.  A file that would
only change in white space at its ends can be left alone.
-/
namespace LineStore.Docs

/-- Why a tree of documents could not be made. -/
inductive Error where
  | creating (dir cause : Bytes)
  | listing (dir cause : Bytes)
  | reading (file cause : Bytes)
  | writingManual (command cause : Bytes)
  | writingPage (command cause : Bytes)
  | malformed (e : Page.Error)
  deriving Repr, DecidableEq, Inhabited

def Error.message : Error → Bytes
  | creating d why => utf8 "creating output dir " ++ d ++ utf8 ": " ++ why
  | listing d why => utf8 "reading commands dir " ++ d ++ utf8 ": " ++ why
  | reading f why => utf8 "reading " ++ f ++ utf8 ": " ++ why
  | writingManual c why => utf8 "writing man page for " ++ c ++ utf8 ": " ++ why
  | writingPage c why => utf8 "writing tldr page for " ++ c ++ utf8 ": " ++ why
  | malformed _ => utf8 "slice bounds out of range"

/-- A tree being written: the disk, and the paths written so far. -/
structure Tree where
  disk : Disk
  written : List Bytes := []

/-- How many documents were done, what stopped the work if anything did, and the tree. -/
structure Outcome where
  processed : Nat
  error : Option Error := none
  tree : Tree

/-- Where everything is below a root. -/
structure Layout where
  commands : Bytes
  manuals : Bytes
  pages : Bytes

def Layout.of (root : Bytes) : Layout where
  commands := Path.join [root, utf8 "docs/commands"]
  manuals := Path.join [root, utf8 "docs/man/share/man1"]
  pages := Path.join [root, utf8 "docs/tldr"]

/-- Relative roots are seen from the root directory. -/
def origin : Bytes := [Path.slash]

/-- Writes a file into a directory that exists. -/
def put (t : Tree) (path data : Bytes) : Except Bytes Tree :=
  match t.disk.writeFile origin path data with
  | .ok disk => .ok { disk, written := t.written ++ [path] }
  | .error e => .error (Disk.failureText (utf8 "open") path e)

/-- Writes a file, unless only white space at its ends would change and that is to be left alone. -/
def update (onlyIfChanged : Bool) (t : Tree) (path data : Bytes) : Except Bytes Tree :=
  if !onlyIfChanged then put t path data
  else match t.disk.readFile origin path with
    | .error (_, .notExist) => put t path data
    | .error (op, e) => .error (Disk.failureText op path e)
    | .ok old => if Space.trim old = Space.trim data then .ok t else put t path data

/-- The name of the file with the manual page of a document. -/
def manualName (name : Bytes) : Bytes :=
  Page.project ++ [0x2d] ++ Bytes.trimEnd (utf8 ".md") name ++ utf8 ".1"

/-- The name of the file with the page of examples of a document. -/
def pageName (name : Bytes) : Bytes :=
  Page.project ++ [0x2d] ++ Bytes.trimEnd (utf8 ".md") name ++ utf8 ".md"

/-- Writes both pages of a document. -/
def generateOne (manual : Bytes → Bytes) (onlyIfChanged : Bool) (l : Layout) (t : Tree)
    (name : Bytes) : Except Error Unit × Tree :=
  let command := Bytes.trimEnd (utf8 ".md") name
  let file := Path.join [l.commands, name]
  match t.disk.readFile origin file with
  | .error (op, e) => (.error (.reading file (Disk.failureText op file e)), t)
  | .ok md =>
    match update onlyIfChanged t (Path.join [l.manuals, manualName name]) (manual md) with
    | .error why => (.error (.writingManual command why), t)
    | .ok t =>
      match Page.content md with
      | .error e => (.error (.malformed e), t)
      | .ok c =>
        match update onlyIfChanged t (Path.join [l.pages, pageName name]) (Page.render command c) with
        | .error why => (.error (.writingPage command why), t)
        | .ok t => (.ok (), t)

/-- Works through documents in turn, up to the first that fails. -/
def generateAll (manual : Bytes → Bytes) (onlyIfChanged : Bool) (l : Layout) :
    List Bytes → Nat → Tree → Outcome
  | [], n, t => { processed := n, tree := t }
  | name :: names, n, t =>
    match generateOne manual onlyIfChanged l t name with
    | (.ok (), t) => generateAll manual onlyIfChanged l names (n + 1) t
    | (.error e, t) => { processed := n, error := some e, tree := t }

/-- Makes directories in turn, up to the first that cannot be made. -/
def makeDirs : List Bytes → Disk → Option Error × Disk
  | [], d => (none, d)
  | dir :: dirs, d =>
    match d.makeDirs origin dir with
    | (none, d) => makeDirs dirs d
    | (some p, d) =>
      (some (.creating dir (Disk.failureText (utf8 "mkdir") p .notDir)), d)

/-- The name of an entry that is a document. -/
def document? (e : Bytes × DiskNode) : Option Bytes :=
  if e.2 != .dir && Bytes.endsWith (utf8 ".md") e.1 then some e.1 else none

/-- The documents of a directory, in order. -/
def documents (d : Disk) (dir : Bytes) : Except Disk.Error (List Bytes) := do
  let entries ← d.list origin dir
  return entries.filterMap document?

/-- Writes the pages of every document below a root.  `manual` turns Markdown into a manual page. -/
def generate (manual : Bytes → Bytes) (onlyIfChanged : Bool) (root : Bytes) (d : Disk) : Outcome :=
  let l := Layout.of root
  match makeDirs [l.manuals, l.pages] d with
  | (some e, d) => { processed := 0, error := some e, tree := ⟨d, []⟩ }
  | (none, d) =>
    match documents d l.commands with
    | .error e =>
      { processed := 0, tree := ⟨d, []⟩,
        error := some (.listing l.commands (Disk.failureText (utf8 "open") l.commands e)) }
    | .ok names => generateAll manual onlyIfChanged l names 0 ⟨d, []⟩

end LineStore.Docs
