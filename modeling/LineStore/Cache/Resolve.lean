import LineStore.File.World
import LineStore.Log.Event
/-!
# From names to files

A name is expanded (`~` is the home directory) and made absolute.  The expanded path is tried first;
a bare name is then looked for in each search directory in order.  The first path that is a file and
no directory wins.
-/
namespace LineStore

inductive LoadError where
  /-- `~` was used and no home directory is known. -/
  | noHome (name : Bytes)
  | notFound (name : Bytes)
  | openFailed (path reason : Bytes)
  | readFailed (path reason : Bytes)
  deriving Repr, DecidableEq, Inhabited

namespace LoadError

def notFoundText : Bytes := utf8 "file not found"

def message : LoadError → Bytes
  | noHome name => utf8 "expanding " ++ name ++ utf8 ": $HOME is not defined"
  | notFound name => name ++ utf8 ": " ++ notFoundText
  | openFailed path reason => utf8 "opening " ++ path ++ utf8 ": file unreadable: " ++ reason
  | readFailed path reason => utf8 "reading " ++ path ++ utf8 ": file unreadable: " ++ reason

/-- A file was found and could not be opened or read. -/
def isUnreadable : LoadError → Bool
  | openFailed _ _ | readFailed _ _ => true
  | _ => false

end LoadError

namespace Resolve

def tilde : UInt8 := 0x7e

/-- The absolute path a name stands for, unless it needs a home directory and there is none. -/
def expand? (w : World) (name : Bytes) : Option Bytes :=
  match name with
  | [] => some (Path.absolute w.cwd name)
  | c :: rest =>
    if c = tilde ∧ (rest = [] ∨ rest.head? = some Path.slash) then
      w.home.map fun home => Path.absolute w.cwd (Path.join [home, rest])
    else some (Path.absolute w.cwd name)

/-- Where a bare name is looked for beyond its expanded path. -/
def searchCandidates (search : List Bytes) (name : Bytes) : List Bytes :=
  if Path.isBare name then
    (search.filter (!·.isEmpty)).map fun dir => Path.join [dir, Path.base name]
  else []

/-- The first candidate that is a file, and how many were looked at to find it. -/
def firstFile (w : World) : List Bytes → Option (Bytes × Witness) × List Event
  | [] => (none, [])
  | p :: ps =>
    match w.fileAt p with
    | some st => (some (p, st), [.stat p])
    | none =>
      let (r, t) := firstFile w ps
      (r, .stat p :: t)

end Resolve

/-- Where a name leads.  `path` is the expanded path when no file was found, and absent when the
name could not be expanded. -/
structure Resolution where
  path : Option Bytes
  found : Option Witness
  trace : List Event
  deriving Repr, DecidableEq

def resolve (w : World) (search : List Bytes) (name : Bytes) : Resolution :=
  match Resolve.expand? w name with
  | none => ⟨none, none, []⟩
  | some expanded =>
    match w.fileAt expanded with
    | some st => ⟨some expanded, some st, [.stat expanded]⟩
    | none =>
      match Resolve.firstFile w (Resolve.searchCandidates search name) with
      | (some (p, st), t) =>
        ⟨some p, some st, .stat expanded :: t ++
          [.logged (.debug (utf8 "resolved " ++ name ++ utf8 " via search path: " ++ p))]⟩
      | (none, t) => ⟨some expanded, none, .stat expanded :: t⟩

/-- Why a resolution gave no file. -/
def Resolution.error (r : Resolution) (name : Bytes) : LoadError :=
  if r.path.isSome then .notFound name else .noHome name

end LineStore
