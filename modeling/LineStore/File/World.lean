import LineStore.File.Path
import LineStore.File.Lines
import LineStore.Time.Instant
/-!
# The world around the store

What a load may look at: file metadata and contents, the home and working directories, and the
sources held in memory.  Each moment of a run is one such value.
-/
namespace LineStore

/-- Size and modification time: what tells one version of a file from another. -/
structure Witness where
  size : Int
  mtime : Time.Instant
  deriving Repr, DecidableEq, Inhabited

structure FileInfo where
  witness : Witness
  isDir : Bool := false
  deriving Repr, DecidableEq, Inhabited

structure World where
  /-- Metadata of what is at a path, if it can be told. -/
  stat : Bytes → Option FileInfo
  read : Bytes → Reading
  home : Option Bytes
  cwd : Bytes
  /-- The lines of a populated source, by name. -/
  source : Bytes → Option (List Bytes)

/-- Metadata of the file at `path`; a directory is no file. -/
def World.fileAt (w : World) (path : Bytes) : Option Witness :=
  match w.stat path with
  | some info => if info.isDir then none else some info.witness
  | none => none

end LineStore
