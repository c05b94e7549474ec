import LineStore.File.Host
/-!
# A disk in memory

Files and directories by absolute path.  A path is walked one segment at a time, so that a missing
directory and a file in the place of one are told apart.
-/
namespace LineStore

inductive DiskNode where
  | file (data : Bytes) (mtime : Time.Instant)
  | dir
  deriving Repr, DecidableEq, Inhabited

structure Disk where
  nodes : Assoc DiskNode := .empty
  deriving Repr, DecidableEq, Inhabited

namespace Disk

inductive Error where
  | notExist | notDir | isDir
  deriving Repr, DecidableEq, Inhabited

def Error.reason : Error → Bytes
  | notExist => utf8 "no such file or directory"
  | notDir => utf8 "not a directory"
  | isDir => utf8 "is a directory"

/-- The absolute path of a place, given by its segments, the last one first. -/
def pathOf (segments : List Bytes) : Bytes :=
  Path.slash :: Bytes.join [Path.slash] segments.reverse

/-- What is at a place. -/
def nodeAt (d : Disk) (segments : List Bytes) : Option DiskNode :=
  if segments.isEmpty then some .dir else d.nodes.get? (pathOf segments)

/-- Walks from a place (its segments, last one first) along the rest of a path. -/
def walk (d : Disk) : List Bytes → List Bytes → Except Error (List Bytes)
  | place, [] => .ok place
  | place, s :: rest =>
    match d.nodeAt place with
    | none => .error .notExist
    | some (.file _ _) => .error .notDir
    | some .dir =>
      if s = [] ∨ s = Path.dot then walk d place rest
      else if s = Path.dotdot then walk d (place.drop 1) rest
      else
        match d.nodeAt (s :: place) with
        | none => .error .notExist
        | some _ => walk d (s :: place) rest

/-- The absolute path that `p` leads to from `cwd`, and what is there. -/
def find (d : Disk) (cwd p : Bytes) : Except Error (Bytes × DiskNode) :=
  if p.isEmpty then .error .notExist
  else
    let full := if Path.isAbs p then p else cwd ++ [Path.slash] ++ p
    match d.walk [] (Bytes.splitOn Path.slash full) with
    | .error e => .error e
    | .ok place =>
      match d.nodeAt place with
      | some n => .ok (pathOf place, n)
      | none => .error .notExist

def stat (d : Disk) (cwd p : Bytes) : Option FileInfo :=
  match d.find cwd p with
  | .ok (_, .file data mtime) => some ⟨⟨data.length, mtime⟩, false⟩
  | .ok (_, .dir) => some ⟨⟨4096, ⟨0, 0⟩⟩, true⟩
  | .error _ => none

/-- The content of a file, or what keeps it from being read. -/
def readFile (d : Disk) (cwd p : Bytes) : Except (Bytes × Error) Bytes :=
  match d.find cwd p with
  | .ok (_, .file data _) => .ok data
  | .ok (_, .dir) => .error (utf8 "read", .isDir)
  | .error e => .error (utf8 "open", e)

/-- The message of an operation that failed on a path. -/
def failureText (op p : Bytes) (e : Error) : Bytes := op ++ [0x20] ++ p ++ utf8 ": " ++ e.reason

def reading (d : Disk) (cwd p : Bytes) : Reading :=
  match d.readFile cwd p with
  | .ok data => .content data
  | .error (op, e) =>
    if op = utf8 "open" then .openFailed (failureText op p e) else .readFailed [] (failureText op p e)

/-- Makes a directory with all directories above it; files in the way are replaced. -/
def ensureDirs (d : Disk) : List Bytes → Disk
  | [] => d
  | s :: above => ⟨((d.ensureDirs above).nodes).set (pathOf (s :: above)) .dir⟩

def segmentsOf (p : Bytes) : List Bytes :=
  ((Bytes.splitOn Path.slash p).filter (!·.isEmpty)).reverse

/-- Puts a directory at an absolute path. -/
def putDir (d : Disk) (p : Bytes) : Disk := d.ensureDirs (segmentsOf p)

/-- Puts a file at an absolute path, making the directories above it. -/
def putFile (d : Disk) (p data : Bytes) (mtime : Time.Instant) : Disk :=
  let d := d.ensureDirs ((segmentsOf p).drop 1)
  ⟨d.nodes.set (pathOf (segmentsOf p)) (.file data mtime)⟩

/-- Changes the modification time of a file. -/
def touch (d : Disk) (p : Bytes) (mtime : Time.Instant) : Disk :=
  match d.nodes.get? p with
  | some (.file data _) => ⟨d.nodes.set p (.file data mtime)⟩
  | _ => d

/-- Takes away what is at an absolute path, with everything below it. -/
def remove (d : Disk) (p : Bytes) : Disk :=
  ⟨⟨d.nodes.pairs.filter fun (q, _) => q != p && !Bytes.startsWith (p ++ [Path.slash]) q⟩⟩

/-- The entry of a path in the directory whose paths start with `start`. -/
def childOf? (start : Bytes) (e : Bytes × DiskNode) : Option (Bytes × DiskNode) :=
  match Bytes.dropStart? start e.1 with
  | some name => if name.isEmpty || name.any (· == Path.slash) then none else some (name, e.2)
  | none => none

/-- The names directly inside a directory, in order. -/
def children (d : Disk) (p : Bytes) : List (Bytes × DiskNode) :=
  let start := if p = [Path.slash] then p else p ++ [Path.slash]
  (Assoc.mk (d.nodes.pairs.filterMap (childOf? start))).sorted

/-- What is in a directory, by name. -/
def list (d : Disk) (cwd p : Bytes) : Except Error (List (Bytes × DiskNode)) :=
  match d.find cwd p with
  | .ok (full, .dir) => .ok (d.children full)
  | .ok (_, .file _ _) => .error .notDir
  | .error e => .error e

def isFileAt (d : Disk) (segments : List Bytes) : Bool :=
  match d.nodeAt segments with
  | some (.file _ _) => true
  | _ => false

/-- The topmost file among a place and those above it. -/
def fileInWay? (d : Disk) : List Bytes → Option (List Bytes)
  | [] => none
  | s :: above =>
    match d.fileInWay? above with
    | some file => some file
    | none => if d.isFileAt (s :: above) then some (s :: above) else none

/-- Makes a directory with all directories above it, those that are not there yet. -/
def addDirs (d : Disk) : List Bytes → Disk
  | [] => d
  | s :: above =>
    let d := d.addDirs above
    if (d.nodeAt (s :: above)).isSome then d else ⟨d.nodes.set (pathOf (s :: above)) .dir⟩

/-- Makes a directory and those above it, or gives the path of the file that is in the way, written as the
given one is. -/
def makeDirs (d : Disk) (cwd p : Bytes) : Option Bytes × Disk :=
  let place := segmentsOf (Path.absolute cwd p)
  match d.fileInWay? place with
  | some file => (some (Nat.repeat Path.parent (place.length - file.length) p), d)
  | none => (none, d.addDirs place)

/-- Writes a file in a directory that exists. -/
def writeFile (d : Disk) (cwd p data : Bytes) : Except Error Disk :=
  match d.find cwd p with
  | .ok (_, .dir) => .error .isDir
  | .ok (full, .file _ mtime) => .ok ⟨d.nodes.set full (.file data mtime)⟩
  | .error .notExist =>
    match d.find cwd (Path.parent p) with
    | .ok (full, .dir) =>
      let start := if full = [Path.slash] then full else full ++ [Path.slash]
      .ok ⟨d.nodes.set (start ++ Path.base p) (.file data ⟨0, 0⟩)⟩
    | .ok (_, .file _ _) => .error .notDir
    | .error e => .error e
  | .error e => .error e

/-- The disk as a host, with an environment and a working directory. -/
def host (d : Disk) (env : Assoc Bytes) (cwd : Bytes) : Host where
  stat := d.stat cwd
  read := d.reading cwd
  env := env
  cwd := cwd

end Disk
end LineStore
