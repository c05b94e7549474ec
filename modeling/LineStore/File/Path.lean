import LineStore.Text.Bytes
/-!
# Paths

Slash-separated names, treated lexically: nothing here looks at a disk.
-/
namespace LineStore.Path

def slash : UInt8 := 0x2f
def dot : Bytes := [0x2e]
def dotdot : Bytes := [0x2e, 0x2e]

def isAbs (p : Bytes) : Bool := p.head? == some slash

/-- A name with no directory part. -/
def isBare (p : Bytes) : Bool := !p.any (· == slash)

/-- Drops empty and `.` segments and lets `..` cancel the segment before it.  The first argument
holds the segments kept so far, last one first. -/
def reduce (rooted : Bool) : List Bytes → List Bytes → List Bytes
  | kept, [] => kept.reverse
  | kept, s :: rest =>
    if s = [] ∨ s = dot then reduce rooted kept rest
    else if s = dotdot then
      match kept with
      | [] => if rooted then reduce rooted [] rest else reduce rooted [dotdot] rest
      | top :: below =>
        if top = dotdot then reduce rooted (dotdot :: top :: below) rest
        else reduce rooted below rest
    else reduce rooted (s :: kept) rest

/-- The shortest path that is lexically the same. -/
def clean (p : Bytes) : Bytes :=
  let segments := reduce (isAbs p) [] (Bytes.splitOn slash p)
  if isAbs p then slash :: Bytes.join [slash] segments
  else if segments.isEmpty then dot
  else Bytes.join [slash] segments

/-- Puts non-empty parts together with slashes and cleans the result. -/
def join (parts : List Bytes) : Bytes :=
  match parts.dropWhile List.isEmpty with
  | [] => []
  | rest => clean (Bytes.join [slash] rest)

/-- The absolute form of `p`, seen from the directory `cwd`. -/
def absolute (cwd p : Bytes) : Bytes := if isAbs p then clean p else join [cwd, p]

def afterLastSlash (p : Bytes) : Bytes := (p.reverse.takeWhile (· != slash)).reverse

/-- The last segment. -/
def base (p : Bytes) : Bytes :=
  if p.isEmpty then dot
  else
    let p := (p.reverse.dropWhile (· == slash)).reverse
    if p.isEmpty then [slash] else afterLastSlash p

/-- Everything before the last segment, cleaned. -/
def parent (p : Bytes) : Bytes := clean (p.reverse.dropWhile (· != slash)).reverse

end LineStore.Path
