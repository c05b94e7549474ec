import LineStore.Cli.Program
import Std.Time.DateTime.Timestamp
/-!
# The program on a real machine

The program itself is a function of its host.  Here the host is filled in from the machine: the program
is run with what is known so far, what it asked for in vain is looked up, and it is run again until it
asks for nothing new.
-/
namespace LineStore.Machine

/-- What is known of the files of the machine. -/
structure Known where
  info : Assoc (Option FileInfo) := .empty
  content : Assoc Reading := .empty

private def toText (s : Bytes) : String := (String.fromUTF8? ⟨s.toArray⟩).getD ""

private def variableNames : List String :=
  ["HOME", "TZ", "SHELL", "XDG_CONFIG_HOME", "APPDATA", "LINECACHE_CFG", "LINECACHE_LOG",
    "LINECACHE_PATH", "LINECACHE_COLOR", "LINECACHE_OUTPUT", "LINECACHE_FILTER_DELIM"]

private def environment : IO (Assoc Bytes) := do
  let mut env : Assoc Bytes := .empty
  for n in variableNames do
    if let some v ← IO.getEnv n then env := env.set (utf8 n) (utf8 v)
  return env

private def Known.host (k : Known) (env : Assoc Bytes) (cwd : Bytes) : Host where
  stat p := (k.info.get? p).getD none
  read p := (k.content.get? p).getD (.openFailed (utf8 "open " ++ p ++ utf8 ": no such file or directory"))
  env := env
  cwd := cwd

private def lookAt (k : Known) (p : Bytes) : IO Known := do
  let here ← IO.currentDir
  let path := here / toText p
  let info ← try
      let m ← path.metadata
      let isDir ← path.isDir
      let mtime : Time.Instant := ⟨m.modified.sec, m.modified.nsec.toNat⟩
      pure (some (⟨⟨m.byteSize.toNat, mtime⟩, isDir⟩ : FileInfo))
    catch _ => pure none
  return { k with info := k.info.set p info }

private def readAll (k : Known) (p : Bytes) : IO Known := do
  let here ← IO.currentDir
  let reading ← try
      let data ← IO.FS.readBinFile (here / toText p)
      pure (Reading.content data.toList)
    catch e => pure (Reading.openFailed (utf8 (toString e)))
  return { k with content := k.content.set p reading }

private def learn (k : Known) (t : List Event) : IO (Known × Bool) := do
  let mut k := k
  let mut more := false
  for e in t do
    match e with
    | .stat p =>
      if !k.info.contains p then
        k ← lookAt k p
        more := true
    | .opened p =>
      if !k.content.contains p then
        k ← readAll k p
        more := true
    | _ => pure ()
  return (k, more)

-- Runs something with ever more knowledge, until it asks for nothing new.
private partial def settle {α : Type} (env : Assoc Bytes) (cwd : Bytes) (f : Host → α)
    (trace : α → List Event) (k : Known) : IO α := do
  let r := f (k.host env cwd)
  let (k, more) ← learn k (trace r)
  if more then settle env cwd f trace k else return r

private def now : IO Time.Instant := do
  return ⟨(← Std.Time.Timestamp.now).toSecondsSinceUnixEpoch.val, 0⟩

private def stamp (h : Host) (t : Time.Instant) : Bytes :=
  let offset := match h.zone? with
    | some z => (z.kindAt t.sec).offset
    | none => 0
  Time.clockText 0x20 (t.sec + offset)

private def play (h : Host) (t : List Event) : IO Unit := do
  let level := Cli.logLevel h
  let stamp := stamp h (← now)
  let out ← IO.getStdout
  let err ← IO.getStderr
  for e in t do
    match e with
    | .printed s => out.write ⟨s.toArray⟩
    | e => err.write ⟨(Cli.errorText level stamp [e]).toArray⟩
  out.flush

private partial def readInput (s : IO.FS.Stream) (got : ByteArray) : IO ByteArray := do
  let more ← s.read 65536
  if more.isEmpty then return got else readInput s (got ++ more)

private partial def watch (env : Assoc Bytes) (cwd : Bytes) (l : Cli.WatchLoop) (s : Cli.RunState) :
    IO UInt32 := do
  IO.sleep 100
  let time ← now
  let start : Cli.RunState := { s with trace := [] }
  let (r, s) ← settle env cwd (fun h => (l.run [⟨h, time⟩]).run start) (·.2.trace) {}
  let host := Known.host {} env cwd
  play host s.trace
  match r with
  | .ok l => if l.quota.isSpent then return 0 else watch env cwd l s
  | .error e =>
    play host [.warned (e.message ++ [0x0a])]
    return 2

def run (args : List String) : IO UInt32 := do
  let env ← environment
  let cwd := utf8 (← IO.currentDir).toString
  let stdin ← if args.contains "--stdin" then readInput (← IO.getStdin) .empty else pure .empty
  let time ← now
  let r ← settle env cwd (fun host => Cli.run { args := args.map utf8, stdin := stdin.toList, host, now := time })
    (·.state.trace) {}
  play (Known.host {} env cwd) r.state.trace
  match r.watch with
  | none => return r.exitCode.toUInt32
  | some l => watch env cwd l r.state

end LineStore.Machine

/-- The program: shows, describes and watches files. -/
def main (args : List String) : IO UInt32 := LineStore.Machine.run args
