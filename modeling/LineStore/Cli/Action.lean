import LineStore.Cache.Select
import LineStore.Cli.Parse
import LineStore.Cli.Source
import LineStore.Table.Output
import LineStore.Watch.Watcher
/-!
# Doing what a command says

An action carries the settings file and the trace of events along, and may fail; the trace of what was
done before stays.
-/
namespace LineStore.Cli

/-- Everything a run of the program starts from. -/
structure Invocation where
  /-- The arguments after the name of the program. -/
  args : List Bytes
  stdin : Bytes := []
  host : Host
  now : Time.Instant

/-- Why a command fails. -/
inductive Failure where
  | usage (e : UsageError)
  | source (e : SourceError)
  | noTopic (name : Bytes)
  | noFiles
  | notDirectory (dir : Bytes)
  | selection (e : Selection.Error)
  /-- An attribute is malformed, in a flag or in what stands without one. -/
  | attrs (inFlag : Bool) (e : Attribute.Error)
  | output (e : Output.Error)
  /-- A file to be watched cannot be loaded. -/
  | unwatchable (key : Bytes)
  | notLoaded (missing total : Nat)
  | unknownShell

def Failure.message : Failure → Bytes
  | usage e => e.message
  | source e => e.message
  | noTopic name => utf8 "No help topic for '" ++ name ++ [0x27]
  | noFiles => utf8 "at least one FILE is required"
  | notDirectory dir => utf8 "--include " ++ dir ++ utf8 ": not a directory"
  | selection e => e.message
  | attrs inFlag e => (if inFlag then utf8 "invalid --attrs: " else []) ++ e.message
  | output e => e.message
  | unwatchable key => Watcher.missingText key
  | notLoaded missing total =>
    Bytes.ofNat missing ++ utf8 " of " ++ Bytes.ofNat total ++ utf8 " files could not be loaded"
  | unknownShell => utf8 "usage: linecache completion [bash|zsh]"

/-- The settings file as far as it was read, and all that was done so far. -/
structure RunState where
  config : Config := {}
  trace : List Event := []

abbrev Action := ExceptT Failure (StateM RunState)

namespace Action

def note (events : List Event) : Action Unit :=
  modify fun s => { s with trace := s.trace ++ events }

def debug (message : Bytes) (fields : List (Bytes × Bytes) := []) : Action Unit :=
  note [.logged (.debug message fields)]

def warn (text : Bytes) : Action Unit := note [.warned text]

def print (text : Bytes) : Action Unit := note [.printed text]

/-- Looks something up in the settings file. -/
def consult {α : Type} (f : Config → Config.Outcome α) : Action α := do
  let s ← get
  let o := f s.config
  set ({ config := o.config, trace := s.trace ++ o.trace } : RunState)
  return o.value

/-- Runs an operation of the cache. -/
def onCache {α : Type} (o : Outcome α) : Action (α × Cache) := do
  note o.trace
  return (o.value, o.cache)

/-- Looks settings up below a command's name. -/
def enter (command : Bytes) : Action Unit :=
  modify fun s => { s with config := { s.config with scope := command } }

end Action

/-- A list of texts as the log shows it. -/
def listText (l : List Bytes) : Bytes := [0x5b] ++ Bytes.join [0x20] l ++ [0x5d]

/-- The options that the flags of a command choose. -/
def outputOptions (s : Settings) : OutputOptions :=
  { output := s.text "output" (utf8 "text"), filter := s.text "filter", sort := s.text "sort"
    color := s.isOn "color", titles := s.isOn "titles", localTime := s.isOn "local" }

/-- The directories for bare names: those of the flags, of the environment and of the settings file.
Relative ones are seen from the directory the program was started in. -/
def searchPath (h : Host) (start : Bytes) (s : Settings) : Action (List Bytes) := do
  let fromSettings ← Action.consult fun c => Config.list h c (utf8 "path") [[]]
  let more ← match fromSettings with
    | .ok dirs => pure dirs
    | .error e => do
      Action.note [.logged (.warn (utf8 "ignoring config path") [(utf8 "error", e.message)])]
      pure []
  let fromVariable := match h.given? "LINECACHE_PATH" with
    | some p => Bytes.splitOn 0x3a p
    | none => []
  let dirs := (s.texts "include" ++ fromVariable ++ more).filter (!·.isEmpty)
  let dirs := dirs.map fun d =>
    if !Path.isAbs d && !start.isEmpty then Path.join [start, d] else d
  Action.debug (utf8 "search path: " ++ listText dirs)
  return dirs

/-- The attributes of a command, changed by its flag for them. -/
def attributes (standard : List Bytes) (s : Settings) : Except Failure (List Attribute) :=
  match Attribute.addAll [] standard with
  | (_, some e) => .error (.attrs false e)
  | (l, none) =>
    match Attribute.add l (s.text "attrs") with
    | (_, some e) => .error (.attrs true e)
    | (l, none) => .ok (Attribute.spreadWildcard l)

/-- Writes rows given as JSON. -/
def emitRows (h : Host) (opts : OutputOptions) (attrs : List Attribute) (raw : Bytes)
    (adjust : Output.Adjustment) : Action Unit := do
  match ← Action.consult fun c => Output.emit h c opts attrs [] raw adjust with
  | .ok () => return
  | .error e => throw (.output e)

/-- Says what is being done. -/
def announce (inv : Invocation) : Action Unit :=
  Action.debug (utf8 "Executing action for " ++ listText inv.args)

end LineStore.Cli
