import LineStore.Config.Basic
import LineStore.File.Host
/-!
# Reading settings

The file is the one `LINECACHE_CFG` names, or `linecache.yaml` in the first standard directory that has
it.  A read that fails leaves the settings as they were; a look-up reads the file first while there are
no settings.
-/
namespace LineStore.Config

def fileName : Bytes := utf8 "linecache.yaml"

/-- A result, the settings afterwards, and what was done to find it. -/
structure Outcome (α : Type) where
  value : α
  config : Config
  trace : List Event := []

private def usingFile (p : Bytes) : Event := .logged (.debug (utf8 "using config file: " ++ p))

private def search (h : Host) : List (Option Bytes) → Except Error Bytes × List Event
  | [] => (.error .noFile, [])
  | none :: rest => search h rest
  | some dir :: rest =>
    let file := Path.join [dir, fileName]
    match h.stat file with
    | some info =>
      if info.isDir then
        let (r, t) := search h rest
        (r, .stat file :: t)
      else (.ok file, [.stat file, usingFile file])
    | none =>
      let (r, t) := search h rest
      (r, .stat file :: t)

/-- The file the settings are read from. -/
def locate (h : Host) : Except Error Bytes × List Event :=
  match h.given? "LINECACHE_CFG" with
  | some p =>
    match h.stat p with
    | none => (.error (.fileNotFound p), [.stat p])
    | some info =>
      if info.isDir then (.error (.isDirectory p), [.stat p]) else (.ok p, [.stat p, usingFile p])
  | none =>
    search h [h.given? "XDG_CONFIG_HOME", h.given? "APPDATA", h.given? "HOME"]

/-- Reads the settings afresh, with a namespace. -/
def load (h : Host) (c : Config) (scope : Bytes) : Outcome (Except Error Config) :=
  match locate h with
  | (.error e, t) => ⟨.error e, c, t⟩
  | (.ok p, t) =>
    let t := t ++ [.opened p]
    match h.read p with
    | .openFailed why | .readFailed _ why => ⟨.error (.unreadable p why), c, t⟩
    | .content text =>
      match Yaml.parseObject? text with
      | none => ⟨.error (.malformed p), c, t⟩
      | some data =>
        let c' : Config := { source := p, scope, data }
        ⟨.ok c', c', t⟩

/-- Reads the settings if there are none yet; what goes wrong with that is not told. -/
def ensureLoaded (h : Host) (c : Config) : Config × List Event :=
  if c.isEmpty then
    let o := load h c c.scope
    (o.config, o.trace)
  else (c, [])

/-- Looks a setting up and reads it; a single default stands in for a missing one. -/
def lookup {α : Type} (read : Yaml.Data → Except Error α) (h : Host) (c : Config) (key : Bytes)
    (defaults : List α) : Outcome (Except Error α) :=
  let (c, t) := ensureLoaded h c
  let value := match c.find key with
    | .ok d => read d
    | .error e => match defaults with
      | [d] => .ok d
      | _ => .error e
  ⟨value, c, t⟩

def readText : Yaml.Data → Except Error Bytes
  | .text s => .ok s
  | _ => .error .notText

def readInt : Yaml.Data → Except Error Int
  | .int n => if n ≤ Int64.maxValue then .ok n else .error .notInt
  | .float x => .ok x.toInt64
  | _ => .error .notInt

def readItems : List Yaml.Data → Except Error (List Bytes)
  | [] => .ok []
  | .text s :: rest => (readItems rest).map (s :: ·)
  | d :: _ => .error (.itemNotText d.display)

def readList : Yaml.Data → Except Error (List Bytes)
  | .text s => .ok [s]
  | .list items => readItems items
  | _ => .error .notList

/-- A text setting. -/
def text := lookup readText

/-- A whole number; a floating point number is cut toward zero. -/
def int := lookup readInt

/-- A list of texts; a single text is a list of one. -/
def list := lookup readList

end LineStore.Config
