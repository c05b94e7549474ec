import LineStore.Yaml.Data
/-!
# Settings

Settings are the data of a YAML file, looked up by dotted keys.  With a namespace a key is tried below
it first.
-/
namespace LineStore

structure Config where
  /-- The file the settings came from; empty before any was read. -/
  source : Bytes := []
  scope : Bytes := []
  /-- Absent when the file holds no settings at all. -/
  data : Option (List (Bytes × Yaml.Data)) := none
  deriving Inhabited

namespace Config

/-- Why a setting or the whole file cannot be had. -/
inductive Error where
  | fileNotFound (path : Bytes)
  | isDirectory (path : Bytes)
  | noFile
  | unreadable (path reason : Bytes)
  | malformed (path : Bytes)
  | noPath (keys : List Bytes)
  | notText
  | notInt
  | notList
  | itemNotText (item : Bytes)
  deriving Repr, DecidableEq, Inhabited

def Error.message : Error → Bytes
  | fileNotFound p => utf8 "config file not found: " ++ p
  | isDirectory p => utf8 "LINECACHE_CFG points to a directory: " ++ p
  | noFile => utf8 "no config file found in standard locations"
  | unreadable p why => utf8 "failed to read config file " ++ p ++ utf8 ": " ++ why
  | malformed p => utf8 "failed to parse config file " ++ p
  | noPath keys => utf8 "no valid path found among: [" ++ Bytes.join [0x20] keys ++ [0x5d]
  | notText => utf8 "value is not a string"
  | notInt => utf8 "value is not an int"
  | notList => utf8 "value is not a list"
  | itemNotText item => utf8 "list item " ++ item ++ utf8 " is not a string"

/-- Walks down objects along a list of names. -/
def descend : List Bytes → Yaml.Data → Option Yaml.Data
  | [], d => some d
  | k :: ks, .object fields => (Assoc.lookup k fields).bind (descend ks)
  | _ :: _, _ => none

/-- The keys tried for a setting, in order. -/
def candidates (c : Config) (key : Bytes) : List Bytes :=
  if c.scope.isEmpty then [key] else [c.scope ++ [0x2e] ++ key, key]

/-- The setting at a dotted key. -/
def get? (c : Config) (key : Bytes) : Option Yaml.Data :=
  descend (Bytes.splitOn 0x2e key) (.object (c.data.getD []))

/-- The setting for a key: the first candidate that exists, whatever it holds. -/
def find (c : Config) (key : Bytes) : Except Error Yaml.Data :=
  match (c.candidates key).findSome? c.get? with
  | some d => .ok d
  | none => .error (.noPath (c.candidates key))

/-- Is there nothing to look up? -/
def isEmpty (c : Config) : Bool := (c.data.getD []).isEmpty

end Config
end LineStore
