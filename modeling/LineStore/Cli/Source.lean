import LineStore.Cli.Flag
import LineStore.Config.Basic
import LineStore.File.Host
import LineStore.File.Reference
/-!
# Flags set from outside

A flag that was not used on the command line can be set by an environment variable, or by the settings
file: below the command's name first, then in general.
-/
namespace LineStore.Cli

/-- Where a value outside the command line was found. -/
inductive Origin where
  | variable (name : Bytes)
  | setting (file key : Bytes)
  deriving Repr, DecidableEq, Inhabited

def Origin.text : Origin → Bytes
  | .variable name => utf8 "environment variable " ++ Quoted.quote name
  | .setting file key => utf8 "yaml file " ++ Quoted.quote file ++ utf8 " at key " ++ Quoted.quote key

/-- A value from outside that a flag refuses. -/
structure SourceError where
  value : Bytes
  origin : Origin
  flag : Flag
  why : Reason
  deriving Repr, DecidableEq

private def kindName : FlagKind → Bytes
  | .text => utf8 "string"
  | .texts => utf8 "[]string"
  | .number => utf8 "int"
  | .switch | .invertible => utf8 "bool"

def SourceError.message (e : SourceError) : Bytes :=
  utf8 "could not parse " ++ Quoted.quote e.value ++ utf8 " as " ++ kindName e.flag.kind ++
    utf8 " value from " ++ e.origin.text ++ utf8 " for flag " ++ e.flag.name ++ utf8 ": " ++
    e.why.message

private def fieldOf? (name : Bytes) : Yaml.Data → Option Yaml.Data
  | .object fields => Assoc.lookup name fields
  | .mapping pairs => pairs.findSome? fun
    | (.text k, v) => if k = name then some v else none
    | _ => none
  | _ => none

/-- Follows names down mappings. -/
def nested? : List Bytes → Yaml.Data → Option Yaml.Data
  | [], d => some d
  | k :: ks, d => (fieldOf? k d).bind (nested? ks)

/-- The data of the settings file; nothing if it cannot be read. -/
def fileData (h : Host) (file : Bytes) : Yaml.Data × List Event :=
  if (Reference.path? file).isNone then (.null, [])
  else match h.read file with
    | .content text => ((Yaml.parse? text).getD .null, [.opened file])
    | _ => (.null, [.opened file])

/-- The first value for a flag outside the command line. -/
def Flag.outside? (f : Flag) (h : Host) (command file : Bytes) (data : Yaml.Data) :
    Option (Bytes × Origin) :=
  let fromVariable := f.variableName.bind fun n => (h.getenv? n).map fun v => (v, Origin.variable (utf8 n))
  let keys := (if f.inCommandSettings then [command ++ [0x2e] ++ f.name] else []) ++
    (if f.inSettings then [f.name] else [])
  fromVariable.or (keys.findSome? fun k =>
    (nested? (Bytes.splitOn 0x2e k) data).map fun d => (d.settingText, Origin.setting file k))

/-- Sets one flag from outside, unless it is set.  An empty value means no for a switch. -/
def setFromOutside (h : Host) (command file : Bytes) (data : Yaml.Data) (s : Settings) (f : Flag) :
    Except SourceError Settings :=
  if s.contains f.name then .ok s
  else match f.outside? h command file data with
    | none => .ok s
    | some (value, origin) =>
      let value := if value.isEmpty ∧ f.isSwitch then utf8 "false" else value
      match f.set s f.name value with
      | .ok s => .ok s
      | .error why => .error { value, origin, flag := f, why }

/-- Sets the flags of a command from outside, in turn. -/
def fromOutside (h : Host) (command file : Bytes) (flags : List Flag) (s : Settings) :
    Except SourceError Settings × List Event :=
  let (data, t) := fileData h file
  (flags.foldlM (setFromOutside h command file data) s, t)

end LineStore.Cli
