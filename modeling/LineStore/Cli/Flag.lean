import LineStore.Data.Assoc
import LineStore.Number.Int64
import LineStore.Text.Quoted
/-!
# Flags

A flag has a long name, sometimes a short one, and takes a text, several texts, a number, or nothing.
A switch with an inverse can also be turned off by its name with `no-` in front.  What a flag was set to
is kept under its long name.
-/
namespace LineStore.Cli

inductive FlagKind where
  | text
  /-- Texts separated by commas; every use adds some. -/
  | texts
  | number
  | switch
  | invertible
  deriving Repr, DecidableEq, Inhabited

/-- What a value has to be like. -/
inductive Rule where
  | outputName
  /-- No text that looks like a flag. -/
  | notJammed
  | notNegative
  deriving Repr, DecidableEq, Inhabited

/-- Why a value is refused. -/
inductive Reason where
  | unknownOutput
  | jammed
  | negative
  | notSwitch
  | notNumber (text : Bytes) (fault : Int64.Fault)
  /-- A switch and its inverse were both used. -/
  | bothWays (name : Bytes)
  deriving Repr, DecidableEq, Inhabited

/-- The forms of output that can be asked for. -/
def outputNames : List Bytes := [utf8 "text", utf8 "json", utf8 "raw", utf8 "yaml"]

private def inverseMark : Bytes := utf8 "no-"

def Reason.message : Reason → Bytes
  | unknownOutput => utf8 "must be one of [" ++ Bytes.join [0x20] outputNames ++ [0x5d]
  | jammed => utf8 "must not begin with '--'"
  | negative => utf8 "must not be negative"
  | notSwitch => utf8 "parse error"
  | notNumber text fault =>
    utf8 "strconv.ParseInt: parsing " ++ Quoted.quote text ++ utf8 ": " ++ match fault with
      | .malformed => utf8 "invalid syntax"
      | .outOfRange _ => utf8 "value out of range"
  | bothWays name =>
    utf8 "cannot set both flags `--" ++ name ++ utf8 "` and `--" ++ inverseMark ++ name ++ [0x60]

/-- What a flag was set to. -/
inductive Setting where
  | text (s : Bytes)
  | texts (l : List Bytes)
  | number (n : Int)
  /-- On or off, and whether by the inverse name. -/
  | switch (on byInverse : Bool)
  deriving Repr, DecidableEq, Inhabited

namespace Rule

def refuseText : Rule → Bytes → Option Reason
  | outputName, s => if outputNames.contains s then none else some .unknownOutput
  | notJammed, s => if Bytes.startsWith (utf8 "--") s then some .jammed else none
  | notNegative, _ => none

def refuseNumber : Rule → Int → Option Reason
  | notNegative, n => if n < 0 then some .negative else none
  | _, _ => none

/-- What is wrong with a setting, if anything is. -/
def refuse (r : Rule) : Setting → Option Reason
  | .text s => r.refuseText s
  | .texts l => l.findSome? r.refuseText
  | .number n => r.refuseNumber n
  | .switch _ _ => none

end Rule

structure Flag where
  name : Bytes
  short : Option Bytes := none
  kind : FlagKind
  usage : Bytes
  rule : Option Rule := none
  /-- Shown in the help, if not empty. -/
  standard : Bytes := []
  isHidden : Bool := false
  /-- An environment variable that can set the flag. -/
  variableName : Option String := none
  /-- May the settings of the command set it? -/
  inCommandSettings : Bool := false
  /-- May the general settings set it? -/
  inSettings : Bool := false
  deriving Repr, DecidableEq, Inhabited

namespace Flag

/-- The names that set the flag. -/
def names (f : Flag) : List Bytes := f.name :: f.short.toList

/-- The names that turn the flag off. -/
def inverseNames (f : Flag) : List Bytes :=
  if f.kind = .invertible then f.names.map (inverseMark ++ ·) else []

def answersTo (f : Flag) (name : Bytes) : Bool := f.names.contains name || f.inverseNames.contains name

/-- A flag that needs no value. -/
def isSwitch (f : Flag) : Bool := f.kind == .switch || f.kind == .invertible

end Flag

/-- The settings of flags, by long name. -/
abbrev Settings := Assoc Setting

namespace Settings

def text (s : Settings) (name : String) (standard : Bytes := []) : Bytes :=
  match s.get? (utf8 name) with
  | some (.text t) => t
  | _ => standard

def isOn (s : Settings) (name : String) : Bool :=
  match s.get? (utf8 name) with
  | some (.switch on _) => on
  | _ => false

def texts (s : Settings) (name : String) : List Bytes :=
  match s.get? (utf8 name) with
  | some (.texts l) => l
  | _ => []

def number (s : Settings) (name : String) : Int :=
  match s.get? (utf8 name) with
  | some (.number n) => n
  | _ => 0

end Settings

/-- The spellings of yes and no. -/
def switch? (s : Bytes) : Option Bool :=
  if ["1", "t", "T", "TRUE", "true", "True"].any fun n => utf8 n == s then some true
  else if ["0", "f", "F", "FALSE", "false", "False"].any fun n => utf8 n == s then some false
  else none

namespace Flag

/-- The setting after one more use of a flag, by one of its names. -/
def read (f : Flag) (old : Option Setting) (used value : Bytes) : Except Reason Setting :=
  match f.kind with
  | .text => .ok (.text value)
  | .texts =>
    let before := match old with
      | some (.texts l) => l
      | _ => []
    .ok (.texts (before ++ Bytes.splitOn 0x2c value))
  | .number =>
    match Int64.readAnyBase value with
    | .ok n => .ok (.number n)
    | .error fault => .error (.notNumber value fault)
  | .switch =>
    match switch? value with
    | some b => .ok (.switch b false)
    | none => .error .notSwitch
  | .invertible =>
    let byInverse := f.inverseNames.contains used
    match old with
    | some (.switch _ o) =>
      if o != byInverse then .error (.bothWays f.name) else readInvertible byInverse
    | _ => readInvertible byInverse
where
  readInvertible (byInverse : Bool) : Except Reason Setting :=
    if byInverse then .ok (.switch false true)
    else match switch? value with
      | some b => .ok (.switch b false)
      | none => .error .notSwitch

/-- Sets a flag by one of its names. -/
def set (f : Flag) (s : Settings) (used value : Bytes) : Except Reason Settings := do
  let v ← f.read (s.get? f.name) used value
  match f.rule.bind (·.refuse v) with
  | some why => .error why
  | none => .ok (Assoc.set s f.name v)

end Flag
end LineStore.Cli
