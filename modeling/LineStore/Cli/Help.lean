import LineStore.Cli.Command
/-!
# Help

What the program says about itself and its commands.  Names stand in a column as wide as the longest.
-/
namespace LineStore.Cli.Help

/-- Lines of two columns. -/
def columns (rows : List (Bytes × Bytes)) : Bytes :=
  let width := (rows.map (·.1.length)).foldl max 0 + 2
  rows.flatMap fun (left, right) => Bytes.spaces 3 ++ Bytes.padRight width left ++ right ++ [0x0a]

private def dashed (name : Bytes) : Bytes := (if name.length = 1 then [0x2d] else [0x2d, 0x2d]) ++ name

/-- How a flag is written. -/
def flagForm (f : Flag) : Bytes :=
  let spelled (value : String) : Bytes := Bytes.join (utf8 ", ") (f.names.map (dashed · ++ utf8 value))
  match f.kind with
  | .text => spelled " string"
  | .texts => spelled " string" ++ utf8 " [ " ++ spelled " string" ++ utf8 " ]"
  | .number => spelled " int"
  | .switch => spelled ""
  | .invertible => utf8 "--[no-]" ++ f.name

/-- What a flag does, its standard value and its environment variable. -/
def flagText (f : Flag) : Bytes :=
  f.usage ++ (if f.standard.isEmpty then [] else utf8 " (default: " ++ f.standard ++ [0x29]) ++
    match f.variableName with
    | some n => utf8 " [$" ++ utf8 n ++ [0x5d]
    | none => []

def options (flags : List Flag) : Bytes :=
  columns ((flags.filter (!·.isHidden)).map fun f => (flagForm f, flagText f))

private def head (name usage form : Bytes) : Bytes :=
  utf8 "NAME:\n   " ++ name ++ utf8 " - " ++ usage ++ utf8 "\n\nUSAGE:\n   " ++ form ++ [0x0a]

private def globalPart : Bytes := utf8 "\nGLOBAL OPTIONS:\n" ++ options [versionFlag]

/-- Help on the program. -/
def program : Bytes :=
  head programName programUsage (programName ++ utf8 " [global options] [command [command options]]") ++
    utf8 "\nCOMMANDS:\n" ++
    columns ((Command.all.map fun c => (c.name, c.usage)) ++
      [(Bytes.join (utf8 ", ") helpNames, helpUsage)]) ++
    utf8 "\nGLOBAL OPTIONS:\n" ++ options [versionFlag, helpFlag]

/-- Help on a command; a command asked for it says what holds for all commands too. -/
def command (c : Command) (withGlobal : Bool) : Bytes :=
  head (programName ++ [0x20] ++ c.name) c.usage (programName ++ [0x20] ++ c.form) ++
    utf8 "\nOPTIONS:\n" ++ options (c.flags ++ [helpFlag]) ++
    if withGlobal then globalPart else []

/-- Help on the command for help of the program or, with a name, of a command. -/
def helpCommand (of : List Bytes) : Bytes :=
  let name := Bytes.join [0x20] (programName :: of ++ [utf8 "help"])
  head name helpUsage (name ++ utf8 " [command]") ++ globalPart

end LineStore.Cli.Help
