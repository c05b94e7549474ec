import LineStore.Cli.Flag
/-!
# Commands

The commands of the program and their flags, in the order in which the help shows them.
-/
namespace LineStore.Cli

structure Command where
  name : Bytes
  usage : Bytes
  /-- What follows the name of the program in the line of use. -/
  form : Bytes
  /-- The flags of its own, without the flag for help. -/
  flags : List Flag := []
  deriving Repr, DecidableEq, Inhabited

/-- The name of the program. -/
def programName : Bytes := utf8 "linecache"

def programUsage : Bytes := utf8 "cached, change-aware access to the lines of files"

def programVersion : Bytes := utf8 "dev"

def helpFlag : Flag :=
  { name := utf8 "help", short := some (utf8 "h"), kind := .switch, usage := utf8 "show help" }

def versionFlag : Flag :=
  { name := utf8 "version", short := some (utf8 "v"), kind := .switch
    usage := utf8 "linecache version info" }

/-- The names of the command for help, which every command has. -/
def helpNames : List Bytes := [utf8 "help", utf8 "h"]

def helpUsage : Bytes := utf8 "Shows a list of commands or help for one command"

namespace Flag

def attrs : Flag :=
  { name := utf8 "attrs", short := some (utf8 "a"), kind := .text
    usage := utf8 "comma-separated list of attributes to include in results" }

def color : Flag :=
  { name := utf8 "color", short := some (utf8 "c"), kind := .invertible
    usage := utf8 "enable colored text output", standard := utf8 "false"
    variableName := some "LINECACHE_COLOR", inCommandSettings := true, inSettings := true }

def filter : Flag :=
  { name := utf8 "filter", short := some (utf8 "f"), kind := .text
    usage := utf8 "comma-separated list of filters to apply to results" }

def includeDir : Flag :=
  { name := utf8 "include", short := some (utf8 "I"), kind := .texts, rule := some .notJammed
    usage := utf8 "directory to search for bare filenames (repeatable)" }

def localTime : Flag :=
  { name := utf8 "local", kind := .switch, usage := utf8 "show timestamps in the TZ time zone"
    inCommandSettings := true, inSettings := true }

def output : Flag :=
  { name := utf8 "output", short := some (utf8 "o"), kind := .text, rule := some .outputName
    usage := utf8 "output format (text, json, yaml, raw)", standard := utf8 "\"text\""
    variableName := some "LINECACHE_OUTPUT", inCommandSettings := true, inSettings := true }

def reload : Flag :=
  { name := utf8 "reload", short := some (utf8 "r"), kind := .switch
    usage := utf8 "check cached files for changes before serving lines" }

def sort : Flag :=
  { name := utf8 "sort", short := some (utf8 "s"), kind := .text
    usage := utf8 "comma-separated list of attributes to sort the results by"
    inCommandSettings := true }

def titles : Flag :=
  { name := utf8 "titles", short := some (utf8 "t"), kind := .invertible
    usage := utf8 "show titles with text output", standard := utf8 "false"
    inCommandSettings := true, inSettings := true }

def tldr : Flag :=
  { name := utf8 "tldr", kind := .switch, usage := utf8 "show tldr page", isHidden := true }

/-- The flags that every command on files has. -/
def shared : List Flag :=
  [attrs, color, filter, includeDir, localTime, output, reload, sort, titles, tldr]

def stdin : Flag :=
  { name := utf8 "stdin", kind := .switch
    usage := utf8 "read FILE's lines from standard input instead of disk" }

def chop : Flag :=
  { name := utf8 "chop", kind := .switch
    usage := utf8 "shorten the common leading directories of paths" }

def human : Flag :=
  { name := utf8 "human", short := some (utf8 "H"), kind := .switch
    usage := utf8 "human readable size and modification time" }

def count : Flag :=
  { name := utf8 "count", kind := .number, rule := some .notNegative
    usage := utf8 "stop after this many changes (0 for no limit)", standard := utf8 "0" }

def diff : Flag :=
  { name := utf8 "diff", short := some (utf8 "d"), kind := .switch
    usage := utf8 "print a diff of the lines of modified files" }

/-- The shared flags with those of one command among them, by name. -/
def among (own : List Flag) : List Flag :=
  (shared ++ own).mergeSort fun a b => Bytes.le a.name b.name

end Flag

namespace Command

def showLines : Command :=
  { name := utf8 "show", usage := utf8 "print lines of a file"
    form := utf8 "show [options] FILE [LINE | FIRST-LAST | FIRST:COUNT]"
    flags := Flag.among [.stdin] }

def info : Command :=
  { name := utf8 "info", usage := utf8 "describe cached files"
    form := utf8 "info [options] FILE...", flags := Flag.among [.chop, .human] }

def watch : Command :=
  { name := utf8 "watch", usage := utf8 "report changes to files as they happen"
    form := utf8 "watch [options] FILE...", flags := Flag.among [.count, .diff] }

def completion : Command :=
  { name := utf8 "completion", usage := utf8 "generate shell completion script"
    form := utf8 "completion [bash|zsh]" }

def all : List Command := [showLines, info, watch, completion]

def find? (name : Bytes) : Option Command := all.find? (·.name == name)

end Command
end LineStore.Cli
