import LineStore.Cli.Action
/-!
# The command that prints lines
-/
namespace LineStore.Cli

/-- Takes the lines of standard input as those of a file. -/
def registerInput (inv : Invocation) (file : Bytes) : Action Sources := do
  let lines := splitLines inv.stdin
  Action.debug (utf8 "registered stdin")
    [(utf8 "name", file), (utf8 "lines", Bytes.ofNat lines.length)]
  return Assoc.empty.set file (.populated lines)

/-- The rows of some lines, the first of which has a number. -/
def lineRows (file : Bytes) (first : Int) (lines : List Bytes) : Bytes :=
  Json.recordsText (lines.zipIdx.map fun (l, i) =>
    [("file", .text file), ("line", .whole (first + i)), ("text", .text l)])

/-- Prints the lines of a file, or some of them. -/
def showLines (inv : Invocation) (a : Arguments) : Action Unit := do
  announce inv
  if a.settings.isOn "tldr" then return
  Action.enter (utf8 "show")
  let file := a.others.getD 0 []
  let selection ← match Selection.parse (a.others.getD 1 []) with
    | .ok s => pure s
    | .error e => throw (.selection e)
  let sources ← if a.settings.isOn "stdin" then registerInput inv file else pure .empty
  let dirs ← searchPath inv.host inv.host.cwd a.settings
  let world := inv.host.world (Sources.lines? sources)
  let (chosen, _) ← Action.onCache
    ((Cache.empty dirs).select world file selection (a.settings.isOn "reload"))
  match chosen with
  | .error e => throw (.selection e)
  | .ok (lines, first) =>
    let opts := outputOptions a.settings
    if opts.output = utf8 "raw" then Action.print lines.flatten
    else
      match attributes [utf8 "file", utf8 "line", utf8 "text::c"] a.settings with
      | .error e => throw e
      | .ok attrs =>
        Action.debug (utf8 "attrs: " ++ Attribute.logText attrs)
        emitRows inv.host opts attrs (lineRows file first lines) .ok

end LineStore.Cli
