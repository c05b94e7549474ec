import LineStore.Cache.Describe
import LineStore.Cli.Action
import LineStore.Table.Chop
/-!
# The command that describes files
-/
namespace LineStore.Cli

/-- The rows of some files. -/
def fileRows (rows : List FileRow) : Bytes :=
  Json.recordsText (rows.map fun r =>
    [("file", .text r.file), ("path", .text r.path), ("lines", .whole r.lines),
      ("size", match r.size with
        | .none => .null
        | .bytes n => .whole n
        | .human s => .text s),
      ("mtime", .text r.mtime), ("digest", .text r.digest)])

private def infoColumns : List Bytes :=
  [utf8 "file", utf8 "path", utf8 "lines", utf8 "size", utf8 "mtime", utf8 "digest"]

/-- Describes files; those that cannot be loaded are named, and make the command fail at its end. -/
def describeFiles (inv : Invocation) (a : Arguments) : Action Unit := do
  announce inv
  if a.settings.isOn "tldr" then return
  Action.enter (utf8 "info")
  let dirs ← searchPath inv.host inv.host.cwd a.settings
  let world := inv.host.world fun _ => none
  let now := if a.settings.isOn "human" then some inv.now else none
  let ((rows, missing), _) ← Action.onCache
    (Cache.describe world now (a.settings.isOn "reload") a.others (Cache.empty dirs))
  for f in missing do
    Action.warn (utf8 "warning: " ++ f ++ utf8 ": " ++ LoadError.notFoundText ++ [0x0a])
  match attributes infoColumns a.settings with
  | .error e => throw e
  | .ok attrs =>
    Action.debug (utf8 "attrs: " ++ Attribute.logText attrs)
    let chop := a.settings.isOn "chop"
    emitRows inv.host (outputOptions a.settings) attrs (fileRows rows) fun rows =>
      .ok (if chop then Chop.rows (utf8 "path") rows else rows)
    if !missing.isEmpty then throw (.notLoaded missing.length a.others.length)

end LineStore.Cli
