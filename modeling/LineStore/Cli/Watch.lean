import LineStore.Cli.Action
import LineStore.Watch.LineDiff
import LineStore.Watch.Quota
/-!
# The command that reports changes

The files are loaded once.  From then on each scan reports a batch of changes, until as many were
reported as were asked for.
-/
namespace LineStore.Cli

/-- A watch that is going on. -/
structure WatchLoop where
  watcher : Watcher
  cache : Cache
  attrs : List Attribute
  options : OutputOptions
  withDiff : Bool
  quota : Quota

/-- The rows of some changes, seen at a time. -/
def changeRows (time : Bytes) (changes : List Change) : Bytes :=
  Json.recordsText (changes.map fun c =>
    [("time", .text time), ("file", .text c.key), ("change", .text c.kind.name),
      ("lines", .whole c.new.length)])

/-- Reports a batch of changes, and what changed in the files that were modified.  Only the first batch
has titles. -/
def reportChanges (h : Host) (opts : OutputOptions) (attrs : List Attribute) (withDiff first : Bool)
    (now : Time.Instant) (changes : List Change) : Action Unit := do
  let opts := { opts with titles := opts.titles && first }
  emitRows h opts attrs (changeRows now.rfc3339 changes) .ok
  if withDiff then
    for c in changes do
      if c.kind = .modified then Action.print (LineDiff.text c.old c.new)

/-- Loads the files and starts the watch. -/
def startWatch (inv : Invocation) (a : Arguments) : Action (Option WatchLoop) := do
  announce inv
  if a.settings.isOn "tldr" then return none
  Action.enter (utf8 "watch")
  match attributes [utf8 "time", utf8 "file", utf8 "change", utf8 "lines"] a.settings with
  | .error e => throw e
  | .ok attrs =>
    let dirs ← searchPath inv.host inv.host.cwd a.settings
    let (started, cache) ← Action.onCache
      (Watcher.start (inv.host.world fun _ => none) (Cache.empty dirs) a.others)
    match started with
    | .error key => throw (.unwatchable key)
    | .ok watcher =>
      for d in watcher.directories cache do
        Action.debug (utf8 "watching") [(utf8 "dir", d)]
      return some
        { watcher, cache, attrs, options := outputOptions a.settings
          withDiff := a.settings.isOn "diff", quota := { limit := (a.settings.number "count").toNat } }

/-- Looks for changes once and reports them.  A watch whose quota is spent is over. -/
def WatchLoop.scan (l : WatchLoop) (h : Host) (now : Time.Instant) : Action WatchLoop := do
  let ((changes, watcher), cache) ← Action.onCache (l.watcher.scan (h.world fun _ => none) l.cache)
  let l := { l with watcher, cache }
  if changes.isEmpty then return l
  let batch := l.quota.allow changes
  reportChanges h l.options l.attrs l.withDiff l.quota.isFresh now batch
  return { l with quota := l.quota.after batch }

/-- A moment at which a watch looks for changes: the machine as it is then, and the time. -/
structure Moment where
  host : Host
  now : Time.Instant

/-- Scans at some moments, one after the other, until the watch is over. -/
def WatchLoop.run (l : WatchLoop) : List Moment → Action WatchLoop
  | [] => return l
  | m :: ms => do
    let l ← l.scan m.host m.now
    if l.quota.isSpent then return l else l.run ms

end LineStore.Cli
