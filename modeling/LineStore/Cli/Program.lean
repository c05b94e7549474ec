import LineStore.Cli.Completion
import LineStore.Cli.Help
import LineStore.Cli.Info
import LineStore.Cli.Show
import LineStore.Cli.Watch
import LineStore.Text.Case
/-!
# The program

The arguments choose a command, its flags are completed from the environment and the settings file, and
the command is run.
-/
namespace LineStore.Cli

/-- What a run leaves: the exit code, what it did, and the watch to go on with if there is one. -/
structure Result where
  exitCode : Nat
  state : RunState
  watch : Option WatchLoop := none

/-- The least level that is logged. -/
def logLevel (h : Host) : Log.Level :=
  (Log.Level.ofName? (Case.lower ((h.getenv? "LINECACHE_LOG").getD []))).getD .error

/-- What a run shows the person at the terminal: warnings, and log lines behind a time stamp. -/
def errorText (level : Log.Level) (stamp : Bytes) (t : List Event) : Bytes := t.flatMap fun
  | .warned s => s
  | .logged r => if level.rank ≤ r.level.rank then stamp ++ [0x20] ++ r.body ++ [0x0a] else []
  | _ => []

private def wrongUsage (e : UsageError) : Action Unit :=
  Action.warn (utf8 "Incorrect Usage: " ++ e.message ++ [0x0a, 0x0a])

/-- Help on a topic of the program. -/
def programTopic (topic : Bytes) : Action Unit :=
  if topic.isEmpty then Action.print Help.program
  else match Command.find? topic with
    | some c => Action.print (Help.command c false)
    | none =>
      if helpNames.contains topic then Action.print (Help.helpCommand []) else throw (.noTopic topic)

/-- Help on a topic of a command, which has none but help itself. -/
def commandTopic (c : Command) (topic : Bytes) : Action Unit :=
  if topic.isEmpty then Action.print (Help.command c true)
  else if helpNames.contains topic then Action.print (Help.helpCommand [c.name])
  else throw (.noTopic topic)

/-- Checks that there are files, and that what is to be searched is no file. -/
def checkArguments (h : Host) (a : Arguments) : Action Unit := do
  if a.settings.isOn "tldr" then return
  if a.others.isEmpty then throw .noFiles
  for dir in a.settings.texts "include" do
    Action.note [.stat dir]
    match h.stat dir with
    | none => Action.note [.logged (.warn (utf8 "search directory not found") [(utf8 "dir", dir)])]
    | some info => if !info.isDir then throw (.notDirectory dir)

/-- Writes the completion script of a shell. -/
def complete (h : Host) (a : Arguments) : Action Unit :=
  let shell := Completion.shellName (a.others.headD []) ((h.getenv? "SHELL").getD [])
  match Completion.script? shell with
  | some script => Action.print script
  | none => throw .unknownShell

/-- Runs a command with its flags set. -/
def perform (inv : Invocation) (c : Command) (a : Arguments) : Action (Option WatchLoop) := do
  if c = .completion then
    complete inv.host a
    return none
  else
    checkArguments inv.host a
    if c = .watch then startWatch inv a
    else
      if c = .info then describeFiles inv a else showLines inv a
      return none

/-- Reads the flags of a command, with the settings in `file` behind them, and runs it. -/
def runCommand (inv : Invocation) (file : Bytes) (c : Command) (args : List Bytes) :
    Action (Option WatchLoop) := do
  match parse (c.flags ++ [helpFlag, versionFlag]) helpNames.contains args with
  | .error e =>
    wrongUsage e
    throw (.usage e)
  | .ok a =>
    if a.settings.isOn "help" then
      commandTopic c (a.others.headD [])
      return none
    let (settings, t) := fromOutside inv.host c.name file c.flags a.settings
    Action.note t
    match settings with
    | .error e => throw (.source e)
    | .ok settings =>
      match a.others with
      | name :: rest =>
        if helpNames.contains name then
          commandTopic c (rest.headD [])
          return none
        else perform inv c { a with settings }
      | [] => perform inv c { a with settings }

private def isCommandName (name : Bytes) : Bool :=
  (Command.find? name).isSome || helpNames.contains name

/-- Reads the arguments up to the name of a command and goes on with it. -/
def dispatch (inv : Invocation) (file : Bytes) : Action (Option WatchLoop) := do
  match parse [versionFlag, helpFlag] isCommandName inv.args with
  | .error e =>
    wrongUsage e
    Action.print Help.program
    throw (.usage e)
  | .ok a =>
    match a.settings.isOn "help", a.others with
    | true, others => programTopic (others.headD [])
    | false, [] => programTopic []
    | false, name :: rest =>
      if helpNames.contains name then programTopic (rest.headD [])
      else match Command.find? name with
        | some c => return ← runCommand inv file c rest
        | none => programTopic name
    return none

/-- Reads the settings file for a command.  Doing without one is fine, unless it was named. -/
def readSettings (h : Host) (args : List Bytes) : Except Config.Error Bytes × RunState :=
  let scope := match args with
    | name :: _ => if Bytes.startsWith [0x2d] name then [] else name
    | [] => []
  let o := Config.load h {} scope
  match o.value with
  | .ok c => (.ok c.source, ⟨o.config, o.trace⟩)
  | .error e =>
    if (h.given? "LINECACHE_CFG").isSome then (.error e, ⟨o.config, o.trace⟩)
    else (.ok [], ⟨o.config, o.trace ++
      [.logged (.debug (utf8 "no config file") [(utf8 "error", e.message)])]⟩)

private def asksVersion (args : List Bytes) : Bool :=
  args.any fun a => a == utf8 "--version" || a == utf8 "-v"

/-- Runs a command line whose settings were read. -/
def runWith (inv : Invocation) (file : Bytes) (s : RunState) : Except Failure (Option WatchLoop) × RunState :=
  (dispatch inv file).run s

/-- Runs the program. -/
def run (inv : Invocation) : Result :=
  let (args, before) :=
    if inv.args.isEmpty then ([utf8 "--help"], [Event.warned (utf8 "No command specified.\n")])
    else (inv.args, [])
  if asksVersion args then ⟨0, { trace := before ++ [.printed (programVersion ++ [0x0a])] }, none⟩
  else
    match readSettings inv.host args with
    | (.error e, s) => ⟨1, { s with trace := before ++ s.trace ++ [.warned (e.message ++ [0x0a])] }, none⟩
    | (.ok file, s) =>
      match runWith { inv with args } file { s with trace := before ++ s.trace } with
      | (.ok watch, s) => ⟨0, s, watch⟩
      | (.error (.noTopic name), s) =>
        ⟨3, { s with trace := s.trace ++ [.warned ((Failure.noTopic name).message ++ [0x0a])] }, none⟩
      | (.error e, s) =>
        ⟨2, { s with trace := s.trace ++
          [.logged (.debug (utf8 "run failed") [(utf8 "error", e.message)]),
            .warned (e.message ++ [0x0a])] }, none⟩

end LineStore.Cli
