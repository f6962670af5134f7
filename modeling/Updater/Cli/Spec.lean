/-!
The command line of `openclaw-update`: its commands and their options.

The program takes global options (`-v`, `-q`, `-c <PATH>`, `--no-progress`), which may also be
written after the command, and one command: `update`, `status`, or `help`, which prints the help
of the command named after it. Every option has a long name; some have a one-letter short
name. An option either is a switch or takes one value, which is any text, a path (any text but
the empty one) or a count (an unsigned 64-bit decimal). `-q` cannot be used with `-v`.

Each command lists every option it accepts in the order they are looked up: its own, then the
global ones, then `-h`; the top level ends with `-V`. Help lists options by their display rank
(their position among the options declared with them, where the top level counts its commands
`update` and `status` first; `-h` and `-V` come last) and then by
their short letter or long name. The options declared together for one command form its group,
which usage lines may show as a whole.
-/

namespace Updater.Cli

inductive ValueKind
  | text
  | path
  | count
  deriving DecidableEq, Repr, Inhabited

inductive Action
  | switch
  | value (name : String) (kind : ValueKind)
  | help
  | version
  deriving DecidableEq, Repr, Inhabited

structure Arg where
  id : String
  short : Option Char := none
  long : String
  action : Action := .switch
  help : String
  longHelp : Option String := none
  global : Bool := false
  rank : Nat := 999
  conflicts : List String := []
  deriving DecidableEq, Repr, Inhabited

namespace Arg

def takesValue (a : Arg) : Bool :=
  match a.action with
  | .value .. => true
  | _ => false

def display (a : Arg) : String :=
  "--" ++ a.long ++ match a.action with
    | .value n _ => " <" ++ n ++ ">"
    | _ => ""

end Arg

structure Command where
  name : String
  usageName : String
  about : String
  longAbout : Option String := none
  args : List Arg
  group : Option (String × List String) := none
  subcommands : List (String × String) := []
  version : Option String := none
  deriving Repr, Inhabited

namespace Command

def findLong? (c : Command) (long : String) : Option Arg := c.args.find? (·.long == long)

def findShort? (c : Command) (ch : Char) : Option Arg := c.args.find? (·.short == some ch)

def find? (c : Command) (id : String) : Option Arg := c.args.find? (·.id == id)

def isGroup (c : Command) (id : String) : Bool := (c.group.map (·.1 == id)).getD false

def groupMembers (c : Command) : List String := (c.group.map (·.2)).getD []

def groupOf? (c : Command) (id : String) : Option String :=
  c.group.bind fun (g, members) => if members.contains id then some g else none

def hasLongHelp (c : Command) : Bool := c.longAbout.isSome

end Command

def programName : String := "openclaw-update"

def programVersion : String := "0.4.10"

def globalArgs : List Arg :=
  [{ id := "verbose", short := some 'v', long := "verbose", help := "Enable debug logging",
     global := true, rank := 2 },
   { id := "quiet", short := some 'q', long := "quiet", help := "Only log errors",
     global := true, rank := 3, conflicts := ["verbose"] },
   { id := "config", short := some 'c', long := "config", action := .value "PATH" .path,
     help := "Path to the config file", global := true, rank := 4 },
   { id := "no_progress", long := "no-progress", help := "Disable progress indicators",
     global := true, rank := 5 }]

def helpArg (long : Bool) : Arg :=
  if long then
    { id := "help", short := some 'h', long := "help", action := .help,
      help := "Print help (see more with '--help')", longHelp := some "Print help (see a summary with '-h')" }
  else { id := "help", short := some 'h', long := "help", action := .help, help := "Print help" }

def versionArg : Arg :=
  { id := "version", short := some 'V', long := "version", action := .version, help := "Print version" }

def updateArgs : List Arg :=
  [{ id := "json", long := "json", help := "Print the result as JSON (never prompts)", rank := 0 },
   { id := "no_restart", long := "no-restart",
     help := "Do not restart the gateway service after a successful update", rank := 1 },
   { id := "channel", long := "channel", action := .value "CHANNEL" .text,
     help := "Update channel: stable, beta or dev. Switching kind persists it", rank := 2 },
   { id := "tag", long := "tag", action := .value "TAG" .text,
     help := "Dist-tag or version to install (package installs only)", rank := 3 },
   { id := "timeout", long := "timeout", action := .value "SECONDS" .text,
     help := "Per-step timeout in seconds", rank := 4 },
   { id := "yes", short := some 'y', long := "yes", help := "Accept a downgrade without prompting", rank := 5 },
   { id := "root", long := "root", action := .value "PATH" .path,
     help := "Package root to update (defaults to the running installation)", rank := 6 }]

def statusArgs : List Arg :=
  [{ id := "json", long := "json", help := "Print the status as JSON", rank := 0 },
   { id := "timeout", long := "timeout", action := .value "MS" .count,
     help := "Timeout for each probe (git, package manager, registry) in milliseconds", rank := 1 },
   { id := "root", long := "root", action := .value "PATH" .path,
     help := "Package root to inspect (defaults to the running installation)", rank := 2 }]

def updateAbout : String := "Update the installation to the newest version on its channel"

def statusAbout : String := "Show installation, channel and update availability"

def helpAbout : String := "Print this message or the help of the given subcommand(s)"

def topCommand : Command :=
  { name := programName, usageName := programName,
    about := "Update OpenClaw installations (git checkouts and global packages)",
    longAbout := some ("Updates an OpenClaw installation in place: git checkouts are rebased or moved " ++
      "to the newest release tag and rebuilt, package installs are reinstalled through their " ++
      "package manager. Switching channel can switch between the two."),
    args := globalArgs ++ [helpArg true, versionArg],
    group := some ("Cli", globalArgs.map (·.id)),
    subcommands := [("update", updateAbout), ("status", statusAbout), ("help", helpAbout)],
    version := some programVersion }

def updateCommand : Command :=
  { name := "update", usageName := programName ++ " update", about := updateAbout,
    args := updateArgs ++ globalArgs ++ [helpArg false],
    group := some ("UpdateCommand", updateArgs.map (·.id)) }

def statusCommand : Command :=
  { name := "status", usageName := programName ++ " status", about := statusAbout,
    args := statusArgs ++ globalArgs ++ [helpArg false],
    group := some ("StatusCommand", statusArgs.map (·.id)) }

def helpCommand : Command :=
  { name := "help", usageName := programName ++ " help", about := helpAbout, args := [] }

def subcommand? (name : String) : Option Command :=
  if name == "update" then some updateCommand
  else if name == "status" then some statusCommand
  else if name == "help" then some helpCommand
  else none

end Updater.Cli
