import Updater.Cli.Spec
/-!
Usage lines and help pages.

A usage line names the command, then `[OPTIONS]` and `<COMMAND>` when it has them. When an
error is about options that were given, the line shows those instead of `[OPTIONS]`; an option
whose whole group was given is shown through its group, `<--a|--b <V>|...>`, after the single
options.

A help page is the description, the usage line, then the commands and the options. In the
summary each option's help stands on its line, aligned two columns after the widest option; in
the long form (`--help` on a command with long help) each help goes on the next line, indented,
with a blank line between options.
-/

namespace Updater.Cli

def spaces (n : Nat) : String := String.ofList (List.replicate n ' ')

def Command.plainUsage (c : Command) : String :=
  if c.name == "help" then c.usageName ++ " [COMMAND]..."
  else c.usageName ++ " [OPTIONS]" ++ if c.subcommands.isEmpty then "" else " <COMMAND>"

def Command.groupText (c : Command) (g : String) : String :=
  if c.isGroup g then
    "<" ++ "|".intercalate ((c.groupMembers.filterMap c.find?).map Arg.display) ++ ">"
  else ""

def Command.usageWith (c : Command) (given : List String) : String :=
  if given.isEmpty then c.plainUsage
  else
    let groups := (given.filter c.isGroup).eraseDups
    let members := groups.flatMap fun _ => c.groupMembers
    let singles := ((given.filter fun i => !c.isGroup i && !members.contains i).filterMap c.find?).map Arg.display
    let words := singles.eraseDups ++ groups.map c.groupText
    c.usageName ++ " " ++ " ".intercalate words ++ if c.subcommands.isEmpty then "" else " <COMMAND>"

def sortKey (a : Arg) : Nat × String :=
  (a.rank, match a.short with
    | some ch => (ch.toLower.toString) ++ (if ch.isLower then "0" else "1")
    | none => a.long)

def keyBefore (x y : Nat × String) : Bool := x.1 < y.1 || (x.1 == y.1 && decide (x.2 < y.2))

def insertArg (a : Arg) : List Arg → List Arg
  | [] => [a]
  | b :: rest => if keyBefore (sortKey a) (sortKey b) then a :: b :: rest else b :: insertArg a rest

def sortArgs (args : List Arg) : List Arg := args.foldr insertArg []

def Arg.helpName (a : Arg) : String :=
  "  " ++ (match a.short with
    | some ch => "-" ++ ch.toString ++ ", "
    | none => "    ") ++ a.display

def optionLines (args : List Arg) (long : Bool) : String :=
  let sorted := sortArgs args
  let widest := sorted.foldl (fun w a => max w a.display.length) 2
  let entry := fun (a : Arg) =>
    if long then a.helpName ++ "\n" ++ spaces 10 ++ (a.longHelp.getD a.help)
    else a.helpName ++ spaces (widest + 2 - a.display.length) ++ a.help
  (if long then "\n\n" else "\n").intercalate (sorted.map entry)

def commandLines (subs : List (String × String)) : String :=
  let widest := subs.foldl (fun w s => max w s.1.length) 0
  "\n".intercalate (subs.map fun (n, about) => "  " ++ n ++ spaces (widest + 2 - n.length) ++ about)

/-- The help page of a command; `long` asks for the long form, which only a command with long
help has. -/
def Command.helpText (c : Command) (long : Bool) : String :=
  let useLong := long && c.hasLongHelp
  let about := if useLong then c.longAbout.getD c.about else c.about
  let sections :=
    (if c.subcommands.isEmpty then [] else ["Commands:\n" ++ commandLines c.subcommands]) ++
    (if c.name == "help" then ["Arguments:\n  [COMMAND]...  Print help for the subcommand(s)"] else []) ++
    (if c.args.isEmpty then [] else ["Options:\n" ++ optionLines c.args useLong])
  about ++ "\n\nUsage: " ++ c.plainUsage ++ "\n\n" ++ "\n\n".intercalate sections ++ "\n"

def Command.versionText (c : Command) : String := c.name ++ " " ++ c.version.getD "" ++ "\n"

end Updater.Cli
