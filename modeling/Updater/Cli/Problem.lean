import Updater.Cli.Help
/-!
Why a command line is not run, and what is printed instead.

Help and version requests print their page. Every other problem prints `error: ` and what went
wrong, then tips when a similar name exists, the usage line when the problem concerns the
options given, and a pointer to `--help`.
-/

namespace Updater.Cli

inductive Problem
  | help (text : String)
  | version (text : String)
  | helpOnMissing (text : String)
  | conflict (arg other usage : String)
  /-- An option that does not exist, with the tip of a similar one: `some (option, none)` for
  one of this command, `some (option, some command)` for one of a command named later. -/
  | unknownArgument (arg : String) (tip : Option (String × Option String)) (usage : String)
  | unknownCommand (name : String) (similar : List String) (usage : String)
  | emptyValue (arg : String)
  | invalidValue (value arg reason : String)
  | unexpectedValue (value arg usage : String)
  | missingCommand (name : String) (commands : List String) (usage : String)
  | escapedCommand (name usage : String)
  deriving DecidableEq, Repr, Inhabited

namespace Problem

def kindName : Problem → String
  | help _ => "DisplayHelp"
  | version _ => "DisplayVersion"
  | helpOnMissing _ => "DisplayHelpOnMissingArgumentOrSubcommand"
  | conflict .. => "ArgumentConflict"
  | unknownArgument .. => "UnknownArgument"
  | unknownCommand .. => "InvalidSubcommand"
  | emptyValue _ => "InvalidValue"
  | invalidValue .. => "ValueValidation"
  | unexpectedValue .. => "TooManyValues"
  | missingCommand .. => "MissingSubcommand"
  | escapedCommand .. => "UnknownArgument"

def quoted (s : String) : String := "'" ++ s ++ "'"

def usageBlock (usage : String) : String := "\n\nUsage: " ++ usage

def tryHelp : String := "\n\nFor more information, try '--help'.\n"

def tipBlock (tip : String) : String := "\n\n  tip: " ++ tip

def listed (s : String) : String := if s.any Char.isWhitespace then "\"" ++ s ++ "\"" else s

def text : Problem → String
  | help t | version t | helpOnMissing t => t
  | conflict a b usage =>
    let what := if a == b then "cannot be used multiple times" else "cannot be used with " ++ quoted b
    "error: the argument " ++ quoted a ++ " " ++ what ++ usageBlock usage ++ tryHelp
  | unknownArgument a tip usage =>
    let tipText := match tip with
      | some (opt, none) => tipBlock ("a similar argument exists: " ++ quoted opt)
      | some (opt, some cmd) => tipBlock (quoted (cmd ++ " " ++ opt) ++ " exists")
      | none => ""
    "error: unexpected argument " ++ quoted a ++ " found" ++ tipText ++ usageBlock usage ++ tryHelp
  | unknownCommand n similar usage =>
    let tipText := match similar with
      | [] => ""
      | [one] => tipBlock ("a similar subcommand exists: " ++ quoted one)
      | many => tipBlock ("some similar subcommands exist: " ++ ", ".intercalate (many.map quoted))
    "error: unrecognized subcommand " ++ quoted n ++ tipText ++ usageBlock usage ++ tryHelp
  | emptyValue a => "error: a value is required for " ++ quoted a ++ " but none was supplied" ++ tryHelp
  | invalidValue v a reason => "error: invalid value " ++ quoted v ++ " for " ++ quoted a ++ ": " ++ reason ++ tryHelp
  | unexpectedValue v a usage =>
    "error: unexpected value " ++ quoted v ++ " for " ++ quoted a ++ " found; no more were expected" ++
      usageBlock usage ++ tryHelp
  | missingCommand n cmds usage =>
    "error: " ++ quoted n ++ " requires a subcommand but one was not provided\n  [subcommands: " ++
      ", ".intercalate (cmds.map listed) ++ "]" ++ usageBlock usage ++ tryHelp
  | escapedCommand n usage =>
    "error: unexpected argument " ++ quoted n ++ " found" ++
      tipBlock ("subcommand " ++ quoted n ++ " exists; to use it, remove the '--' before it") ++
      usageBlock usage ++ tryHelp

end Problem

end Updater.Cli
