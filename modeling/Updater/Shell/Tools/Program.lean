import Updater.Shell.State
import Updater.Shell.Tools.Quoting
import Updater.Shell.Tools.Arguments
/-!
What every program of the machine shares while it runs.

A program knows the name it was started under, which it puts before each of its messages
(`/bin/cat: f: No such file or directory` when started as `/bin/cat`), and the locale its
environment asks for: `LC_ALL`, else `LC_CTYPE`, else `LANG`, the first that is set and not
empty. The machine has the C locale and its UTF-8 form `C.UTF-8`; any other name leaves the C
locale in force. With `POSIXLY_CORRECT` in the environment, options must come before operands.

A wrong command line is reported with its message and a hint to ask for help, and the program
ends with status `1`.
-/

namespace Updater.Shell

structure Program where
  name : String
  utf8 : Bool
  strict : Bool

namespace Program

/-- Whether a locale name is the UTF-8 form of the C locale, the only one the machine has: the
name of a character set counts whatever its case and punctuation. -/
def utf8Locale (name : String) : Bool :=
  match (name.splitOn "@").headD "" |>.splitOn "." with
  | [lang, charset] =>
    lang == "C" &&
      String.ofList ((charset.toList.filter Char.isAlphanum).map Char.toLower) == "utf8"
  | _ => false

def start (name : String) : Sh Program := do
  let env := (← getProc).environment
  let setting := ["LC_ALL", "LC_CTYPE", "LANG"].findSome? fun k =>
    match env.lookup k with
    | some v => if v.isEmpty then none else some v
    | none => none
  return ⟨name, utf8Locale (setting.getD ""), (env.lookup "POSIXLY_CORRECT").isSome⟩

def quote (prog : Program) (style : Quoting.Style) (s : String) : List UInt8 :=
  Quoting.quote style prog.utf8 s

def quoteName (prog : Program) (s : String) : List UInt8 := prog.quote .shellAlways s

def quoteText (prog : Program) (s : String) : List UInt8 := prog.quote .locale s

def quoteFile (prog : Program) (s : String) : List UInt8 := prog.quote (.shell true) s

def complain (prog : Program) (msg : List UInt8) : Sh Unit :=
  write 2 (bytesOf prog.name ++ bytesOf ": " ++ msg ++ [10])

def tryHelp (prog : Program) : Sh Unit :=
  say 2 ("Try '" ++ prog.name ++ " --help' for more information.\n")

def usageError (prog : Program) (msg : List UInt8) : Sh Nat := do
  prog.complain msg
  prog.tryHelp
  return 1

/-- Reports an option's argument that names none of its choices, with the choices; the status
is `1`. -/
def badChoice (prog : Program) (option arg : String) (why : Arguments.BadChoice)
    (groups : List (List String)) : Sh Nat := do
  let what := match why with
    | .invalid => "invalid argument "
    | .ambiguous => "ambiguous argument "
  prog.complain (bytesOf what ++ prog.quoteText arg ++ bytesOf " for " ++ prog.quoteText option)
  let line := fun (names : List String) =>
    bytesOf "\n  - " ++ ((names.map prog.quoteText).intersperse (bytesOf ", ")).flatten
  write 2 (bytesOf "Valid arguments are:" ++ groups.flatMap line ++ [10])
  prog.tryHelp
  return 1

def read (prog : Program) (spec : Arguments.Spec) (args : List String) : Arguments.Reading :=
  Arguments.read { spec with strict := spec.strict || prog.strict } args

end Program

def ioReason (e : IoError) : String := (e.text.splitOn " (os error").headD e.text

end Updater.Shell
