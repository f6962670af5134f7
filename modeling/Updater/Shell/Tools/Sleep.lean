import Updater.Shell.Tools.Program
import Updater.Shell.Tools.Help
import Updater.Shell.Format
/-!
`sleep`: lets the time its operands add up to pass.

An operand is a number as C reads a double (decimal or hexadecimal, `inf` too), not negative and
not a NaN, followed by at most one letter: `s` for seconds, which is also what a bare number
counts, `m` for minutes, `h` for hours and `d` for days. Every operand that is not one is
reported before the program gives up. The only options are `--help` and `--version`, and only
the first option is looked at: any other is an error.
-/

namespace Updater.Shell

namespace Sleep

def options : Arguments.Spec :=
  { short := [], long := [⟨"help", .nothing, "help"⟩, ⟨"version", .nothing, "version"⟩] }

def unitSeconds : List Char → Option Nat
  | [] => some 1
  | ['s'] => some 1
  | ['m'] => some 60
  | ['h'] => some 3600
  | ['d'] => some 86400
  | _ => none

def millis (arg : String) : Option Nat :=
  let n := Format.readDouble arg
  if !n.converted then none
  else
    match unitSeconds n.rest with
    | none => none
    | some unit =>
      match n.value with
      | .finite neg m e =>
        if neg && m != 0 then none
        else
          let (num, den) := Text.Binary64.magnitude m e
          some (num * 1000 * unit / den)
      | .infinity false => some (1000 * 86400 * 365 * 1000000)
      | _ => none

end Sleep

def runSleep (name : String) (args : List String) : Sh Nat := do
  let prog ← Program.start name
  let r := prog.read Sleep.options args
  match r.found.head?, r.error with
  | some o, _ =>
    if o.key == "help" then say 1 (helpText "sleep" name)
    return 0
  | none, some msg => prog.usageError msg
  | none, none =>
    if args.isEmpty then return ← prog.usageError (bytesOf "missing operand")
    let (total, ok) ← r.operands.foldlM (fun (acc : Nat × Bool) arg => do
      match Sleep.millis arg with
      | some ms => return (acc.1 + ms, acc.2)
      | none =>
        prog.complain (bytesOf "invalid time interval " ++ prog.quoteText arg)
        return (acc.1, false)) (0, true)
    if !ok then
      prog.tryHelp
      return 1
    tick total
    return 0

end Updater.Shell
