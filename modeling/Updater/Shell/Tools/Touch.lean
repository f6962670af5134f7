import Updater.Shell.Tools.Program
import Updater.Shell.Tools.Help
import Updater.Shell.Tools.Dates
/-!
`touch`: marks the files named as used and changed now, or at the time `-d`, `-t` or `-r` gives,
and makes the ones that are missing as empty files, unless `-c` says not to.

The file system keeps no times, so what shows is which files come to be, and what is reported:
a file that cannot be opened is reported as one that cannot be touched, and a name that opens
as a directory (a directory, or a name ending in `/`) is reported only when its times cannot be
set either. A name that is missing under `-c` is passed over. The name `-` stands for the output.

A time is checked before anything is touched: a stamp `[[CC]YY]MMDDhhmm[.ss]` after `-t`, a
date described in words after `-d`, or the times of the file named after `-r`; `-t` goes with
neither of the other two.
-/

namespace Updater.Shell

namespace Touch

def options : Arguments.Spec :=
  { short := Arguments.shortOptions "acd:fhmr:t:",
    long := [⟨"time", .required, "time"⟩, ⟨"no-create", .nothing, "c"⟩, ⟨"date", .required, "d"⟩,
      ⟨"reference", .required, "r"⟩, ⟨"no-dereference", .nothing, "h"⟩,
      ⟨"help", .nothing, "help"⟩, ⟨"version", .nothing, "version"⟩] }

def timeChoices : List (String × Bool) :=
  [("atime", true), ("access", true), ("use", true), ("mtime", false), ("modify", false)]

structure Settings where
  noCreate : Bool := false
  noDereference : Bool := false
  stamped : Bool := false
  date : Option String := none
  reference : Option String := none

def touchOne (prog : Program) (s : Settings) (name : String) : Sh Bool := do
  let cwd := (← getProc).cwd
  if name == "-" then
    if ((← getProc).fds.lookup 1).isSome || s.noCreate then return true
    prog.complain (bytesOf "setting times of '-': Bad file descriptor")
    return false
  -- opening the file, which makes it when it is missing
  let opened : Option IoError ←
    if s.noCreate || s.noDereference then pure none
    else
      let st ← get
      if name.endsWith "/" && FileSystem.trimSlashes name != name then
        match st.fs.resolve cwd (FileSystem.trimSlashes name) with
        | .error e => pure (some e)
        | .ok _ => pure (some IoError.isADirectory)
      else
        match st.fs.touch cwd name with
        | .ok (fs, _) => do set { st with fs := fs }; pure none
        | .error e => pure (some e)
  -- setting the times of what the name names
  let fs := (← get).fs
  let timesError : Option IoError :=
    if (s.noCreate || s.noDereference) || opened.isSome then
      match fs.stat cwd name with
      | .ok _ => none
      | .error e => some e
    else none
  match timesError with
  | none => return true
  | some e =>
    match opened with
    | some o =>
      if o.kind != .isADirectory then
        prog.complain (bytesOf "cannot touch " ++ prog.quoteName name ++ bytesOf (": " ++ ioReason o))
        return false
      else pure ()
    | none => pure ()
    if s.noCreate && e.kind == .notFound then return true
    prog.complain (bytesOf "setting times of " ++ prog.quoteName name ++ bytesOf (": " ++ ioReason e))
    return false

end Touch

def runTouch (name : String) (args : List String) : Sh Nat := do
  let prog ← Program.start name
  let r := prog.read Touch.options args
  let rec settle : List Arguments.Found → Touch.Settings → Sh (Option Nat × Touch.Settings)
    | [], s => return (none, s)
    | o :: rest, s => do
      match o.key with
      | "help" => say 1 (helpText "touch" name); return (some 0, s)
      | "version" => return (some 0, s)
      | "c" => settle rest { s with noCreate := true }
      | "h" => settle rest { s with noDereference := true }
      | "d" => settle rest { s with date := o.arg }
      | "r" => settle rest { s with reference := o.arg }
      | "t" =>
        let stamp := o.arg.getD ""
        if Dates.validStamp stamp then settle rest { s with stamped := true }
        else
          prog.complain (bytesOf "invalid date format " ++ prog.quoteText stamp)
          return (some 1, s)
      | "time" =>
        let word := o.arg.getD ""
        match Arguments.choose Touch.timeChoices word with
        | .error why =>
          return (some (← prog.badChoice "--time" word why (Arguments.groups Touch.timeChoices)), s)
        | .ok _ => settle rest s
      | _ => settle rest s
  match ← settle r.found {} with
  | (some code, _) => return code
  | (none, s) =>
    match r.error with
    | some msg => prog.usageError msg
    | none =>
      if s.stamped && (s.reference.isSome || s.date.isSome) then
        return ← prog.usageError (bytesOf "cannot specify times from more than one source")
      if let some ref := s.reference then
        match (← get).fs.stat (← getProc).cwd ref with
        | .error e =>
          prog.complain (bytesOf "failed to get attributes of " ++ prog.quoteName ref ++
            bytesOf (": " ++ ioReason e))
          return 1
        | .ok _ => pure ()
      if let some d := s.date then
        if !Dates.validDescription d then
          prog.complain (bytesOf "invalid date format " ++ prog.quoteText d)
          return 1
      if r.operands.isEmpty then return ← prog.usageError (bytesOf "missing file operand")
      let ok ← r.operands.foldlM (fun ok n => do
        let done ← Touch.touchOne prog s n
        return ok && done) true
      return if ok then 0 else 1

end Updater.Shell
