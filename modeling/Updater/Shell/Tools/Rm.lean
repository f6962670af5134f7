import Updater.Shell.Tools.Program
import Updater.Shell.Tools.Help
/-!
`rm`: removes the files named, in order.

A directory is only removed with `-r`, together with everything in it, or with `-d` when it is
empty. `.` and `..` as the last step of a name are refused, and so is the root with `-r` unless
`--no-preserve-root` is given in full. A file that is not there is reported, unless `-f` says to
pass over it; `-f` with nothing named is not an error either.

With `-i` every removal is asked about first on the error stream, and the answer is a line read
from the input: one starting with `y` or `Y` is yes. A directory is asked about twice, before
going into it and before removing it; `-I` asks once for the whole command when it removes
recursively or more than three names. A directory is kept when something in it was kept by a
refusal or an error, without a second message. With `-v` every removal is announced on the
output, under the name it was reached by.

A command line that names an option which is also a file gets a hint on how to remove that
file.
-/

namespace Updater.Shell

namespace Rm

inductive Asking
  | never
  /-- Only about files it may not write when the input is a terminal, which for the machine's
  superuser and its inputs is never. -/
  | sometimes
  | always
  deriving DecidableEq, Repr

structure Settings where
  force : Bool := false
  asking : Asking := .sometimes
  askOnce : Bool := false
  recursive : Bool := false
  emptyDirs : Bool := false
  verbose : Bool := false
  preserveRoot : Bool := true

inductive Outcome
  | removed
  | declined
  | failed
  deriving DecidableEq, Repr

def Outcome.join : Outcome → Outcome → Outcome
  | .failed, _ => .failed
  | _, .failed => .failed
  | .declined, _ => .declined
  | _, .declined => .declined
  | .removed, .removed => .removed

def options : Arguments.Spec :=
  { short := Arguments.shortOptions "dfirvIR",
    long := [⟨"dir", .nothing, "d"⟩, ⟨"force", .nothing, "f"⟩,
      ⟨"interactive", .optional, "interactive"⟩, ⟨"one-file-system", .nothing, "one-file-system"⟩,
      ⟨"no-preserve-root", .nothing, "no-preserve-root"⟩,
      ⟨"preserve-root", .optional, "preserve-root"⟩, ⟨"-presume-input-tty", .nothing, "tty"⟩,
      ⟨"recursive", .nothing, "r"⟩, ⟨"verbose", .nothing, "v"⟩, ⟨"help", .nothing, "help"⟩,
      ⟨"version", .nothing, "version"⟩] }

def whenChoices : List (String × Option Asking) :=
  [("never", some .never), ("no", some .never), ("none", some .never), ("once", none),
   ("always", some .always), ("yes", some .always)]

def walkedName (p : String) : String :=
  let cs := p.toList
  if cs.length > 2 && cs.getLast? == some '/' then
    let body := (cs.reverse.dropWhile (· == '/')).reverse
    if body.isEmpty then "/" else String.ofList (body ++ ['/'])
  else p

def lastStep (p : String) : List Char :=
  let cs := (p.toList).dropWhile (· == '/')
  let rec go : List Char → List Char → Bool → List Char
    | [], base, _ => base
    | c :: rest, base, afterSlash =>
      if c == '/' then go rest base true
      else if afterSlash then go rest (c :: rest) false
      else go rest base false
  go cs cs false

def isDots (step : List Char) : Bool :=
  match step with
  | '.' :: '.' :: rest => rest.head? == none || rest.head? == some '/'
  | '.' :: rest => rest.head? == none || rest.head? == some '/'
  | _ => false

def inside (dir name : String) : String :=
  if dir.endsWith "/" then dir ++ name else dir ++ "/" ++ name

/-- A run of `rm`, with the answers read from its input and not yet used; none before its
first question. -/
abbrev Run := StateT (Option (List UInt8)) Sh

def ask (prog : Program) (question : List UInt8) : Run Bool := do
  write 2 (bytesOf prog.name ++ bytesOf ": " ++ question)
  let buffered ← match (← get) with
    | some bs => pure bs
    | none => readAll 0
  let line := buffered.takeWhile (· != 10)
  set (some (buffered.drop (line.length + 1)))
  return line.head? == some 121 || line.head? == some 89

def currentFs : Sh FileSystem := return (← get).fs

def eraseAt (loc : Location) : Sh Unit := modify fun st => { st with fs := st.fs.erase loc }

def cannotRemove (prog : Program) (path reason : String) : Sh Unit :=
  prog.complain (bytesOf "cannot remove " ++ prog.quoteName path ++ bytesOf (": " ++ reason))

def announce (prog : Program) (s : Settings) (what path : String) : Sh Unit :=
  if s.verbose then write 1 (bytesOf what ++ prog.quoteName path ++ [10]) else pure ()

def removeFile (prog : Program) (s : Settings) (path : String) (loc : Location) (empty : Bool) :
    Run Outcome := do
  if s.asking == .always then
    let kind := if empty then "regular empty file " else "regular file "
    if !(← ask prog (bytesOf ("remove " ++ kind) ++ prog.quoteName path ++ bytesOf "? ")) then
      return .declined
  eraseAt loc
  announce prog s "removed " path
  return .removed

/-- Removes a directory whose contents are gone: the outcome, and whether what holds it must be
kept. -/
def removeEmptyDir (prog : Program) (s : Settings) (path : String) (loc : Location) :
    Run (Outcome × Bool) := do
  let fs ← currentFs
  if !(fs.children loc).isEmpty then
    cannotRemove prog path "Directory not empty"
    return (.failed, true)
  else if loc.isEmpty then
    cannotRemove prog path "Device or resource busy"
    return (.failed, true)
  else
    eraseAt loc
    announce prog s "removed directory " path
    return (.removed, false)

/-- Removes an entry reached by a name, and everything in it: the outcome, and whether what
holds it must be kept. -/
def removeEntry (prog : Program) (s : Settings) : Nat → Bool → String → Location → Run (Outcome × Bool)
  | 0, _, _, _ => return (.failed, true)
  | f + 1, top, path, loc => do
    let fs ← currentFs
    match fs.find? loc with
    | none => return (.removed, false)
    | some (.file content _ _) => return (← removeFile prog s path loc content.isEmpty, false)
    | some (.dir _) =>
      let names := (fs.children loc).mergeSort fun a b => decide (a ≤ b)
      let empty := names.isEmpty
      if !s.recursive && !(s.emptyDirs && empty) then
        cannotRemove prog path (if s.emptyDirs then "Directory not empty" else "Is a directory")
        return (.failed, true)
      if top && isDots (lastStep path) then
        prog.complain (bytesOf "refusing to remove '.' or '..' directory: skipping " ++
          prog.quoteName path)
        return (.failed, true)
      if top && s.preserveRoot && loc.isEmpty then
        if path == "/" then
          prog.complain (bytesOf "it is dangerous to operate recursively on '/'")
        else
          prog.complain (bytesOf "it is dangerous to operate recursively on " ++
            prog.quoteName path ++ bytesOf " (same as '/')")
        prog.complain (bytesOf "use --no-preserve-root to override this failsafe")
        return (.failed, true)
      if s.asking == .always then
        let question := if empty then "remove directory " else "descend into directory "
        if !(← ask prog (bytesOf question ++ prog.quoteName path ++ bytesOf "? ")) then
          return (.declined, true)
      if empty then removeEmptyDir prog s path loc
      else
        let (outcome, kept) ← names.foldlM (fun (acc : Outcome × Bool) name => do
          let (o, k) ← removeEntry prog s f false (inside path name) (loc ++ [name])
          return (acc.1.join o, acc.2 || k)) (.removed, false)
        if kept then return (outcome.join .declined, true)
        if s.asking == .always then
          if !(← ask prog (bytesOf "remove directory " ++ prog.quoteName path ++ bytesOf "? ")) then
            return (outcome.join .declined, false)
        let (o, k) ← removeEmptyDir prog s path loc
        return (outcome.join o, k)

def removeNamed (prog : Program) (s : Settings) (name : String) : Run Outcome := do
  let path := walkedName name
  let fs ← currentFs
  let cwd := (← getProc).cwd
  let missing := fun (e : IoError) => (do
    if s.force && (e.kind == IoKind.notFound || e.kind == IoKind.notADirectory) then
      return Outcome.removed
    cannotRemove prog path (ioReason e)
    return Outcome.failed : Run Outcome)
  match fs.resolve cwd path with
  | .error e => missing e
  | .ok loc =>
    match fs.find? loc with
    | none => missing IoError.notFound
    | some _ => return (← removeEntry prog s (fs.entries.length + 2) true path loc).1

def hyphenHint (prog : Program) (args : List String) : Sh Unit := do
  let fs := (← get).fs
  let cwd := (← getProc).cwd
  match args.find? fun a => a.startsWith "-" && a.length > 1 && fs.exists? cwd a with
  | some a =>
    write 2 (bytesOf ("Try '" ++ prog.name ++ " ./") ++ prog.quote (.shell false) a ++
      bytesOf "' to remove the file " ++ prog.quoteName a ++ bytesOf ".\n")
  | none => pure ()

end Rm

def runRm (name : String) (args : List String) : Sh Nat := do
  let prog ← Program.start name
  let r := prog.read Rm.options args
  let rec settle : List Arguments.Found → Rm.Settings → Sh (Option Nat × Rm.Settings)
    | [], s => return (none, s)
    | o :: rest, s => do
      match o.key with
      | "help" => say 1 (helpText "rm" name); return (some 0, s)
      | "version" => return (some 0, s)
      | "d" => settle rest { s with emptyDirs := true }
      | "f" => settle rest { s with asking := .never, force := true, askOnce := false }
      | "i" => settle rest { s with asking := .always, force := false, askOnce := false }
      | "I" => settle rest { s with asking := .sometimes, force := false, askOnce := true }
      | "r" => settle rest { s with recursive := true }
      | "R" => settle rest { s with recursive := true }
      | "v" => settle rest { s with verbose := true }
      | "interactive" =>
        match o.arg with
        | none => settle rest { s with asking := .always, force := false, askOnce := false }
        | some a =>
          match Arguments.choose Rm.whenChoices a with
          | .error why =>
            return (some (← prog.badChoice "--interactive" a why (Arguments.groups Rm.whenChoices)), s)
          | .ok (some .never) => settle rest { s with asking := .never, askOnce := false }
          | .ok (some .always) => settle rest { s with asking := .always, force := false, askOnce := false }
          | .ok _ => settle rest { s with asking := .sometimes, force := false, askOnce := true }
      | "no-preserve-root" =>
        if o.word != "--no-preserve-root" then
          prog.complain (bytesOf "you may not abbreviate the --no-preserve-root option")
          return (some 1, s)
        settle rest { s with preserveRoot := false }
      | "preserve-root" =>
        match o.arg with
        | some a =>
          if a != "all" then
            prog.complain (bytesOf "unrecognized --preserve-root argument: " ++ prog.quoteName a)
            return (some 1, s)
          settle rest { s with preserveRoot := true }
        | none => settle rest { s with preserveRoot := true }
      | _ => settle rest s
  match ← settle r.found {} with
  | (some code, _) => return code
  | (none, s) =>
    match r.error with
    | some msg =>
      prog.complain msg
      Rm.hyphenHint prog args
      prog.tryHelp
      return 1
    | none =>
      let names := r.operands
      if names.isEmpty then
        if s.force then return 0 else return ← prog.usageError (bytesOf "missing operand")
      let run : Rm.Run Nat := do
        let n := names.length
        if s.askOnce && (s.recursive || n > 3) then
          let question := "remove " ++ toString n ++ (if n == 1 then " argument" else " arguments") ++
            (if s.recursive then " recursively? " else "? ")
          if !(← Rm.ask prog (bytesOf question)) then return 0
        let outcome ← names.foldlM (fun acc n => do
          return acc.join (← Rm.removeNamed prog s n)) Rm.Outcome.removed
        return if outcome == .failed then 1 else 0
      return (← run.run none).1

end Updater.Shell
