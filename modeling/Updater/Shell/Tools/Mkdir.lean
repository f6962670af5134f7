import Updater.Shell.Tools.Program
import Updater.Shell.Tools.Help
import Updater.Shell.Tools.Mode
/-!
`mkdir`: makes the directories named, in order.

A directory gets every permission the mask of the process leaves, or the mode `-m` gives. With
`-p` the directories above it are made first where missing, with the permissions the mask
leaves but always writable and searchable by their owner, and a directory that is already there
is not an error. Names are read from the left: a `.` step is passed over and a `..` step is
never made. With `-v` each directory made is announced on the output, under the name it was
reached by.

A directory that cannot be made is reported, and the others are still made. A step above it
that cannot be entered is reported under the path up to that step.
-/

namespace Updater.Shell

namespace Mkdir

def options : Arguments.Spec :=
  { short := Arguments.shortOptions "pm:vZ",
    long := [⟨"context", .optional, "Z"⟩, ⟨"mode", .required, "m"⟩, ⟨"parents", .nothing, "p"⟩,
      ⟨"verbose", .nothing, "v"⟩, ⟨"help", .nothing, "help"⟩, ⟨"version", .nothing, "version"⟩] }

structure Settings where
  parents : Bool := false
  verbose : Bool := false
  mode : Option String := none

def segments : Nat → List Char → List (List Char × List Char)
  | 0, _ => []
  | _, [] => []
  | f + 1, cs =>
    let name := cs.takeWhile (· != '/')
    let rest := cs.drop name.length
    let slashes := rest.takeWhile (· == '/')
    (name, slashes) :: segments f (rest.drop slashes.length)

/-- The steps above the last name of a path, from the top: for each, the path up to it and the
step itself, which carries the slashes a path starts with. -/
def ancestors (p : String) : List (String × String) :=
  let cs := p.toList
  let lead := cs.takeWhile (· == '/')
  let rec go : List Char → List Char → List (List Char × List Char) → List (String × String)
    | _, _, [] => []
    | _, _, [_] => []
    | done, first, (name, slashes) :: rest =>
      (String.ofList (done ++ name), String.ofList (first ++ name)) ::
        go (done ++ name ++ slashes) [] rest
  go lead lead (segments (cs.length + 1) (cs.drop lead.length))

def announce (prog : Program) (s : Settings) (dir : String) : Sh Unit :=
  if s.verbose then
    write 1 (bytesOf prog.name ++ bytesOf ": created directory " ++ prog.quoteName dir ++ [10])
  else pure ()

def cannotCreate (prog : Program) (dir : String) (e : IoError) : Sh Unit :=
  prog.complain (bytesOf "cannot create directory " ++ prog.quoteText dir ++ bytesOf (": " ++ ioReason e))

def makeAncestors (prog : Program) (s : Settings) (mode : Nat) : List (String × String) → Sh Bool
  | [] => return true
  | (upTo, step) :: rest => do
    if step == "." then makeAncestors prog s mode rest
    else
      let cwd := (← getProc).cwd
      let made : Option IoError ←
        if step == ".." then pure none
        else
          let st ← get
          match st.fs.mkdir cwd upTo mode with
          | .ok fs => do set { st with fs := fs }; announce prog s upTo; pure none
          | .error e => pure (some e)
      match (← get).fs.stat cwd upTo with
      | .ok (.dir _) => makeAncestors prog s mode rest
      | .ok (.file ..) => cannotCreate prog upTo IoError.notADirectory; return false
      | .error e =>
        cannotCreate prog upTo (if e.kind == .notFound then made.getD e else e)
        return false

def makeOne (prog : Program) (s : Settings) (mode ancestorMode : Nat) (dir : String) : Sh Bool := do
  let ok ← if s.parents then makeAncestors prog s ancestorMode (ancestors dir) else pure true
  if !ok then return false
  let st ← get
  let cwd := (← getProc).cwd
  match st.fs.mkdir cwd dir mode with
  | .ok fs =>
    set { st with fs := fs }
    announce prog s dir
    return true
  | .error e =>
    if s.parents && e.kind != .notFound && st.fs.isDir cwd dir then return true
    cannotCreate prog dir e
    return false

end Mkdir

def runMkdir (name : String) (args : List String) : Sh Nat := do
  let prog ← Program.start name
  let r := prog.read Mkdir.options args
  let rec settle : List Arguments.Found → Mkdir.Settings → Sh (Option Nat × Mkdir.Settings)
    | [], s => return (none, s)
    | o :: rest, s => do
      match o.key with
      | "help" => say 1 (helpText "mkdir" name); return (some 0, s)
      | "version" => return (some 0, s)
      | "p" => settle rest { s with parents := true }
      | "v" => settle rest { s with verbose := true }
      | "m" => settle rest { s with mode := o.arg }
      | "Z" =>
        if o.arg.isSome then
          prog.complain (bytesOf "warning: ignoring --context; it requires an SELinux/SMACK-enabled kernel")
        settle rest s
      | _ => settle rest s
  match ← settle r.found {} with
  | (some code, _) => return code
  | (none, s) =>
    match r.error with
    | some msg => prog.usageError msg
    | none =>
      if r.operands.isEmpty then return ← prog.usageError (bytesOf "missing operand")
      let umask := (← getProc).umask
      let mode? : Option Nat :=
        match s.mode with
        | none => some (Mode.outside umask &&& 0o777)
        | some text => (Mode.compile text).map (Mode.adjust true umask 0o777)
      match mode? with
      | none =>
        prog.complain (bytesOf "invalid mode " ++ prog.quoteText (s.mode.getD ""))
        return 1
      | some mode =>
        -- the steps above are always writable and searchable by their owner
        let ancestorMode := Mode.outside (umask &&& 0o7477) &&& 0o777
        let ok ← r.operands.foldlM (fun ok dir => do
          let made ← Mkdir.makeOne prog s mode ancestorMode dir
          return ok && made) true
        return if ok then 0 else 1

end Updater.Shell
