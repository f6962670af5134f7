import Updater.Install.Kind
import Updater.Install.Package
import Updater.Git.Probe
/-!
What kind of installation a directory is.

A directory is a git installation when it holds a `.git` entry and its descriptor names the
core package; the checkout's branch, tag and commit are read then. Otherwise it is a package
installation when its parent is the global package directory of one of the managers, asked in
the order npm, pnpm, bun. Anything else is unknown. Detection only reads.

npm and pnpm say where their global packages live (`root -g`); bun keeps them under
`BUN_INSTALL`, or under `~/.bun` when that is unset or empty. Two paths are the same when their
real paths are, a missing path standing for itself.
-/

namespace Updater

def statusTimeoutMs : Nat := 3500

namespace Manager

def globalRoot (m : Manager) (timeoutMs : Nat) : Act (Option String) := do
  match m with
  | .npm | .pnpm =>
    match ← run { program := m.program, args := ["root", "-g"], timeoutMs := some timeoutMs } with
    | .ok o => return o.stdoutTrimmed?
    | .error _ => return none
  | .bun =>
    let base := match ← Act.getEnv? "BUN_INSTALL" with
      | some d => if d.isEmpty then none else some d
      | none => none
    let base := base.getD (Path.join (← Act.machine).home ".bun")
    return some (Path.join (Path.join (Path.join base "install") "global") "node_modules")

def globalPackageRoot (m : Manager) (package : String) (timeoutMs : Nat) : Act (Option String) :=
  return (← m.globalRoot timeoutMs).map (Path.join · package)

end Manager

def samePath (a b : String) : Act Bool := do
  let m ← Act.machine
  let real := fun p => (m.fs.canonical? m.cwd p).getD p
  return Path.same (real a) (real b)

def managerForRoot (root : String) (timeoutMs : Nat) : Act (Option Manager) := do
  for m in Manager.all do
    match ← m.globalRoot timeoutMs with
    | none => pure ()
    | some g =>
      match Path.parent? root with
      | some p => if ← samePath p g then return some m
      | none => pure ()
  return none

def which (program : String) : Act (Option String) := do
  let m ← Act.machine
  let dirs := ((m.getEnv? "PATH").getD "").splitOn ":"
  if (m.getEnv? "PATH").isNone then return none
  let found := dirs.find? fun d =>
    let cand := Path.join (if d.isEmpty then m.cwd else d) program
    match m.fs.stat m.cwd cand with
    | .ok (.file _ mode _) => mode % 0o1000 / 0o100 % 2 == 1 || mode % 0o100 / 0o10 % 2 == 1 || mode % 2 == 1
    | _ => false
  return found.map fun d => Path.join (if d.isEmpty then m.cwd else d) program

def managerByPresence : Act (Option Manager) := do
  for m in Manager.all do
    if (← which m.program).isSome then return some m
  return none

def resolveGlobalManager (known : Option Manager) : Act Manager := do
  match known with
  | some m => return m
  | none => return (← managerByPresence).getD .npm

structure Descriptor where
  kind : InstallKind
  root : String
  manager : Option Manager := none
  git : Option GitInfo := none
  deriving DecidableEq, Repr, Inhabited

def Descriptor.toJson (d : Descriptor) : Json :=
  .objOpt [("kind", some (.str d.kind.name)), ("root", some (.str d.root)),
    ("packageManager", d.manager.map fun m => .str m.program), ("git", d.git.map GitInfo.toJson)]

def detect (root : String) (timeoutMs : Nat) : Act Descriptor := do
  if (← Git.isCheckout root) && (← Package.isCore root) then
    return { kind := .git, root := root, git := some (← Git.readInfo root timeoutMs) }
  match ← managerForRoot root timeoutMs with
  | some m => return { kind := .package, root := root, manager := some m }
  | none => return { kind := .unknown, root := root }

end Updater
