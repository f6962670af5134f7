import Updater.Update.Executor
import Updater.Update.Checkout
import Updater.Install.Detect
import Updater.Git.ReleaseTag
import Updater.Version.Target
import Updater.Result
/-!
The plans an update can follow, and how each one runs.

A checkout is first synchronised: a tree with local changes is left alone (`dirty`, before any
step is recorded); on `dev` the branch must have an upstream and is fetched and rebased, on a
release channel the newest release tag of the channel is checked out. Then it is built: its
dependencies installed, `build` run, `ui:build` when there is a `ui/package.json`, and the
doctor run. A switch to a checkout clones it first when there is none (a fresh clone needs no
synchronising) and installs it globally at the end. A package install is updated by a global
install of `<name>@<tag>`, followed by the doctor when the package has `dist/entry.js`.

Every step runs under the step timeout, and the first failure ends the run as an error naming
that step. The state before is read first; the state after is read again unless the run was
skipped.
-/

namespace Updater

inductive Plan
  | git (root : String) (channel : Channel)
  | package (root : String) (manager : Manager) (target : VersionTarget)
  | switchToGit (gitDir : String) (checkout : CheckoutAction) (manager : Manager) (previousRoot : String)
  | switchToPackage (root : String) (manager : Manager) (target : VersionTarget)
  | unsupported (root : String)
  deriving DecidableEq, Repr, Inhabited

def Plan.mode : Plan → Mode
  | .git .. | .switchToGit .. => .git
  | .package _ m _ | .switchToPackage _ m _ => .ofManager m
  | .unsupported _ => .other

namespace Pipeline

abbrev Stop := Status × String

def step (timeoutMs : Nat) (name : String) (c : Command) : Step :=
  Step.mk' name (c.withTimeout (some timeoutMs))

def argvStep (timeoutMs : Nat) (name : String) (argv : List String) (cwd : Option String) : Option Step :=
  (Command.ofArgv? argv).map fun c =>
    step timeoutMs name (match cwd with
      | some d => c.inDir d
      | none => c)

def doctorArgv (entry : String) : List String := ["node", entry, "doctor", "--non-interactive"]

def snapshot (root : String) (withSha : Bool) : Act Snapshot := do
  let version ← Package.readVersion root
  let sha ← if withSha then Git.readHeadSha root statusTimeoutMs else pure none
  return ⟨version, sha⟩

def cleanCheck (t : Nat) (root : String) : Step := step t "clean check" (Git.statusPorcelain root)

def upstreamCheck (t : Nat) (root : String) : Step := step t "upstream check" (Git.upstream root)

def fetchStep (t : Nat) (root : String) : Step := step t "git fetch" (Git.fetch root)

def rebaseStep (t : Nat) (root : String) : Step := step t "git rebase" (Git.rebaseUpstream root)

def tagList (t : Nat) (root : String) : Step := step t "git tag list" (Git.listReleaseTags root)

def checkoutStep (t : Nat) (root tag : String) : Step :=
  step t "git checkout" (Git.checkoutDetached root tag)

/-- Whether a clean check's result shows local changes: it succeeded and printed something
besides blanks in the tail it kept. -/
def showsChanges (r : StepResult) : Bool :=
  r.succeeded && (r.stdoutTail.map fun o => !(Text.trim o).isEmpty).getD false

def syncCheckout (t : Nat) (e : Executor) (root : String) (channel : Channel) :
    Act (Executor × Option Stop) := do
  let r ← Executor.execute (cleanCheck t root)
  if showsChanges r then return (e, some (.skipped, reasonDirty))
  let e ← e.recordExecuted (cleanCheck t root) r
  if !r.succeeded then return (e, some (.error, "clean check"))
  match channel with
  | .dev =>
    let (e, ok) ← e.runStep (upstreamCheck t root)
    if !ok then return (e, some (.skipped, reasonNoUpstream))
    let (e, failed) ← e.runAll [fetchStep t root, rebaseStep t root]
    return (e, failed.map fun f => (.error, f))
  | _ =>
    let (e, ok) ← e.runStep (fetchStep t root)
    if !ok then return (e, some (.error, "git fetch"))
    let (listed, tags) ← Executor.executeWithStdout (tagList t root)
    if !listed.succeeded then
      let e ← e.recordExecuted (tagList t root) listed
      return (e, some (.error, "git tag list"))
    match Git.latestReleaseTag tags channel with
    | none => return (e, some (.skipped, reasonNoReleaseTag))
    | some tag =>
      let (e, ok) ← e.runStep (checkoutStep t root tag)
      return (e, if ok then none else some (.error, "git checkout"))

/-- The build steps of a checkout whose lockfiles name `m`; `ui:build` runs when it has a
`ui/package.json`. -/
def buildStepsFor (t : Nat) (root : String) (m : Manager) (ui : Bool) : List Step :=
  let argvs := [("deps install", m.installDepsArgs), ("build", m.runScriptArgs "build")] ++
    (if ui then [("ui:build", m.runScriptArgs "ui:build")] else []) ++
    [("openclaw doctor", doctorArgv (Path.join root "openclaw.mjs"))]
  argvs.filterMap fun (name, argv) => argvStep t name argv (some root)

def buildSteps (t : Nat) (root : String) : Act (List Step) := do
  let m ← Package.lockfileManager root
  let ui ← Act.exists? (Path.join (Path.join root "ui") "package.json")
  return buildStepsFor t root m ui

def cloneStep (t : Nat) (url gitDir : String) : Step := step t "git clone" (Git.clone url gitDir)

def gitPhase (t : Nat) (e : Executor) (root : String) (channel : Channel) (sync : Bool) :
    Act (Executor × Option Stop) := do
  let (e, stop) ← if sync then syncCheckout t e root channel else pure (e, none)
  match stop with
  | some s => return (e, some s)
  | none =>
    let (e, failed) ← e.runAll (← buildSteps t root)
    return (e, failed.map fun f => (.error, f))

def outcome : Option Stop → Status × Option String
  | some (s, r) => (s, some r)
  | none => (.ok, none)

def conclude (e : Executor) (mode : Mode) (root : String) (stop : Option Stop) (before : Snapshot)
    (withSha : Bool) : Act RunResult := do
  let (status, reason) := outcome stop
  let after ← if status == .skipped then pure before else snapshot root withSha
  return { status := status, mode := mode, root := root, reason := reason, before := before,
           after := after, steps := e.steps }

def runGit (t : Nat) (root : String) (channel : Channel) : Act RunResult := do
  let before ← snapshot root true
  let (e, stop) ← gitPhase t {} root channel true
  conclude e .git root stop before true

def installCheckout (t : Nat) (e : Executor) (m : Manager) (gitDir : String) :
    Option Stop → Act (Executor × Option Stop)
  | some s => pure (e, some s)
  | none => do
    let (e, failed) ← e.runAll (argvStep t "global install" (m.globalInstallArgs gitDir) (some gitDir)).toList
    return (e, failed.map fun f => (.error, f))

def runSwitchToGit (t : Nat) (gitDir : String) (checkout : CheckoutAction) (m : Manager)
    (previousRoot : String) : Act RunResult := do
  let version ← Package.readVersion previousRoot
  let sha ← match checkout with
    | .existing => Git.readHeadSha gitDir statusTimeoutMs
    | .clone _ => pure none
  let before : Snapshot := ⟨version, sha⟩
  let (e, cloned) ← match checkout with
    | .clone url => do
      let (e, ok) ← Executor.runStep {} (cloneStep t url gitDir)
      pure (e, some ok)
    | .existing => pure ({}, none)
  if cloned == some false then return ← conclude e .git gitDir (some (.error, "git clone")) before true
  let (e, stop) ← gitPhase t e gitDir .dev cloned.isNone
  let (e, stop) ← installCheckout t e m gitDir stop
  conclude e .git gitDir stop before true

/-- Where the package to update lives: the known root, else the manager's global package when
it is there, else the fallback. -/
def packageRoot (m : Manager) (knownRoot : Option String) (fallback : String) : Act String := do
  let pkgRoot ← match knownRoot with
    | some r => pure (some r)
    | none => do
      match ← m.globalPackageRoot Version.corePackage statusTimeoutMs with
      | some p => if ← Act.exists? p then pure (some p) else pure none
      | none => pure none
  return pkgRoot.getD fallback

def updateGlobally (t : Nat) (m : Manager) (root spec : String) :
    Act (Executor × Option String) := do
  let (e, failed) ← Executor.runAll {} (argvStep t "global update" (m.globalInstallArgs spec) none).toList
  let entry := Path.join (Path.join root "dist") "entry.js"
  if failed.isNone && (← Act.exists? entry) then
    e.runAll (argvStep t "openclaw doctor" (doctorArgv entry) none).toList
  else pure (e, failed)

def runPackage (t : Nat) (knownRoot : Option String) (fallback : String) (m : Manager)
    (target : VersionTarget) : Act RunResult := do
  let root ← packageRoot m knownRoot fallback
  let name := (← Package.readName root).getD Version.corePackage
  let before ← snapshot root false
  let (e, failed) ← updateGlobally t m root (name ++ "@" ++ target.tag)
  conclude e (.ofManager m) root (failed.map fun f => (.error, f)) before false

def execute (t : Nat) : Plan → Act RunResult
  | .git root channel => runGit t root channel
  | .package root m target => runPackage t (some root) root m target
  | .switchToPackage root m target => runPackage t none root m target
  | .switchToGit gitDir checkout m previous => runSwitchToGit t gitDir checkout m previous
  | .unsupported root => do
    let before ← snapshot root false
    conclude {} .other root (some (.skipped, reasonNotGitInstall)) before false

end Pipeline

end Updater
