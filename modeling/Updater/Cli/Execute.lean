import Updater.Cli.Parse
import Updater.Update.Engine
import Updater.Status
import Updater.Config.Paths
import Updater.Install.Package
import Updater.Report.Human
/-!
Running what the command line asks for.

Both commands work on a package root: the one given with `--root`, made absolute; else the
core package holding the running program, then the one holding the working directory; else the
working directory itself. The config file is the one given with `-c`, else the usual one.

`update` builds its request from the arguments and the environment (`OPENCLAW_GIT_DIR`, the
home directory), validates it, and runs the engine with programs started on the machine, the
plugins reconciled through the package manager found on the machine, and the service restarted
through the core package's command line. It prints the report (as JSON with `--json`) or
`Update cancelled.`, and exits 1 when the update failed. `status` refuses a zero timeout,
collects the status with the timeout for every probe and prints it.
-/

namespace Updater.Cli

structure Run where
  stdout : String
  exitCode : Nat
  deriving DecidableEq, Repr, Inhabited

def resolveRoot (programDir : Option String) (explicit : Option String) : Act (Except Failure String) := do
  match explicit with
  | some r => Config.absolutePath r
  | none =>
    let near ← match programDir with
      | some d => Package.findCoreRoot d
      | none => pure none
    match near with
    | some r => return .ok r
    | none =>
      let cwd := (← Act.machine).cwd
      return .ok ((← Package.findCoreRoot cwd).getD cwd)

def updateRequest (programDir : Option String) (a : UpdateArgs) : Act (Except Failure Updater.Request) := do
  let root ← match ← resolveRoot programDir a.root with
    | .ok r => pure r
    | .error f => return .error f
  let gitDir ← match ← Config.resolveGitDir (← Act.getEnv? Config.gitDirEnv) with
    | .ok d => pure d
    | .error f => return .error f
  return .ok { root := root, channel := a.channel, tag := a.tag, timeout := a.timeout,
               restart := !a.noRestart, yes := a.yes, json := a.json, gitDir := gitDir,
               stateDir := ← Config.stateDir }

def runUpdateCommand (programDir : Option String) (g : Global) (a : UpdateArgs) :
    Act (Except Failure Run) := do
  let req ← match ← updateRequest programDir a with
    | .ok r => pure r
    | .error f => return .error f
  let o ← match req.validate (← Act.machine).cwd with
    | .ok o => pure o
    | .error e => return .error (.ofUpdate e)
  let store ← Config.configPath g.config
  let manager ← resolveGlobalManager none
  modify fun w => { w with runner := .system, plugins := .real manager o.stepTimeoutMs, service := .cli,
                           prompter := .ofTerminal w.terminal }
  match ← runUpdate store o with
  | .error f => return .error f
  | .ok .cancelled => return .ok ⟨"Update cancelled.\n", 0⟩
  | .ok (.finished rep) =>
    let text := if o.json then Json.render rep.toJson else Human.renderUpdate rep
    return .ok ⟨text ++ "\n", rep.result.exitCode⟩

def runStatusCommand (programDir : Option String) (g : Global) (a : StatusArgs) :
    Act (Except Failure Run) := do
  let root ← match ← resolveRoot programDir a.root with
    | .ok r => pure r
    | .error f => return .error f
  let store ← Config.configPath g.config
  let timeoutMs ← match a.timeoutMs with
    | some 0 => return .error (.ofUpdate (.invalidTimeout "0"))
    | some ms => pure ms
    | none => pure statusTimeoutMs
  modify fun w => { w with runner := .system }
  match ← collectStatus store root timeoutMs with
  | .error f => return .error f
  | .ok r =>
    let text := if a.json then Json.render r.toJson else r.render
    return .ok ⟨text ++ "\n", 0⟩

def execute (programDir : Option String) (inv : Invocation) : Act (Except Failure Run) :=
  match inv.job with
  | .update a => runUpdateCommand programDir inv.global a
  | .status a => runStatusCommand programDir inv.global a

end Updater.Cli
