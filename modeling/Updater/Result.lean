import Updater.Install.Manager
import Updater.Step
/-!
What an update run produces.

A run ends `ok`, `skipped` (with a reason such as `dirty`) or `error` (with the name of the
failed step as its reason). It reports the mode it ran in, the root it worked on, the version
and commit before and after, the recorded steps and the total duration. Only an error exits
with status 1.
-/

namespace Updater

inductive Status
  | ok
  | skipped
  | error
  deriving DecidableEq, Repr, Inhabited

def Status.name : Status → String
  | .ok => "ok"
  | .skipped => "skipped"
  | .error => "error"

inductive Mode
  | git
  | npm
  | pnpm
  | bun
  | other
  deriving DecidableEq, Repr, Inhabited

namespace Mode

def name : Mode → String
  | git => "git"
  | npm => "npm"
  | pnpm => "pnpm"
  | bun => "bun"
  | other => "other"

def ofManager : Manager → Mode
  | .npm => npm
  | .pnpm => pnpm
  | .bun => bun

end Mode

def reasonDirty : String := "dirty"
def reasonNotGitInstall : String := "not-git-install"
def reasonNoUpstream : String := "no-upstream"
def reasonNoReleaseTag : String := "no-release-tag"
def reasonInterrupted : String := "interrupted"

structure Snapshot where
  version : Option String := none
  sha : Option String := none
  deriving DecidableEq, Repr, Inhabited

def Snapshot.toJson (s : Snapshot) : Json :=
  .objOpt [("version", s.version.map .str), ("sha", s.sha.map .str)]

structure RunResult where
  status : Status
  mode : Mode
  root : String
  reason : Option String := none
  before : Snapshot := {}
  after : Snapshot := {}
  steps : List StepResult := []
  durationMs : Nat := 0
  deriving DecidableEq, Repr, Inhabited

namespace RunResult

/-- The result of a run stopped by the user: an error with the steps completed so far. Its
duration adds the steps' durations as unsigned 64-bit words, so a total past the largest word
wraps around. -/
def interrupted (root : String) (steps : List StepResult) : RunResult :=
  { status := .error, mode := .other, root := root, reason := some reasonInterrupted,
    steps := steps,
    durationMs := (steps.foldl (fun total s => total + s.durationMs.toUInt64) (0 : UInt64)).toNat }

def exitCode (r : RunResult) : Nat := if r.status = .error then 1 else 0

def failedStep? (r : RunResult) : Option StepResult := r.steps.find? (!·.succeeded)

def members (r : RunResult) : List (String × Json) :=
  [("status", .str r.status.name), ("mode", .str r.mode.name), ("root", .str r.root)] ++
    (r.reason.map fun x => [("reason", Json.str x)]).getD [] ++
    [("before", r.before.toJson), ("after", r.after.toJson),
      ("steps", .arr (r.steps.map StepResult.toJson)), ("durationMs", .nat r.durationMs)]

def toJson (r : RunResult) : Json := .obj r.members

end RunResult

end Updater
