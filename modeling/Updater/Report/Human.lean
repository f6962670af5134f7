import Updater.Git.Info
import Updater.Report
import Updater.Text.Duration
/-!
Reports as people read them.

A run is shown as its status line, root, reason and the version before and after, then one line
per step with a mark (`✓` success, `✗` failure, `?` no exit code) and its duration; a failed
step shows the first five non-blank lines of its error output. After the total time come the
hint for a skip, the channel, the target, notes, plugin changes and failures, and either the
restart outcome or, after an `ok` run without restart, how to apply the update by hand.
-/

namespace Updater.Human

def restartHint : String := "openclaw gateway restart"

def skipHint? (reason : String) : Option String :=
  if reason = reasonDirty then some "Commit or stash your local changes, then run the update again."
  else if reason = reasonNoUpstream then
    some "The current branch has no upstream; run `git branch --set-upstream-to`."
  else if reason = reasonNoReleaseTag then
    some "No release tag matches this channel; try `--channel dev` or fetch tags."
  else if reason = reasonNotGitInstall then
    some "No OpenClaw installation found here; reinstall it with your package manager or switch to a checkout with --channel dev."
  else none

def manualRestartHint : Mode → String
  | .npm | .pnpm | .bun =>
    "Tip: run `openclaw doctor`, then `" ++ restartHint ++ "` to apply the update to the running gateway."
  | .git | .other => "Tip: run `" ++ restartHint ++ "` to apply the update to the running gateway."

def describeSnapshot (s : Snapshot) : String :=
  let v := s.version.getD "unknown"
  match s.sha with
  | some sha => v ++ " (" ++ shortSha sha ++ ")"
  | none => v

def headLines (text : String) (n : Nat) : List String :=
  ((text.splitOn "\n").map fun l => if l.endsWith "\r" then String.ofList (l.toList.dropLast) else l)
    |>.filter (fun l => !(Text.trim l).isEmpty) |>.take n

def stepLines (s : StepResult) : List String :=
  let mark := match s.exitCode with
    | some 0 => "✓"
    | some _ => "✗"
    | none => "?"
  let head := "  " ++ mark ++ " " ++ s.name ++ " (" ++ Text.formatDuration s.durationMs ++ ")"
  let errs := if s.succeeded then [] else
    match s.stderrTail with
    | some e => (headLines e 5).map ("      " ++ ·)
    | none => []
  head :: errs

def resultLines (r : RunResult) : List String :=
  let status := match r.status with
    | .ok => "OK"
    | .skipped => "SKIPPED"
    | .error => "ERROR"
  ["Update Result: " ++ status, "  Root: " ++ r.root] ++
    (r.reason.map fun x => ["  Reason: " ++ x]).getD [] ++
    (if r.before.version.isSome || r.before.sha.isSome then ["  Before: " ++ describeSnapshot r.before] else []) ++
    (if r.after.version.isSome || r.after.sha.isSome then ["  After: " ++ describeSnapshot r.after] else []) ++
    (if r.steps.isEmpty then [] else "" :: "Steps:" :: r.steps.flatMap stepLines) ++
    ["", "Total time: " ++ Text.formatDuration r.durationMs] ++
    (if r.status = .skipped then
      match r.reason.bind skipHint? with
      | some h => [h]
      | none => []
     else [])

def pluginLines (p : Plugin.Report) : List String :=
  (if p.sync.switchedToBundled.isEmpty then [] else
    ["Plugins switched to bundled: " ++ Plugin.formatList p.sync.switchedToBundled]) ++
  (if p.sync.switchedToNpm.isEmpty then [] else
    ["Plugins switched to npm: " ++ Plugin.formatList p.sync.switchedToNpm]) ++
  (if p.outcomes.isEmpty then [] else
    let c := p.counts
    ["Plugin updates: " ++ toString c.updated ++ " updated, " ++ toString c.unchanged ++
      " unchanged, " ++ toString c.failed ++ " failed, " ++ toString c.skipped ++ " skipped"]) ++
  (p.outcomes.filter (·.status = .failed)).map (fun o =>
    "error: " ++ o.id ++ ": " ++ o.message.getD "update failed") ++
  (p.sync.warnings ++ p.sync.errors ++ p.warnings).map ("warning: " ++ ·)

def renderUpdate (r : UpdateReport) : String :=
  let lines := resultLines r.result ++
    ["Channel: " ++ r.channel.channel.name ++ " (" ++ r.channel.source.label ++ ")" ++
      (if r.channelPersisted then ", saved to config" else "")] ++
    (r.target.map fun t => ["Target: " ++ t.label]).getD [] ++
    r.notes.map ("Note: " ++ ·) ++
    (r.plugins.map pluginLines).getD [] ++
    (match r.restart with
      | some x => (if x.restarted then ["Gateway restarted"] else []) ++ x.warnings.map ("warning: " ++ ·)
      | none => if r.result.status = .ok then [manualRestartHint r.result.mode] else [])
  "\n".intercalate lines

def renderInterrupted (r : RunResult) : String :=
  "\n".intercalate (resultLines r ++ ["Update interrupted; the installation may be partially updated."])

end Updater.Human
