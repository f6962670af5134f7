import Updater.Report
import Updater.Process.Run
/-!
Restarting the background service after an update, and checking it.

The service restarts and then runs its own check. A restart that fails or cannot be run ends
the attempt with a warning naming the manual command; a check that reports problems or cannot
run is a warning too. Through the command line of the core package, the restart is
`openclaw gateway restart` and the check `openclaw doctor --non-interactive`, each given a
minute; exit status 127 means the program could not be started.
-/

namespace Updater.Service

def restartHint : String := "openclaw gateway restart"
def restartTimeoutMs : Nat := 60000
def verifyTimeoutMs : Nat := 60000

def succeeds (c : Command) : Act (Except Failure Bool) := do
  match ← run c with
  | .error f => return .error f
  | .ok out =>
    if out.code == some 127 then return .error (.ofUpdate (.spawnFailed c.program (Text.trim out.stderr)))
    else return .ok out.success

def restart : Act (Except Failure Bool) := do
  modify fun w => { w with restartCalls := w.restartCalls + 1 }
  match (← get).service with
  | .cli =>
    succeeds (({ program := "openclaw", args := ["gateway", "restart"] } : Command).withTimeout
      (some restartTimeoutMs) |>.withContext "gateway restart")
  | mode => return .ok (mode != .restartFails)

def verify : Act (Except Failure Bool) := do
  modify fun w => { w with verifyCalls := w.verifyCalls + 1 }
  match (← get).service with
  | .cli =>
    succeeds (({ program := "openclaw", args := ["doctor", "--non-interactive"] } : Command).withTimeout
      (some verifyTimeoutMs) |>.withContext "post-update check")
  | mode => return .ok (mode != .verifyFails)

def restartAndVerify : Act RestartReport := do
  match ← restart with
  | .ok false =>
    return { restarted := false, warnings := ["Gateway restart failed; run `" ++ restartHint ++ "` manually"] }
  | .error f =>
    let w := "Gateway restart failed (" ++ f.fullText ++ "); run `" ++ restartHint ++ "` manually"
    return { restarted := false, warnings := [w] }
  | .ok true =>
    match ← verify with
    | .ok v =>
      let ws := if v then [] else ["Post-update check reported problems; run `openclaw doctor` for details"]
      return { restarted := true, verified := some v, warnings := ws }
    | .error f =>
      let w := "Post-update check could not run (" ++ f.fullText ++ "); run `openclaw doctor` for details"
      return { restarted := true, verified := some false, warnings := [w] }

end Updater.Service
