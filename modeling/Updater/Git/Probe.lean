import Updater.Git.Commands
import Updater.Git.Info
import Updater.Process.Run
/-!
Read-only questions to a checkout. A probe never fails: a command that fails, prints nothing
or cannot run leaves the answer unknown.
-/

namespace Updater.Git

def probe (c : Command) : Act (Option String) := do
  match ← run c with
  | .ok o => return o.stdoutTrimmed?
  | .error _ => return none

def readHeadSha (dir : String) (timeoutMs : Nat) : Act (Option String) :=
  probe ((revParseHead dir).withTimeout (some timeoutMs))

def readInfo (dir : String) (timeoutMs : Nat) : Act GitInfo := do
  let branch ← probe ((currentBranch dir).withTimeout (some timeoutMs))
  let tag ← probe ((exactTag dir).withTimeout (some timeoutMs))
  let sha ← readHeadSha dir timeoutMs
  return ⟨branch.filter (· != "HEAD"), tag, sha⟩

def isCheckout (dir : String) : Act Bool := Act.exists? (Path.join dir ".git")

end Updater.Git
