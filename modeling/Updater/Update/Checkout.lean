import Updater.Install.Package
import Updater.Git.Probe
/-!
Where a switch to a checkout gets its checkout.

A missing directory, or an empty one, is cloned into. A directory with a `.git` entry must
hold the core package and is used as it is. Any other directory is refused, so nothing of the
user's is overwritten.
-/

namespace Updater

inductive CheckoutAction
  | clone (url : String)
  | existing
  deriving DecidableEq, Repr, Inhabited

def planCheckout (gitDir : String) : Act (Except Failure CheckoutAction) := do
  if !(← Act.exists? gitDir) then return .ok (.clone Git.repositoryUrl)
  if ← Git.isCheckout gitDir then
    if ← Package.isCore gitDir then return .ok .existing
    return .error (.ofUpdate (.gitDirNotCore gitDir))
  let m ← Act.machine
  match m.fs.readDir m.cwd gitDir with
  | .error e => return .error (.ofIo e)
  | .ok [] => return .ok (.clone Git.repositoryUrl)
  | .ok _ => return .error (.ofUpdate (.gitDirNotCheckout gitDir))

end Updater
