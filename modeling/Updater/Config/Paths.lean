import Updater.System.Expand
import Updater.World
/-!
Where the updater keeps its things.

The state directory is `~/.openclaw`; the default checkout for a switch to git is `openclaw`
inside it, and the config file is `config.toml` inside it unless `OPENCLAW_CONFIG_PATH` (when
not empty) or an explicit path says otherwise. A checkout directory given by the user is
trimmed, expanded like a shell word and made absolute; a blank one means the default.
-/

namespace Updater.Config

def stateDirName : String := ".openclaw"
def checkoutDirName : String := "openclaw"
def configPathEnv : String := "OPENCLAW_CONFIG_PATH"
def gitDirEnv : String := "OPENCLAW_GIT_DIR"

def stateDir : Act String := return Path.join (← Act.machine).home stateDirName

def expandPath (raw : String) : Act (Except Failure String) := do
  match Expand.full (← Act.machine) raw with
  | .ok p => return .ok p
  | .error e =>
    let f : Failure := ⟨.plain e.texts, []⟩
    return .error (f.within ("Failed to expand environment variables in path: " ++ raw))

def absolutePath (p : String) : Act (Except Failure String) := do
  match (← Act.machine).absolute p with
  | .ok a => return .ok a
  | .error e => return .error ((Failure.ofIo e).within ("Failed to resolve path: " ++ p))

def resolveGitDir (override : Option String) : Act (Except Failure String) := do
  match override.map Text.trim |>.filter (!·.isEmpty) with
  | some raw =>
    match ← expandPath raw with
    | .ok p => absolutePath p
    | .error f => return .error f
  | none => return .ok (Path.join (← stateDir) checkoutDirName)

def configPath (explicit : Option String) : Act String := do
  match explicit with
  | some p => return p
  | none =>
    match ← Act.getEnv? configPathEnv with
    | some p => if p.isEmpty then return Path.join (← stateDir) "config.toml" else return p
    | none => return Path.join (← stateDir) "config.toml"

end Updater.Config
