import Updater.Install.Package
import Updater.Json
/-!
Installation layouts on disk.

A layout is a home directory with room for every kind of installation:

* `checkout/`, a checkout of the core package (its descriptor and a `.git/` directory);
* `global/node_modules/`, the global root a package manager reports, with the core package
  installed as `global/node_modules/openclaw/`;
* `state/`, where the update lock goes, and `config.toml`, the configuration; neither is made
  until something writes there.

A descriptor is written as pretty JSON, `{"name": ..., "version": ...}` with two-space
indentation and no line break at the end, after its directory and the missing directories
above it are made.
-/

namespace Updater.Layout

def descriptorText (name version : String) : String :=
  Json.render (.obj [("name", .str name), ("version", .str version)])

def change (context : Option String) (f : FileSystem → String → Except IoError FileSystem) :
    Act (Except Failure Unit) := do
  match ← Act.changeFs f with
  | .ok () => return .ok ()
  | .error e =>
    let failure := Failure.ofIo e
    return .error (match context with | some line => failure.within line | none => failure)

def writeDescriptor (dir name version : String) : Act (Except Failure Unit) := do
  match ← change (some ("Failed to create " ++ dir)) (fun fs cwd => fs.createDirs cwd dir) with
  | .error f => return .error f
  | .ok () =>
    change (some ("Failed to write package.json in " ++ dir))
      (fun fs cwd => fs.writeFile cwd (Package.descriptorPath dir) (descriptorText name version))

end Updater.Layout

namespace Updater

structure Layout where
  root : String
  deriving DecidableEq, Repr

namespace Layout

def checkoutDir (l : Layout) : String := Path.join l.root "checkout"

def globalRoot (l : Layout) : String := Path.join (Path.join l.root "global") "node_modules"

def packageDir (l : Layout) : String := Path.join l.globalRoot Version.corePackage

def stateDir (l : Layout) : String := Path.join l.root "state"

def configPath (l : Layout) : String := Path.join l.root "config.toml"

def gitInstall (l : Layout) (version : String) : Act (Except Failure String) := do
  match ← writeDescriptor l.checkoutDir Version.corePackage version with
  | .error f => return .error f
  | .ok () =>
    match ← change none (fun fs cwd => fs.createDirs cwd (Path.join l.checkoutDir ".git")) with
    | .error f => return .error f
    | .ok () => return .ok l.checkoutDir

def packageInstall (l : Layout) (version : String) : Act (Except Failure String) := do
  match ← writeDescriptor l.packageDir Version.corePackage version with
  | .error f => return .error f
  | .ok () => return .ok l.packageDir

def writeConfig (l : Layout) (body : String) : Act (Except Failure Unit) :=
  change none (fun fs cwd => fs.writeFile cwd l.configPath body)

inductive Change
  | gitInstall (version : String)
  | packageInstall (version : String)
  | writeConfig (body : String)
  | writeDescriptor (dir name version : String)
  | touch (file : String)
  deriving DecidableEq, Repr

def apply (l : Layout) : Change → Act (Except Failure (Option String))
  | .gitInstall v => return (← l.gitInstall v).map some
  | .packageInstall v => return (← l.packageInstall v).map some
  | .writeConfig body => return (← l.writeConfig body).map fun _ => none
  | .writeDescriptor dir name version =>
    return (← writeDescriptor (Path.join l.root dir) name version).map fun _ => none
  | .touch file =>
    return (← change none fun fs cwd => fs.writeFile cwd (Path.join l.root file) "").map fun _ => none

end Layout

end Updater
