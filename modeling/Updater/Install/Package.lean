import Updater.Install.Manifest
import Updater.Process.Run
/-!
Reading package directories on the machine.

A directory's descriptor is its `package.json`; a file that cannot be read or is not a
descriptor counts as missing. The core package root above a directory is the first of its
lexical ancestors whose descriptor names the core package. The manager of a project is read
off its lockfiles, `pnpm-lock.yaml` first, then `bun.lockb` or `bun.lock`, and npm otherwise;
any entry of those names counts.
-/

namespace Updater.Package

def descriptorPath (dir : String) : String := Path.join dir "package.json"

def readManifest (dir : String) : Act (Option Manifest) := do
  match ← Act.readFile (descriptorPath dir) with
  | .ok text => return Manifest.parse? text
  | .error _ => return none

def readVersion (dir : String) : Act (Option String) :=
  return (← readManifest dir).bind Manifest.version?

def readName (dir : String) : Act (Option String) :=
  return (← readManifest dir).bind Manifest.name?

def isCore (dir : String) : Act Bool :=
  return ((← readManifest dir).map Manifest.isCore).getD false

def findCoreRoot (start : String) : Act (Option String) := do
  for dir in Path.ancestors start do
    if ← isCore dir then return some dir
  return none

def lockfileManager (dir : String) : Act Manager := do
  if ← Act.exists? (Path.join dir "pnpm-lock.yaml") then return .pnpm
  if (← Act.exists? (Path.join dir "bun.lockb")) || (← Act.exists? (Path.join dir "bun.lock")) then
    return .bun
  return .npm

end Updater.Package
