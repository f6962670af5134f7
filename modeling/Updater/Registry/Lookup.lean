import Updater.Registry
import Updater.Version.Target
import Updater.World
import Updater.Json.TextMap
/-!
Asking the registry of the world.

Every lookup is counted, whatever answers it. An offline fake, like an unreachable network,
leaves the dist-tags unknown, which never fails a run: a target without a version is still a
target. An explicit tag that already is a version needs no lookup.

A registry behind a server is asked with one `GET` of the package's dist-tags address. A
request that gets no response fails to fetch; a response must be a success, and its body a
JSON object of strings, or the dist-tags fail to parse.
-/

namespace Updater.Registry

/-- The dist-tags of a package from a response of the registry's server: a success whose body
is a JSON object of strings. -/
def ofResponse (package url : String) (status : Nat) (body : String) : Except String DistTags :=
  if !Http.isSuccess status then
    .error ("Registry returned HTTP " ++ Http.statusText status ++ " for " ++ url)
  else (Json.TextMap.read body).mapError fun e =>
    "Failed to parse dist-tags for " ++ package ++ ": error decoding response body: " ++ e

/-- The dist-tags of a package, or why they cannot be read; every lookup is counted. A server
serves one request. -/
def readDistTags (package : String) : Act (Except String DistTags) := do
  modify fun w => { w with registryCalls := w.registryCalls + 1 }
  match (← get).registry with
  | .fake tags =>
    return match tags with
      | some t => .ok t
      | none => .error ("registry unreachable for " ++ package)
  | .unreachable =>
    return .error ("Failed to fetch dist-tags for " ++ package ++ ": " ++ Http.refused)
  | .server s base limit =>
    let url := distTagsUrl base package
    let ex := Http.get s limit url
    if let some line := ex.requestLine then
      modify fun w => { w with requests := w.requests ++ [line],
                               registry := .server { s with reply := .refuses } base limit }
    return match ex.response with
      | .error f => .error ("Failed to fetch dist-tags for " ++ package ++ ": " ++ f.text)
      | .ok (status, body) => ofResponse package url status body

def distTags (package : String) : Act (Option DistTags) :=
  return (← readDistTags package).toOption

def resolveChannelTag (package : String) (channel : Channel) : Act ResolvedTag :=
  return resolveChannel channel (← distTags package)

def fetchTagVersion (package tag : String) : Act (Option String) :=
  return (← distTags package).bind (lookupTag · tag)

def resolveExplicitTag (package tag : String) : Act VersionTarget := do
  match Version.ofTag? tag with
  | some v => return ⟨tag, some v⟩
  | none => return ⟨tag, ← fetchTagVersion package tag⟩

end Updater.Registry
