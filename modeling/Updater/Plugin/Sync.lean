import Updater.Plugin.Report
import Updater.Config.Store
import Updater.Install.Detect
import Updater.Install.Package
/-!
Keeping plugin records in line with the channel after an update.

A checkout on `dev` ships its plugins under `extensions/<id>`, release channels install them
from the registry. The sync pass moves each record to the source its channel wants: on `dev` a
registry plugin whose bundled copy exists becomes bundled (a bundled one that is missing is only
warned about); on a release channel a bundled plugin is installed from the registry, under its
recorded spec or `@openclaw/<id>`. The update pass then installs every registry plugin again,
except those the sync pass just moved, and records a newer version when one landed.

Reconciliation runs both passes, turns their failures into warnings, and saves the merged
configuration once if either pass changed it. Plugin problems never change how the update
itself ended.
-/

namespace Updater.Plugin

open Config

def firstLine (text : String) : Option String :=
  let lines := (text.splitOn "\n").map fun l => Text.trim (if l.endsWith "\r" then String.ofList (l.toList.dropLast) else l)
  lines.find? (!·.isEmpty)

def codeText : Option Int → String
  | some c => "Some(" ++ toString c ++ ")"
  | none => "None"

def install (m : Manager) (timeoutMs : Nat) (spec : String) : Act (Except String (Option String)) := do
  match Command.ofArgv? (m.globalInstallArgs spec) with
  | none => return .error "empty install command"
  | some c =>
    match ← run ((c.withTimeout (some timeoutMs)).withContext "plugin install") with
    | .ok out =>
      if out.success then return .ok (← m.globalPackageRoot (packageNameOfSpec spec) timeoutMs)
      else return .error ((firstLine out.stderr).getD ("exit code " ++ codeText out.code))
    | .error f => return .error f.fullText

def versionAt : Option String → Act (Option String)
  | some dir => Package.readVersion dir
  | none => return none

def setRecord (installs : List (String × InstallRecord)) (id : String) (r : InstallRecord) :
    List (String × InstallRecord) :=
  if installs.any (·.1 == id) then installs.map fun (k, v) => if k == id then (k, r) else (k, v)
  else Toml.sortByName (installs ++ [(id, r)])

def syncRecord (m : Manager) (timeoutMs : Nat) (channel : Channel) (extensions : String)
    (summary : SyncSummary) : String × InstallRecord → Act (SyncSummary × InstallRecord)
  | (id, r) => do
    let bundledDir := Path.join extensions id
    match channel, r.source with
    | .dev, .npm =>
      if ← Act.isDir bundledDir then
        let v ← Package.readVersion bundledDir
        return ({ summary with switchedToBundled := summary.switchedToBundled ++ [id] },
          { r with source := .bundled, version := v, installPath := some bundledDir })
      else return (summary, r)
    | .dev, .bundled =>
      let path := r.installPath.getD bundledDir
      if ← Act.isDir path then return (summary, r)
      else return ({ summary with warnings := summary.warnings ++ ["bundled plugin " ++ id ++ " not found at " ++ path] }, r)
    | _, .bundled =>
      let spec := r.spec.getD (defaultSpec id)
      match ← install m timeoutMs spec with
      | .ok path =>
        let v ← versionAt path
        return ({ summary with switchedToNpm := summary.switchedToNpm ++ [id] },
          { r with source := .npm, version := v, installPath := path, spec := some spec })
      | .error msg =>
        return ({ summary with errors := summary.errors ++ [id ++ ": failed to install " ++ spec ++ ": " ++ msg] }, r)
    | _, .npm => return (summary, r)

def syncRecords (m : Manager) (timeoutMs : Nat) (channel : Channel) (extensions : String) :
    SyncSummary → List (String × InstallRecord) → Act (SyncSummary × List (String × InstallRecord))
  | s, [] => return (s, [])
  | s, (id, r) :: rest => do
    let (s, r) ← syncRecord m timeoutMs channel extensions s (id, r)
    let (s, rest) ← syncRecords m timeoutMs channel extensions s rest
    return (s, (id, r) :: rest)

/-- The update pass for one record: the outcomes it reports, whether the record changed, and the
record. -/
def updateRecord (m : Manager) (timeoutMs : Nat) (skip : List String) :
    String × InstallRecord → Act (List Outcome × Bool × InstallRecord)
  | (id, r) => do
    if r.source != .npm || skip.contains id then pure ([], false, r)
    else match r.spec with
      | none => pure ([⟨id, .skipped, some "no registry spec recorded"⟩], false, r)
      | some spec =>
        match ← install m timeoutMs spec with
        | .ok path =>
          let path := path <|> r.installPath
          let v ← versionAt path
          if v.isSome && v != r.version then
            pure ([⟨id, .updated, none⟩], true, { r with version := v, installPath := path })
          else pure ([⟨id, .unchanged, none⟩], false, r)
        | .error msg => pure ([⟨id, .failed, some msg⟩], false, r)

/-- The update pass over all records, in id order: the outcomes, whether a record changed, and
the records. -/
def updateRecords (m : Manager) (timeoutMs : Nat) (skip : List String) :
    List (String × InstallRecord) → Act (List Outcome × Bool × List (String × InstallRecord))
  | [] => return ([], false, [])
  | (id, r) :: rest => do
    let (here, changed, r) ← updateRecord m timeoutMs skip (id, r)
    let (outs, changedRest, rest) ← updateRecords m timeoutMs skip rest
    return (here ++ outs, changed || changedRest, (id, r) :: rest)

def sync (c : AppConfig) (channel : Channel) (workspace : String) :
    Act (Except Failure (AppConfig × SyncSummary)) := do
  let extensions := Path.join workspace "extensions"
  modify fun w => { w with syncCalls := w.syncCalls ++ [channel] }
  match (← get).plugins with
  | .real m t =>
    let (s, installs) ← syncRecords m t channel extensions {} c.plugins.installs
    let s := { s with changed := !s.switchedToBundled.isEmpty || !s.switchedToNpm.isEmpty }
    return .ok ({ c with plugins := { c.plugins with installs := installs } }, s)
  | .failing => return .error (.ofText "plugin sync exploded")
  | .bundled ids =>
    let record := fun id => ({ source := .bundled, installPath := some (Path.join extensions id) } : InstallRecord)
    let installs := ids.foldl (fun is id => setRecord is id (record id)) c.plugins.installs
    return .ok ({ c with plugins := { c.plugins with installs := installs } },
      { switchedToBundled := ids, changed := !ids.isEmpty })
  | .quiet => return .ok (c, {})

/-- The update pass of the world's plugin collaborator; every call is logged with the ids it
skips. -/
def updateInstalled (c : AppConfig) (skip : List String) :
    Act (Except Failure (AppConfig × List Outcome × Bool)) := do
  modify fun w => { w with skipIdsSeen := w.skipIdsSeen ++ [skip] }
  match (← get).plugins with
  | .real m t =>
    let (outs, changed, installs) ← updateRecords m t skip c.plugins.installs
    return .ok ({ c with plugins := { c.plugins with installs := installs } }, outs, changed)
  | .failing => return .error (.ofText "plugin update exploded")
  | _ =>
    let outs := c.plugins.installs.filterMap fun (id, r) =>
      if r.source == .npm && !skip.contains id then some (⟨id, .unchanged, none⟩ : Outcome) else none
    return .ok (c, outs, false)

def idSet (ids : List String) : List String :=
  (ids.mergeSort fun a b => decide (a ≤ b)).eraseDups

/-- A plugin synchronizer: a sync pass that moves records to the source their channel wants, and
an update pass that installs registry plugins again, except the ids it is told to skip. -/
structure Synchronizer where
  sync : AppConfig → Channel → String → Act (Except Failure (AppConfig × SyncSummary))
  updateInstalled : AppConfig → List String → Act (Except Failure (AppConfig × List Outcome × Bool))

def Synchronizer.reconcile (p : Synchronizer) (store : String) (c : AppConfig) (channel : Channel)
    (workspace : String) : Act Report := do
  let (c, changed, report) ← match ← p.sync c channel workspace with
    | .ok (c', s) => pure (c', s.changed, ({ sync := s } : Report))
    | .error f => pure (c, false, ({ warnings := ["plugin sync failed: " ++ f.fullText] } : Report))
  let skip := idSet (report.sync.switchedToBundled ++ report.sync.switchedToNpm)
  let (c, changed, report) ← match ← p.updateInstalled c skip with
    | .ok (c', outs, ch) =>
      pure (c', changed || ch, { report with outcomes := outs, counts := Counts.ofOutcomes outs })
    | .error f => pure (c, changed, { report with warnings := report.warnings ++ ["plugin update failed: " ++ f.fullText] })
  if changed then
    match ← save store c with
    | .ok () => return { report with persisted := true }
    | .error f => return { report with warnings := report.warnings ++ ["could not save plugin records: " ++ f.fullText] }
  else return report

def reconcile (store : String) (c : AppConfig) (channel : Channel) (workspace : String) :
    Act Report :=
  Synchronizer.reconcile ⟨sync, updateInstalled⟩ store c channel workspace

end Updater.Plugin
