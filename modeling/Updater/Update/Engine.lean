import Updater.Update.Pipeline
import Updater.Update.Lock
import Updater.Options
import Updater.Confirm
import Updater.Registry.Lookup
import Updater.Plugin.Sync
import Updater.Service
/-!
One whole update.

The engine reads the configuration and refuses an explicit channel when the file is invalid. It
classifies the installation, works out whether the channel asks for the other kind of
installation, and resolves the effective channel. For a package target it resolves the version
to install and asks before a downgrade; for a checkout an explicit tag is ignored with a note.
It plans the pipeline (checking the checkout directory for a switch to a checkout). Everything
so far only reads.

Then it takes the update lock (not for an installation it cannot update), stores an explicit
channel, and runs the pipeline. Only a run that ends `ok` goes on: the configuration is read
again and, when valid, the plugins are reconciled; then the service is restarted and checked
when asked. The lock is given back whichever way the run ends.
-/

namespace Updater

inductive Outcome
  | cancelled
  | finished (report : UpdateReport)
  deriving DecidableEq, Repr, Inhabited

def Outcome.exitCode : Outcome → Nat
  | .cancelled => 0
  | .finished r => r.result.exitCode

def gitTagIgnoredNote : String := "--tag applies to package installs only; git updates ignore it"

def resolveTarget (o : Options) (channel : Channel) : Act (VersionTarget × Bool) := do
  match o.tag with
  | some tag => return (← Registry.resolveExplicitTag Version.corePackage tag, false)
  | none =>
    let r ← Registry.resolveChannelTag Version.corePackage channel
    return (⟨r.tag, r.version⟩, r.fellBack)

def planFor (o : Options) (d : Descriptor) (t : KindTransition) (channel : Channel)
    (target : Option VersionTarget) : Act (Except Failure Plan) := do
  let packageTarget := target.getD ⟨(channel.distTag?).getD Registry.devTag, none⟩
  match t, d.kind with
  | .switchToGit, _ =>
    match ← planCheckout o.gitDir with
    | .error f => return .error f
    | .ok c => return .ok (.switchToGit o.gitDir c (← resolveGlobalManager d.manager) o.root)
  | .switchToPackage, _ => return .ok (.switchToPackage o.root (← resolveGlobalManager none) packageTarget)
  | .stay, .git => return .ok (.git o.root channel)
  | .stay, .package => return .ok (.package o.root (← resolveGlobalManager d.manager) packageTarget)
  | .stay, .unknown => return .ok (.unsupported o.root)

/-- Everything after the lock is taken: storing the channel, the pipeline and what follows an
`ok` run. -/
def runLocked (store : String) (o : Options) (snap : Config.Snapshot) (plan : Plan)
    (channel : Resolution) (target : Option VersionTarget) (notes : List String) :
    Act (Except Failure UpdateReport) := do
  let persisted ← match o.requestedChannel with
    | some ch =>
      if snap.valid then
        match ← Config.persistChannel store ch with
        | .error f => return .error (f.within "Failed to persist update channel")
        | .ok () => pure true
      else pure false
    | none => pure false
  let result ← Pipeline.execute (o.stepTimeoutMs) plan
  let base : UpdateReport := { result := result, channel := channel, target := target,
                               channelPersisted := persisted, notes := notes }
  if result.status != .ok then return .ok base
  let fresh ← match ← Config.load store with
    | .error f => return .error f
    | .ok s => pure s
  let (plugins, notes) ← if fresh.valid then
      pure (some (← Plugin.reconcile store fresh.config channel.channel result.root), notes)
    else pure (none, notes ++ ["Skipped plugin sync: config is invalid"])
  let restart ← if o.restart then pure (some (← Service.restartAndVerify)) else pure none
  return .ok { base with plugins := plugins, restart := restart, notes := notes }

/-- The target of a package update once the downgrade gate has answered: `none` when the
person at the terminal declined. A switch to a package has no installed version to compare. -/
def confirmTarget (o : Options) (t : KindTransition) (channel : Channel) :
    Act (Except Failure (Option VersionTarget)) := do
  let current ← if t == .switchToPackage then pure none else Package.readVersion o.root
  let (resolved, fellBack) ← resolveTarget o channel
  let check : DowngradeCheck := { current := current, target := resolved, fellBack := fellBack,
                                  assumeYes := o.assumeYes, json := o.json }
  match confirmDowngrade (← get).prompter check with
  | .error f => return .error f
  | .ok (decision, question) =>
    if let some q := question then modify fun w => { w with asked := w.asked ++ [q] }
    return .ok (if decision == .declined then none else some resolved)

def runPlanned (store : String) (o : Options) (snap : Config.Snapshot) (d : Descriptor)
    (t : KindTransition) (channel : Resolution) (target : Option VersionTarget)
    (notes : List String) : Act (Except Failure Outcome) := do
  let plan ← match ← planFor o d t channel.channel target with
    | .error f => return .error f
    | .ok p => pure p
  match plan with
  | .unsupported _ => return (← runLocked store o snap plan channel target notes).map .finished
  | _ =>
    match ← Lock.acquire o.stateDir with
    | .error f => return .error f
    | .ok lock =>
      let r ← runLocked store o snap plan channel target notes
      lock.release
      return r.map .finished

def runGated (store : String) (o : Options) (snap : Config.Snapshot) (d : Descriptor)
    (t : KindTransition) (channel : Resolution) : Act (Except Failure Outcome) := do
  match ← confirmTarget o t channel.channel with
  | .error f => return .error f
  | .ok none => return .ok .cancelled
  | .ok (some target) => runPlanned store o snap d t channel (some target) []

def runUpdate (store : String) (o : Options) : Act (Except Failure Outcome) := do
  let snap ← match ← Config.load store with
    | .error f => return .error f
    | .ok s => pure s
  if o.requestedChannel.isSome && !snap.valid then
    return .error (.ofUpdate (.configInvalid snap.path snap.issues))
  let d ← detect o.root statusTimeoutMs
  let t := KindTransition.ofRequest o.requestedChannel d.kind
  let targetKind := t.targetKind d.kind
  let channel := Resolution.resolve o.requestedChannel snap.storedChannel targetKind
  if targetKind == .package then runGated store o snap d t channel
  else if targetKind == .git && o.tag.isSome then
    runPlanned store o snap d t channel none [gitTagIgnoredNote]
  else runPlanned store o snap d t channel none []

end Updater
