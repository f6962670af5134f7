import Updater.Availability
import Updater.Report
import Updater.Config.Store
import Updater.Install.Detect
import Updater.Registry.Lookup
/-!
What `status` shows: the installation, its channel, its version and whether a newer one is
published. Nothing is changed.

The channel is the stored one or the default of the kind of installation. Only a package
install asks the registry, under the name in its `package.json` (or the core package's name);
for a checkout or an unknown directory availability is unknown.
-/

namespace Updater

structure StatusReport where
  install : Descriptor
  channel : Resolution
  channelLabel : String
  currentVersion : Option String := none
  update : Availability
  deriving DecidableEq, Repr, Inhabited

def collectStatus (store root : String) (timeoutMs : Nat) : Act (Except Failure StatusReport) := do
  match ← Config.load store with
  | .error f => return .error f
  | .ok snap =>
    let d ← detect root timeoutMs
    let channel := Resolution.resolve none snap.storedChannel d.kind
    let current ← Package.readVersion root
    let update ← match d.kind with
      | .package => do
        let name := (← Package.readName root).getD Version.corePackage
        let resolved ← Registry.resolveChannelTag name channel.channel
        pure (Availability.of current resolved.version)
      | _ => pure .unknown
    return .ok { install := d, channel := channel, channelLabel := channel.label d.git,
                 currentVersion := current, update := update }

def StatusReport.toJson (r : StatusReport) : Json :=
  .objOpt [("install", some r.install.toJson), ("channel", some r.channel.toJson),
    ("channelLabel", some (.str r.channelLabel)), ("currentVersion", r.currentVersion.map .str),
    ("update", some r.update.toJson)]

def StatusReport.render (r : StatusReport) : String :=
  let manager := (r.install.manager.map fun m => ["Package manager: " ++ m.program]).getD []
  "\n".intercalate (["Install: " ++ r.install.kind.name ++ " (" ++ r.install.root ++ ")"] ++ manager ++
    ["Channel: " ++ r.channelLabel, "Version: " ++ r.currentVersion.getD "unknown",
      "Update: " ++ r.update.display])

end Updater
