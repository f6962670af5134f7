import Updater.Channel
import Updater.Git.Info
import Updater.Plugin.Report
import Updater.Result
import Updater.Version.Target
/-!
The report of a finished update.

It is the run result together with the effective channel, the package target when there was
one, whether an explicitly requested channel was saved, what the plugin and restart phases did
(they only run after an `ok` result) and notes for the reader.
-/

namespace Updater

structure RestartReport where
  attempted : Bool := true
  restarted : Bool := false
  verified : Option Bool := none
  warnings : List String := []
  deriving DecidableEq, Repr, Inhabited

def RestartReport.toJson (r : RestartReport) : Json :=
  .objOpt [("attempted", some (.bool r.attempted)), ("restarted", some (.bool r.restarted)),
    ("verified", r.verified.map .bool), ("warnings", some (Plugin.strs r.warnings))]

structure UpdateReport where
  result : RunResult
  channel : Resolution
  target : Option VersionTarget := none
  channelPersisted : Bool := false
  plugins : Option Plugin.Report := none
  restart : Option RestartReport := none
  notes : List String := []
  deriving DecidableEq, Repr, Inhabited

def Resolution.label (r : Resolution) (git : Option GitInfo) : String :=
  r.channel.name ++ " (" ++ " · ".intercalate (r.source.label :: (git.map GitInfo.summary).toList) ++ ")"

def Resolution.toJson (r : Resolution) : Json :=
  .obj [("channel", .str r.channel.name), ("source", .str r.source.name)]

def VersionTarget.toJson (t : VersionTarget) : Json :=
  .obj [("tag", .str t.tag), ("version", .optStr t.version)]

def UpdateReport.toJson (r : UpdateReport) : Json :=
  .obj (r.result.members ++
    [("channel", r.channel.toJson)] ++
    (r.target.map fun t => [("target", t.toJson)]).getD [] ++
    [("channelPersisted", .bool r.channelPersisted)] ++
    (r.plugins.map fun p => [("plugins", p.toJson)]).getD [] ++
    (r.restart.map fun x => [("restart", x.toJson)]).getD [] ++
    (if r.notes.isEmpty then [] else [("notes", Plugin.strs r.notes)]))

end Updater
