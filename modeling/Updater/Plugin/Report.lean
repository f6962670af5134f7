import Updater.Json
/-!
What plugin reconciliation reports.

The sync pass lists the plugins moved to the checkout's bundled copies and those moved to the
registry, with warnings and errors; the update pass gives one outcome per registry plugin. The
report adds the counts of outcomes, whether the merged configuration was written, and the
failures of either pass as warnings.
-/

namespace Updater.Plugin

structure SyncSummary where
  switchedToBundled : List String := []
  switchedToNpm : List String := []
  warnings : List String := []
  errors : List String := []
  changed : Bool := false
  deriving DecidableEq, Repr, Inhabited

inductive UpdateStatus
  | updated
  | unchanged
  | failed
  | skipped
  deriving DecidableEq, Repr, Inhabited

def UpdateStatus.name : UpdateStatus → String
  | .updated => "updated"
  | .unchanged => "unchanged"
  | .failed => "failed"
  | .skipped => "skipped"

def UpdateStatus.ofName? : String → Option UpdateStatus
  | "updated" => some .updated
  | "unchanged" => some .unchanged
  | "failed" => some .failed
  | "skipped" => some .skipped
  | _ => none

structure Outcome where
  id : String
  status : UpdateStatus
  message : Option String := none
  deriving DecidableEq, Repr, Inhabited

structure Counts where
  updated : Nat := 0
  unchanged : Nat := 0
  failed : Nat := 0
  skipped : Nat := 0
  deriving DecidableEq, Repr, Inhabited

def Counts.add (c : Counts) : UpdateStatus → Counts
  | .updated => { c with updated := c.updated + 1 }
  | .unchanged => { c with unchanged := c.unchanged + 1 }
  | .failed => { c with failed := c.failed + 1 }
  | .skipped => { c with skipped := c.skipped + 1 }

def Counts.ofOutcomes (os : List Outcome) : Counts := os.foldl (fun c o => c.add o.status) {}

structure Report where
  sync : SyncSummary := {}
  outcomes : List Outcome := []
  counts : Counts := {}
  persisted : Bool := false
  warnings : List String := []
  deriving DecidableEq, Repr, Inhabited

def strs (xs : List String) : Json := .arr (xs.map .str)

def SyncSummary.toJson (s : SyncSummary) : Json :=
  .obj [("switchedToBundled", strs s.switchedToBundled), ("switchedToNpm", strs s.switchedToNpm),
    ("warnings", strs s.warnings), ("errors", strs s.errors), ("changed", .bool s.changed)]

def Outcome.toJson (o : Outcome) : Json :=
  .objOpt [("id", some (.str o.id)), ("status", some (.str o.status.name)),
    ("message", o.message.map .str)]

def Counts.toJson (c : Counts) : Json :=
  .obj [("updated", .nat c.updated), ("unchanged", .nat c.unchanged), ("failed", .nat c.failed),
    ("skipped", .nat c.skipped)]

def Report.toJson (r : Report) : Json :=
  .obj [("sync", r.sync.toJson), ("outcomes", .arr (r.outcomes.map Outcome.toJson)),
    ("counts", r.counts.toJson), ("persisted", .bool r.persisted), ("warnings", strs r.warnings)]

def formatList (ids : List String) : String :=
  ", ".intercalate (ids.take 6) ++ (if ids.length > 6 then " +" ++ toString (ids.length - 6) ++ " more" else "")

def defaultSpec (id : String) : String := "@openclaw/" ++ id

end Updater.Plugin
