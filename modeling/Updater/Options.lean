import Updater.Channel
import Updater.Process.Command
import Updater.System.Path
import Updater.Text.Blank
import Updater.Version.Target
/-!
Checking what a run is asked to do.

A request carries raw arguments; validation checks the channel, then the tag, then the step
timeout (whole seconds, positive, an unsigned 64-bit number after trimming, so `+5` is read as
five), and anchors a relative root or checkout directory at the working directory. The
first failing check decides the error.
-/

namespace Updater

def defaultLockTimeoutMs : Nat := 5000

structure Request where
  root : String
  channel : Option String := none
  tag : Option String := none
  timeout : Option String := none
  restart : Bool := false
  yes : Bool := false
  json : Bool := false
  gitDir : String := ""
  stateDir : String := ""
  deriving DecidableEq, Repr, Inhabited

structure Options where
  root : String
  requestedChannel : Option Channel := none
  tag : Option String := none
  stepTimeoutMs : Nat := defaultStepTimeoutMs
  restart : Bool := true
  assumeYes : Bool := false
  json : Bool := false
  gitDir : String
  stateDir : String
  lockTimeoutMs : Nat := defaultLockTimeoutMs
  deriving DecidableEq, Repr, Inhabited

def parseWord? (s : String) : Option Nat :=
  let ds := match s.toList with | '+' :: r => r | r => r
  if ds.isEmpty || !ds.all Char.isDigit then none
  else
    let v := ds.foldl (fun acc d => acc * 10 + (d.toNat - 48)) 0
    if v < Nat.pow 2 64 then some v else none

/-- A step timeout in whole seconds; zero and anything unreadable are refused with the text as
given. -/
def parseTimeoutSecs (raw : String) : Except UpdateError Nat :=
  match parseWord? (Text.trim raw) with
  | some n => if n = 0 then .error (.invalidTimeout raw) else .ok n
  | none => .error (.invalidTimeout raw)

def anchored (cwd p : String) : String :=
  if Path.isAbsolute p || p.isEmpty then p
  else match Path.absolute cwd p with
    | .ok a => a
    | .error _ => p

def Request.validate (cwd : String) (r : Request) : Except UpdateError Options := do
  let channel ← Channel.normalize r.channel
  let tag ← match r.tag with
    | some t => (Version.normalizeTag t).map some
    | none => .ok none
  let secs ← match r.timeout with
    | some raw => parseTimeoutSecs raw
    | none => .ok (defaultStepTimeoutMs / 1000)
  return { root := anchored cwd r.root, requestedChannel := channel, tag := tag,
           stepTimeoutMs := secs * 1000, restart := r.restart, assumeYes := r.yes, json := r.json,
           gitDir := anchored cwd r.gitDir, stateDir := r.stateDir }

end Updater
