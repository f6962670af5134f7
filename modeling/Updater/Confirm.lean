import Updater.Failure
import Updater.Version.Target
/-!
The downgrade gate.

A move to an older version, or to one that cannot be determined, needs an explicit yes. With
`--yes`, or when no confirmation is needed, the run proceeds. Otherwise the gate fails closed
when no answer can be obtained (JSON output, or no terminal), and a person at a terminal is
asked once: a no cancels the run, and a failure to read the answer ends it with that failure.

A prompter is whether someone is at a terminal and how asking them ends. At a terminal, Esc
reads as a no, an interrupt stops the update, and any other failure to read is reported; the
scripted prompter answers when it has a terminal and fails when it has none.
-/

namespace Updater

structure Prompter where
  interactive : Bool := false
  reply : Except Failure Bool := .error (.ofText "prompted without a terminal")
  deriving Repr, Inhabited

namespace Prompter

def scripted (interactive answer : Bool) : Prompter :=
  if interactive then ⟨true, .ok answer⟩ else {}

inductive Reading
  | answered (yes : Bool)
  | canceled
  | interrupted
  | failed (error : String)
  deriving DecidableEq, Repr, Inhabited

def terminal (interactive : Bool) : Reading → Prompter
  | .answered yes => ⟨interactive, .ok yes⟩
  | .canceled => ⟨interactive, .ok false⟩
  | .interrupted => ⟨interactive, .error (.ofUpdate .interrupted)⟩
  | .failed e =>
    ⟨interactive, .error (.ofUpdate (.other ("Failed to read confirmation: " ++ e)))⟩

def ofTerminal : Option Reading → Prompter
  | some r => terminal true r
  | none => terminal false .canceled

end Prompter

inductive Decision
  | proceed
  | declined
  deriving DecidableEq, Repr, Inhabited

def Decision.name : Decision → String
  | .proceed => "proceed"
  | .declined => "declined"

def downgradeMessage (current : String) (target : VersionTarget) : String :=
  match target.version with
  | some v => "Downgrading from " ++ current ++ " to " ++ v ++ " can break configuration. Continue?"
  | none =>
    "Target version for '" ++ target.tag ++ "' is unknown; this may be a downgrade from " ++
      current ++ ". Continue?"

structure DowngradeCheck where
  current : Option String
  target : VersionTarget
  fellBack : Bool := false
  assumeYes : Bool := false
  json : Bool := false
  deriving DecidableEq, Repr, Inhabited

def confirmDowngrade (p : Prompter) (c : DowngradeCheck) :
    Except Failure (Decision × Option String) :=
  let required := Version.needsConfirmation c.current c.target.version c.fellBack
  if c.assumeYes || !required then .ok (.proceed, none)
  else
    let current := c.current.getD "unknown"
    let blocked :=
      if c.json then some "JSON output cannot prompt for confirmation"
      else if !p.interactive then some "no interactive terminal is attached"
      else none
    match blocked with
    | some reason => .error (.ofUpdate (.confirmationRequired current c.target.label reason))
    | none =>
      let question := downgradeMessage current c.target
      match p.reply with
      | .ok yes => .ok (if yes then .proceed else .declined, some question)
      | .error f => .error f

end Updater
