import Updater.Json
import Updater.Process.Command
/-!
Steps and their results.

A step is a named command; its result records the command line, working directory, duration,
exit code and the tails of both streams (at most `maxLogChars` characters each, absent when
empty). A step succeeded when its exit code is zero. Observers see a start event, numbered among
announced steps, and a completion event carrying the step's result.
-/

namespace Updater

structure Step where
  name : String
  command : Command
  deriving DecidableEq, Repr, Inhabited

def Step.mk' (name : String) (c : Command) : Step := ⟨name, c.withContext name⟩

structure StepResult where
  name : String
  command : String
  cwd : Option String := none
  durationMs : Nat := 0
  exitCode : Option Int := some 0
  stdoutTail : Option String := none
  stderrTail : Option String := none
  deriving DecidableEq, Repr, Inhabited

namespace StepResult

def succeeded (r : StepResult) : Bool := r.exitCode == some 0

def ofOutput (s : Step) (code : Option Int) (stdout stderr : String) : StepResult :=
  { name := s.name, command := s.command.line, cwd := s.command.cwd, durationMs := 0,
    exitCode := code, stdoutTail := trimLogTail stdout maxLogChars,
    stderrTail := trimLogTail stderr maxLogChars }

def exitJson : Option Int → Json
  | some c => .int c
  | none => .null

def toJson (r : StepResult) : Json :=
  .objOpt [("name", some (.str r.name)), ("command", some (.str r.command)),
    ("cwd", r.cwd.map .str), ("durationMs", some (.nat r.durationMs)),
    ("exitCode", some (exitJson r.exitCode)), ("stdoutTail", r.stdoutTail.map .str),
    ("stderrTail", r.stderrTail.map .str)]

end StepResult

inductive StepEvent
  | start (index : Nat) (name command : String)
  | complete (result : StepResult)
  deriving DecidableEq, Repr, Inhabited

def StepEvent.started (events : List StepEvent) : List String :=
  events.filterMap fun | .start _ n _ => some n | .complete .. => none

def StepEvent.completed (events : List StepEvent) : List String :=
  events.filterMap fun | .complete r => some r.name | .start .. => none

def StepEvent.recorded (events : List StepEvent) : List StepResult :=
  events.filterMap fun | .complete r => some r | .start .. => none

def StepEvent.toJson : StepEvent → Json
  | .start i n c => .obj [("event", .str "start"), ("index", .nat i), ("name", .str n), ("command", .str c)]
  | .complete r => .obj [("event", .str "complete"), ("name", .str r.name), ("exitCode", StepResult.exitJson r.exitCode)]

end Updater
