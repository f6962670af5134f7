import Updater.Process.Run
/-!
The step executor.

A step runs its command and becomes a result; a runner failure becomes a result without an
exit code whose error stream is the failure's text. Running a step announces it to the
observer (numbered among announced steps), executes it and records the result, which the
observer sees too. A list of steps runs until the first one that does not succeed. A step may
also be executed without being announced or recorded, and recorded afterwards.
-/

namespace Updater

structure Executor where
  steps : List StepResult := []
  started : Nat := 0
  deriving DecidableEq, Repr, Inhabited

/-- The result of a step from the runner's answer; a runner failure has no exit code and its
text as the error stream. -/
def StepResult.ofAnswer (s : Step) : Except Failure Output → StepResult
  | .ok o => ofOutput s o.code o.stdout o.stderr
  | .error f => ofOutput s none "" f.fullText

def answerStdout : Except Failure Output → String
  | .ok o => o.stdout
  | .error _ => ""

namespace Executor

def executeWithStdout (s : Step) : Act (StepResult × String) := do
  let answer ← run s.command
  return (StepResult.ofAnswer s answer, answerStdout answer)

def execute (s : Step) : Act StepResult := return (← executeWithStdout s).1

def announce (e : Executor) (s : Step) : Act Executor := do
  Act.emit (.start e.started s.name s.command.line)
  return { e with started := e.started + 1 }

def record (e : Executor) (r : StepResult) : Act Executor := do
  Act.emit (.complete r)
  return { e with steps := e.steps ++ [r] }

def recordExecuted (e : Executor) (s : Step) (r : StepResult) : Act Executor := do
  (← e.announce s).record r

def runStep (e : Executor) (s : Step) : Act (Executor × Bool) := do
  let e ← e.announce s
  let r ← execute s
  return (← e.record r, r.succeeded)

def runAll (e : Executor) : List Step → Act (Executor × Option String)
  | [] => return (e, none)
  | s :: rest => do
    let (e, ok) ← e.runStep s
    if ok then runAll e rest else return (e, some s.name)

end Executor

end Updater
