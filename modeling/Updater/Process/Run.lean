import Updater.Process.Runner
import Updater.Shell.Exec
/-!
The one entry point for running a command, whichever runner the world has.

The system runner starts the program on the machine with the machine's variables, those of the
command on top, in the command's directory. A program that cannot be started answers 127 when
it does not exist (a missing working directory counts as that) and 126 otherwise, with the
program and the system's reason on the error stream. A program still running at the command's
timeout answers no code and `timed out after <seconds>s`. Output is read as UTF-8, each
malformed sequence becoming U+FFFD. What the program did to the files stays done.
-/

namespace Updater

def commandEnv (m : Machine) (c : Command) : List (String × String) :=
  c.env ++ m.env.filter fun kv => !c.env.any (·.1 == kv.1)

def refusedOutput (program : String) (e : IoError) : Output :=
  { stdout := "", stderr := program ++ ": " ++ e.text,
    code := some (if e.kind == .notFound then 127 else 126) }

def spawn (c : Command) : Act Output := do
  let w ← get
  let m := w.machine
  let cwd := Path.join m.cwd (c.cwd.getD m.cwd)
  match m.fs.stat "/" cwd with
  | .error e => return refusedOutput c.program e
  | .ok (.file ..) => return refusedOutput c.program IoError.notADirectory
  | .ok (.dir _) =>
    let (exit, s) := Shell.execute m.fs (commandEnv m c) cwd c.program c.args c.timeoutMs
    set { w with machine := { m with fs := s.fs } }
    match exit with
    | .refused e => return refusedOutput c.program e
    | .timedOut =>
      let secs := (c.timeoutMs.getD 0) / 1000
      return { stdout := "", stderr := "timed out after " ++ toString secs ++ "s", code := none }
    | .ended ending =>
      let code := match ending with
        | .status n => some (n : Int)
        | .signal _ => none
      return { stdout := Text.decodeLossy s.out, stderr := Text.decodeLossy s.err, code := code }

def askRunner (c : Command) : Act (Except Failure Output) := do
  match (← get).runner with
  | .scripted rules => answerFromScript rules c.line
  | .system => return .ok (← spawn c)

def run (c : Command) : Act (Except Failure Output) := do
  Act.logCall c.line
  let answer ← askRunner c
  Act.logExchange c answer
  return answer

end Updater
