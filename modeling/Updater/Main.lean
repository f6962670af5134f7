import Updater.Cli.Execute
/-!
The `openclaw-update` program.

It reads its command line; help and the version go to standard output with status 0, any other
problem with the line to the error stream with status 2. A command runs on the machine the
program sees: its working directory and the environment variables the updater reads. What the
command prints goes to standard output and its status is the program's; a failure is reported
on the error stream, with details and a suggestion when there are some, and status 1.
-/

namespace Updater.Cli

def knownVariables : List String :=
  ["HOME", "PATH", "OPENCLAW_CONFIG_PATH", "OPENCLAW_GIT_DIR", "OPENCLAW_NO_PROGRESS", "BUN_INSTALL",
   "PNPM_HOME", "NPM_CONFIG_PREFIX", "XDG_DATA_HOME", "XDG_CONFIG_HOME"]

def failureReport (f : Failure) : String :=
  let a := f.advice
  "error: " ++ a.error.message ++ "\n" ++ (a.details.map fun d => "details: " ++ d ++ "\n").getD "" ++
    (a.suggestion.map fun s => "suggestion: " ++ s ++ "\n").getD ""

def Problem.isAnswer : Problem → Bool
  | .help _ | .version _ => true
  | _ => false

def machineOf (cwd : String) (env : List (String × Option String)) : Machine :=
  { cwd := cwd, env := env.filterMap fun (k, v) => v.map (k, ·) }

end Updater.Cli

def Updater.Cli.runLine (args : List String) : IO Nat := do
  match Updater.Cli.parseLine args with
  | .error p =>
    if p.isAnswer then
      IO.print p.text
      return 0
    else
      IO.eprint p.text
      return 2
  | .ok inv =>
    let cwd := (← IO.currentDir).toString
    let env ← Updater.Cli.knownVariables.mapM fun k => return (k, ← IO.getEnv k)
    let world : Updater.World := { machine := Updater.Cli.machineOf cwd env, registry := .unreachable }
    match ((Updater.Cli.execute none inv).run world).1 with
    | .ok run =>
      IO.print run.stdout
      return run.exitCode
    | .error f =>
      IO.eprint (Updater.Cli.failureReport f)
      return 1

def main (args : List String) : IO UInt32 := do
  let code ← Updater.Cli.runLine args
  return code.toUInt32
