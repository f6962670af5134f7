import Updater.System.Machine
import Updater.Process.Scripted
import Updater.Registry
import Updater.Confirm
import Updater.Step
import Updater.Install.Manager
import Updater.Http.Exchange
/-!
Everything an update run touches, as one state.

The machine (files, environment, working directory) is shared by all parts. Beside it stand
the collaborators the engine talks to, each given as data: how commands are answered (from a
script, or by starting programs on the machine), where dist-tags come from, who answers
questions (a script, or the person at the terminal the command line runs on, if any), how plugins
are reconciled and how the service is restarted. The state also keeps
what happened: the command lines run, every command handed to the runner with the answer it
got, the number of registry lookups and the requests its server read, the questions asked, the
calls to the plugin and service collaborators (whichever collaborator answers them), the observer
events and the locks held.

An action is a state transformer on the world.
-/

namespace Updater

inductive RunnerMode
  | scripted (rules : List Rule)
  | system
  deriving Repr, Inhabited

inductive RegistryMode
  | fake (tags : Option Registry.DistTags)
  | unreachable
  /-- A registry at `base` served by a server on the loopback address, asked with a time limit
  in milliseconds. -/
  | server (server : Http.Server) (base : String) (limit : Nat)
  deriving Repr, Inhabited

inductive PluginMode
  | quiet
  | bundled (ids : List String)
  | failing
  /-- The configured plugins are installed and updated with a package manager, each command
  given the timeout. -/
  | real (manager : Manager) (timeoutMs : Nat)
  deriving Repr, Inhabited

inductive ServiceMode
  | healthy
  | restartFails
  | verifyFails
  | cli
  deriving DecidableEq, Repr, Inhabited

abbrev Answer := Except Failure Output

structure World where
  machine : Machine := {}
  runner : RunnerMode := .scripted []
  calls : List String := []
  exchanges : List (Command × Answer) := []
  registry : RegistryMode := .fake (some [])
  registryCalls : Nat := 0
  requests : List String := []
  prompter : Prompter := {}
  terminal : Option Prompter.Reading := none
  asked : List String := []
  plugins : PluginMode := .quiet
  syncCalls : List Channel := []
  skipIdsSeen : List (List String) := []
  service : ServiceMode := .healthy
  restartCalls : Nat := 0
  verifyCalls : Nat := 0
  events : List StepEvent := []
  locks : List Nat := []
  deriving Inhabited

abbrev Act := StateM World

namespace Act

def machine : Act Machine := return (← get).machine

def setMachine (m : Machine) : Act Unit := modify fun w => { w with machine := m }

def fs : Act FileSystem := return (← get).machine.fs

def setFs (fs : FileSystem) : Act Unit := modify fun w => { w with machine := { w.machine with fs := fs } }

def changeFs (f : FileSystem → String → Except IoError FileSystem) : Act (Except IoError Unit) := do
  let m ← machine
  match f m.fs m.cwd with
  | .ok fs => setFs fs; return .ok ()
  | .error e => return .error e

def exists? (p : String) : Act Bool := return (← machine).exists? p

def isDir (p : String) : Act Bool := return (← machine).isDir p

def readFile (p : String) : Act (Except IoError String) := return (← machine).readFile p

def getEnv? (k : String) : Act (Option String) := return (← machine).getEnv? k

def logCall (line : String) : Act Unit := modify fun w => { w with calls := w.calls ++ [line] }

def logExchange (c : Command) (answer : Answer) : Act Unit :=
  modify fun w => { w with exchanges := w.exchanges ++ [(c, answer)] }

def emit (e : StepEvent) : Act Unit := modify fun w => { w with events := w.events ++ [e] }

end Act

end Updater
