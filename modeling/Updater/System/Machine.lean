import Updater.System.FileSystem
/-!
The machine a run sees: its file system, its environment and its working directory.

The home directory is `HOME` when it is set and not empty, and the account's own home
otherwise.
-/

namespace Updater

structure Machine where
  fs : FileSystem := {}
  env : List (String × String) := []
  cwd : String := "/"
  deriving Inhabited

namespace Machine

def accountHome : String := "/root"

def getEnv? (m : Machine) (key : String) : Option String :=
  (m.env.find? (·.1 == key)).map (·.2)

def setEnv (m : Machine) (key value : String) : Machine :=
  { m with env := m.env.filter (·.1 != key) ++ [(key, value)] }

def unsetEnv (m : Machine) (key : String) : Machine :=
  { m with env := m.env.filter (·.1 != key) }

def home (m : Machine) : String :=
  match m.getEnv? "HOME" with
  | some h => if h.isEmpty then accountHome else h
  | none => accountHome

def absolute (m : Machine) (p : String) : Except IoError String := Path.absolute m.cwd p

def exists? (m : Machine) (p : String) : Bool := m.fs.exists? m.cwd p

def isDir (m : Machine) (p : String) : Bool := m.fs.isDir m.cwd p

def readFile (m : Machine) (p : String) : Except IoError String := m.fs.readFile m.cwd p

end Machine

end Updater
