import Updater.World
/-!
The update lock.

One run at a time may change an installation: a run takes an exclusive lock on
`<state-dir>/update.lock`, creating the directory and the file as needed. Locks belong to the
file itself, so a second attempt on the same file fails while the first is held, and gives up
with `LockHeld` once its time is over. The file is left behind when the lock goes.
-/

namespace Updater

def lockFileName : String := "update.lock"

structure Lock where
  path : String
  inode : Nat
  deriving DecidableEq, Repr, Inhabited

namespace Lock

def acquire (stateDir : String) : Act (Except Failure Lock) := do
  match ← Act.changeFs fun fs cwd => fs.createDirs cwd stateDir with
  | .error e => return .error ((Failure.ofIo e).within ("Failed to create state directory: " ++ stateDir))
  | .ok () =>
    let path := Path.join stateDir lockFileName
    let m ← Act.machine
    match m.fs.touch m.cwd path with
    | .error e => return .error ((Failure.ofIo e).within ("Failed to open lock file: " ++ path))
    | .ok (fs, inode) =>
      Act.setFs fs
      if (← get).locks.contains inode then return .error (.ofUpdate (.lockHeld path))
      modify fun w => { w with locks := w.locks ++ [inode] }
      return .ok ⟨path, inode⟩

def release (l : Lock) : Act Unit := modify fun w => { w with locks := w.locks.erase l.inode }

end Lock

end Updater
