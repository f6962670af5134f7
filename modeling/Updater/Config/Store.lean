import Updater.Config.Model
import Updater.World
/-!
Reading and writing the configuration file.

A missing file is a valid, empty configuration. A file that does not read as a configuration is
reported as invalid with the reason, and its contents count as empty; the updater then refuses to
write it. Saving writes the whole configuration afresh. Storing a channel edits the file in
place: the `update` table is made a table if it is anything else (keeping how its key was
written), its `channel` is set, and every other line stays as it was.

Every write creates the missing directories above the file, writes it and leaves it readable
by its owner only (mode 600).
-/

namespace Updater.Config

open Toml

structure Snapshot where
  path : String
  present : Bool
  valid : Bool
  config : AppConfig := {}
  issues : List String := []
  deriving Repr, Inhabited

def Snapshot.storedChannel (s : Snapshot) : Option Channel :=
  if s.valid then s.config.update.channel else none

def readFailure (path : String) (e : IoError) : Failure :=
  (Failure.ofIo e).within ("Failed to read config from " ++ path)

def load (path : String) : Act (Except Failure Snapshot) := do
  if !(← Act.exists? path) then
    return .ok { path := path, present := false, valid := true }
  match ← Act.readFile path with
  | .error e => return .error (readFailure path e)
  | .ok text =>
    match parseConfig text with
    | .ok c => return .ok { path := path, present := true, valid := true, config := c }
    | .error issue => return .ok { path := path, present := true, valid := false, issues := [issue] }

def withContext (line : String) (f : FileSystem → String → Except IoError FileSystem) :
    Act (Except Failure Unit) := do
  match ← Act.changeFs f with
  | .ok () => return .ok ()
  | .error e => return .error ((Failure.ofIo e).within line)

def writeConfig (path content : String) : Act (Except Failure Unit) := do
  let parent := (Path.parent? path).getD ""
  if !parent.isEmpty then
    match ← withContext ("Failed to create config directory: " ++ parent)
        (fun fs cwd => fs.createDirs cwd parent) with
    | .error f => return .error f
    | .ok () => pure ()
  match ← withContext ("Failed to write config to " ++ path) (fun fs cwd => fs.writeFile cwd path content) with
  | .error f => return .error f
  | .ok () => pure ()
  let m ← Act.machine
  match m.fs.stat m.cwd path with
  | .error e => return .error ((Failure.ofIo e).within ("Failed to read permissions for " ++ path))
  | .ok _ => withContext ("Failed to set permissions on " ++ path) (fun fs cwd => fs.chmod cwd path 0o600)

def save (path : String) (c : AppConfig) : Act (Except Failure Unit) :=
  writeConfig path c.render

def withChannel (doc : Toml.Document) (ch : Channel) : Toml.Document :=
  let es := (doc.root.entries?).getD []
  let es := match lookup es "update" with
    | some n => if n.isTableLike then es else setEntry es "update" Toml.Node.emptyTable
    | none => setEntry es "update" Toml.Node.emptyTable
  let update := (lookup es "update").getD Toml.Node.emptyTable
  let channel : Toml.Node := .scalar (.string ch.name) none {} none
  let update := update.withEntries (setEntry ((update.entries?).getD []) "channel" channel)
  { doc with root := doc.root.withEntries (replaceEntry es "update" update) }

def persistChannel (path : String) (ch : Channel) : Act (Except Failure Unit) := do
  let existing ← if ← Act.exists? path then Act.readFile path else pure (.ok "")
  match existing with
  | .error e => return .error (readFailure path e)
  | .ok text =>
    match Document.parse .int64 text with
    | .error e => return .error (Failure.ofUpdate (.configError ("cannot edit " ++ path ++ ": " ++ e.show text)))
    | .ok doc => writeConfig path (withChannel doc ch).render

end Updater.Config
