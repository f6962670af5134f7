import Updater.System.Path
/-!
A file system as data.

Every entry sits at a location, the list of names leading to it from the root; the root is
always a directory. Text paths are looked up the way the kernel does: the path splits at `/`,
each step must go through a directory, `.` stays, `..` goes to the parent, and a trailing `/`
asks for a directory. A step through something missing fails with `NotFound`, through a file
with `NotADirectory`, which is what the system calls report.

Files carry their text, their permission bits and an inode number. Rewriting a file keeps its
inode, creating one takes a fresh number; locks belong to inodes.
-/

namespace Updater

inductive Node
  | file (content : String) (mode : Nat) (inode : Nat)
  | dir (mode : Nat)
  deriving DecidableEq, Repr, Inhabited

namespace Node

def isDir : Node → Bool
  | .dir _ => true
  | .file .. => false

def mode : Node → Nat
  | .dir m => m
  | .file _ m _ => m

end Node

abbrev Location := List String

structure FileSystem where
  entries : List (Location × Node) := []
  nextInode : Nat := 1
  deriving Inhabited

namespace FileSystem

def find? (fs : FileSystem) (loc : Location) : Option Node :=
  if loc.isEmpty then some (.dir 0o755) else (fs.entries.find? (·.1 == loc)).map (·.2)

def put (fs : FileSystem) (loc : Location) (n : Node) : FileSystem :=
  { fs with entries := (loc, n) :: fs.entries.filter (·.1 != loc) }

def erase (fs : FileSystem) (loc : Location) : FileSystem :=
  { fs with entries := fs.entries.filter fun (l, _) => !(loc.isPrefixOf l) }

def children (fs : FileSystem) (loc : Location) : List String :=
  fs.entries.filterMap fun (l, _) =>
    if l.length = loc.length + 1 && loc.isPrefixOf l then l.getLast? else none

/-- Whether one list of names comes before another: name by name, and a list before the
longer ones it starts. -/
def namesBefore : List String → List String → Bool
  | [], [] => false
  | [], _ :: _ => true
  | _ :: _, [] => false
  | a :: as, b :: bs => if a == b then namesBefore as bs else decide (a < b)

/-- Every entry below a location, named from there, in the order of a walk that takes the
names of each directory in sorted order: a directory comes right before its contents. -/
def below (fs : FileSystem) (loc : Location) : List (List String × Node) :=
  let rel := fs.entries.filterMap fun (l, n) =>
    if loc.isPrefixOf l && l.length > loc.length then some (l.drop loc.length, n) else none
  rel.mergeSort fun a b => !namesBefore b.1 a.1

def text (loc : Location) : String := "/" ++ "/".intercalate loc

def steps (p : String) : List String :=
  let names := (Path.parts p).filter (!·.isEmpty)
  if p.endsWith "/" && !names.isEmpty then names ++ ["."] else names

def walk (fs : FileSystem) : Location → List String → Except IoError Location
  | here, [] => .ok here
  | here, s :: rest =>
    match fs.find? here with
    | none => .error IoError.notFound
    | some (.file ..) => .error IoError.notADirectory
    | some (.dir _) =>
      let next := if s = "." then here else if s = ".." then here.dropLast else here ++ [s]
      walk fs next rest

def resolve (fs : FileSystem) (cwd p : String) : Except IoError Location :=
  if p.isEmpty then .error IoError.notFound
  else if Path.isAbsolute p then walk fs [] (steps p)
  else do
    let base ← walk fs [] (steps cwd)
    walk fs base (steps p)

def stat (fs : FileSystem) (cwd p : String) : Except IoError Node := do
  let loc ← fs.resolve cwd p
  match fs.find? loc with
  | some n => .ok n
  | none => .error IoError.notFound

def exists? (fs : FileSystem) (cwd p : String) : Bool :=
  match fs.stat cwd p with
  | .ok _ => true
  | .error _ => false

def isDir (fs : FileSystem) (cwd p : String) : Bool :=
  match fs.stat cwd p with
  | .ok n => n.isDir
  | .error _ => false

def readFile (fs : FileSystem) (cwd p : String) : Except IoError String := do
  match ← fs.stat cwd p with
  | .file c _ _ => .ok c
  | .dir _ => .error IoError.isADirectory

def writeFile (fs : FileSystem) (cwd p content : String) (mode : Nat := 0o644) :
    Except IoError FileSystem := do
  let loc ← fs.resolve cwd p
  if loc.isEmpty || (steps p).getLast? = some "." || (steps p).getLast? = some ".." then
    .error IoError.isADirectory
  else match fs.find? loc with
    | some (.dir _) => .error IoError.isADirectory
    | some (.file _ m i) => .ok (fs.put loc (.file content m i))
    | none => .ok { fs.put loc (.file content mode fs.nextInode) with nextInode := fs.nextInode + 1 }

/-- Opens a file for writing without truncating it, creating it empty when missing; the
inode of the file opened. -/
def touch (fs : FileSystem) (cwd p : String) : Except IoError (FileSystem × Nat) := do
  let loc ← fs.resolve cwd p
  if loc.isEmpty || (steps p).getLast? = some "." || (steps p).getLast? = some ".." then
    .error IoError.isADirectory
  else match fs.find? loc with
    | some (.dir _) => .error IoError.isADirectory
    | some (.file _ _ i) => .ok (fs, i)
    | none =>
      .ok ({ fs.put loc (.file "" 0o644 fs.nextInode) with nextInode := fs.nextInode + 1 },
        fs.nextInode)

def trimSlashes (p : String) : String :=
  let cs := p.toList.reverse.dropWhile (· == '/')
  if cs.isEmpty then p else String.ofList cs.reverse

def mkdir (fs : FileSystem) (cwd p : String) (mode : Nat := 0o755) : Except IoError FileSystem := do
  let loc ← fs.resolve cwd (trimSlashes p)
  match fs.find? loc with
  | some _ => .error IoError.alreadyExists
  | none => .ok (fs.put loc (.dir mode))

/-- Makes a directory and its missing parents: a directory already there is fine, anything
else in the way is an error. -/
def createDirAll (fs : FileSystem) (cwd : String) : Nat → String → Except IoError FileSystem
  | 0, _ => .error IoError.notFound
  | fuel + 1, p =>
    if p.isEmpty then .ok fs
    else match fs.mkdir cwd p with
      | .ok fs' => .ok fs'
      | .error e =>
        if fs.isDir cwd p then .ok fs
        else if e.kind != .notFound then .error e
        else match Path.parent? p with
          | none => .error ⟨.other, "failed to create whole tree"⟩
          | some q => do
            let fs' ← createDirAll fs cwd fuel q
            match fs'.mkdir cwd p with
            | .ok fs'' => .ok fs''
            | .error e => if fs'.isDir cwd p then .ok fs' else .error e

def createDirs (fs : FileSystem) (cwd p : String) : Except IoError FileSystem :=
  fs.createDirAll cwd ((Path.components p).length + 1) p

/-- Puts a file with its text and mode, or a directory when there is no text, at a path,
making the missing directories above it; a step that fails leaves things as they were. -/
def place (fs : FileSystem) (cwd p : String) (content : Option String) (mode : Nat) : FileSystem :=
  let keep := fun (r : Except IoError FileSystem) (fs : FileSystem) => (r.toOption).getD fs
  match content with
  | none => keep (fs.createDirs cwd p) fs
  | some c =>
    let fs := match Path.parent? p with
      | some q => keep (fs.createDirs cwd q) fs
      | none => fs
    keep (fs.writeFile cwd p c mode) fs

def readDir (fs : FileSystem) (cwd p : String) : Except IoError (List String) := do
  let loc ← fs.resolve cwd p
  match fs.find? loc with
  | none => .error IoError.notFound
  | some (.file ..) => .error IoError.notADirectory
  | some (.dir _) => .ok (fs.children loc)

def removeAll (fs : FileSystem) (cwd p : String) : Except IoError FileSystem := do
  let loc ← fs.resolve cwd p
  match fs.find? loc with
  | none => .error IoError.notFound
  | some _ => if loc.isEmpty then .error IoError.permissionDenied else .ok (fs.erase loc)

def chmod (fs : FileSystem) (cwd p : String) (mode : Nat) : Except IoError FileSystem := do
  let loc ← fs.resolve cwd p
  match fs.find? loc with
  | none => .error IoError.notFound
  | some (.file c _ i) => .ok (fs.put loc (.file c mode i))
  | some (.dir _) => .ok (fs.put loc (.dir mode))

def canonical? (fs : FileSystem) (cwd p : String) : Option String :=
  match fs.resolve cwd p with
  | .ok loc => if (fs.find? loc).isSome then some (text loc) else none
  | .error _ => none

end FileSystem

end Updater
