import Updater.Failure
/-!
Paths as POSIX text.

A path is text; its meaning comes from its components. A leading `/` is the root; the text
splits at `/`, empty parts and `.` parts are dropped except a `.` at the very front; `..` is a
component of its own and is never folded lexically. Joining an absolute path replaces,
otherwise a separator is added unless one is already there. The parent drops the last
component, and the ancestors of a path are the path and its parents in turn, so `q/..` is an
ancestor of `q/../q`. Making a path absolute puts the working directory in front of a relative
one, drops `.` parts, keeps `..` parts and a trailing separator, and refuses the empty path.
-/

namespace Updater.Path

inductive Component
  | root
  | current
  | parent
  | normal (name : String)
  deriving DecidableEq, Repr, Inhabited

def isAbsolute (p : String) : Bool := p.startsWith "/"

def parts (p : String) : List String := (p.toList.splitOn '/').map String.ofList

def components (p : String) : List Component :=
  let named : List String → List Component := fun ps =>
    (ps.filter fun (x : String) => !x.isEmpty && x != ".").map fun x =>
      if x = ".." then .parent else .normal x
  let parts := parts p
  if isAbsolute p then .root :: named parts
  else match parts with
    | "." :: rest => .current :: named rest
    | _ => named parts

def Component.text : Component → String
  | .root => "/"
  | .current => "."
  | .parent => ".."
  | .normal x => x

def same (a b : String) : Bool := components a == components b

/-- Appends a path: an absolute one replaces; otherwise a separator goes in between unless the
base is empty or already ends with one. -/
def join (base p : String) : String :=
  if isAbsolute p then p
  else if base.isEmpty || base.endsWith "/" then base ++ p
  else base ++ "/" ++ p

def ofComponents : List Component → String
  | .root :: rest => "/" ++ "/".intercalate (rest.map Component.text)
  | rest => "/".intercalate (rest.map Component.text)

def parent? (p : String) : Option String :=
  match (components p).reverse with
  | [] => none
  | .root :: _ => none
  | _ :: rest => some (ofComponents rest.reverse)

def fileName? (p : String) : Option String :=
  match (components p).reverse with
  | .normal s :: _ => some s
  | _ => none

def ancestors (p : String) : List String :=
  go (components p).length p
where
  go : Nat → String → List String
    | 0, q => [q]
    | n + 1, q =>
      match parent? q with
      | some r => q :: go n r
      | none => [q]

def absolute (cwd p : String) : Except IoError String :=
  if p.isEmpty then .error ⟨.invalidInput, "cannot make an empty path absolute"⟩
  else
    let cs := match components p with | .current :: r => r | r => r
    let (base, cs) :=
      if isAbsolute p then
        (if p.startsWith "//" && !p.startsWith "///" then ("//", cs.drop 1) else ("", cs))
      else (cwd, cs)
    let joined := cs.foldl (fun acc c => join acc c.text) base
    .ok (if p.endsWith "/" then join joined "" else joined)

end Updater.Path
