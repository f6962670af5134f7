import Updater.Shell.Pattern
import Updater.System.FileSystem
/-!
What expansion makes of a word: field splitting and pathname expansion.

Expanding a word gives segments: literal text, quoted text, the results of expansions, and the
field boundaries that `"$@"` puts between arguments. Only the results of unquoted expansions
are split, at the characters of `IFS`: blanks of `IFS` (space, tab, line break) around the
results are dropped and a run of them separates fields, while every other `IFS` character ends
a field, with the blanks around it, so that two in a row leave an empty field between them. A
word that expands to nothing gives no field, unless it had quotes, which give one empty field.

A field with an unquoted `*`, `?` or `[` is then a pattern for file names: each `/`-separated
part with such a character is matched against the names in its directory (a leading `.` must be
matched by a literal one), and the names found replace the field in byte order; when none are
found the field stays as it is.
-/

namespace Updater.Shell

inductive Seg
  /-- Text: `quoted` text is neither split nor a pattern; `split` marks the result of an
  unquoted expansion, which field splitting cuts. -/
  | text (s : String) (quoted : Bool) (split : Bool)
  | empty
  | cut
  deriving DecidableEq, Repr, Inhabited

abbrev Field := List (Char × Bool)

def isIfsBlank (c : Char) : Bool := c == ' ' || c == '\t' || c == '\n'

/-- Where field splitting stands: at the start (or after a boundary), inside a field, just
after a field ended at a blank, or just after one ended at another separator. -/
inductive SplitState
  | start
  | inField
  | afterBlank
  | afterSep
  deriving DecidableEq, Repr, Inhabited

structure Splitter where
  done : List Field := []
  current : Field := []
  state : SplitState := .start

namespace Splitter

def push (s : Splitter) : Splitter := { s with done := s.done ++ [s.current], current := [] }

def add (s : Splitter) (c : Char) (quoted : Bool) : Splitter :=
  { s with current := s.current ++ [(c, quoted)], state := .inField }

def separate (s : Splitter) (c : Char) : Splitter :=
  if isIfsBlank c then
    match s.state with
    | .inField => { s.push with state := .afterBlank }
    | _ => s
  else
    match s.state with
    | .inField => { s.push with state := .afterSep }
    | .afterBlank => { s with state := .afterSep }
    | .start | .afterSep => { s.push with state := .afterSep }

def step (ifs : List Char) (s : Splitter) : Seg → Splitter
  | .text t quoted split =>
    t.toList.foldl (fun s c => if split && ifs.contains c then s.separate c else s.add c quoted) s
  | .empty => { s with state := .inField }
  | .cut => if s.state == .inField then { s.push with state := .start } else { s with state := .start }

def finish (s : Splitter) : List Field := if s.state == .inField then s.push.done else s.done

end Splitter

def splitFields (ifs : String) (segs : List Seg) : List Field :=
  (segs.foldl (Splitter.step ifs.toList) {}).finish

def joinSegs (segs : List Seg) : String :=
  String.join (segs.map fun s => match s with
    | .text t _ _ => t
    | .empty => ""
    | .cut => " ")

def patternSegs (segs : List Seg) : Field :=
  segs.flatMap fun s => match s with
    | .text t q _ => t.toList.map (·, q)
    | .empty => []
    | .cut => [(' ', false)]

def Field.text (f : Field) : String := String.ofList (f.map Prod.fst)

def Field.patternBytes (f : Field) : List PatByte :=
  f.flatMap fun (c, q) => c.toString.toUTF8.toList.map (·, q)

def Field.glob (f : Field) : List Glob := Glob.ofBytes f.patternBytes

def Field.hasMeta (f : Field) : Bool := Pattern.hasMeta f.glob

def splitSlashes (f : Field) : List Field :=
  let rec go : Nat → Field → Field → List Field
    | 0, cur, _ => [cur]
    | _, cur, [] => [cur]
    | n + 1, cur, (c, q) :: rest => if c == '/' then cur :: go n [] rest else go n (cur ++ [(c, q)]) rest
  go (f.length + 1) [] f

/-- Whether a name may be matched by a pattern part: a name starting with `.` only by a part
starting with a literal `.`. -/
def visibleTo (part : Field) (name : String) : Bool :=
  !name.startsWith "." || (part.head?.map Prod.fst) == some '.'

/-- The paths a pattern's parts lead to under a directory prefix (empty for the working
directory). -/
def globParts (fs : FileSystem) (cwd : String) : Nat → String → List Field → List String
  | 0, _, _ => []
  | _, prefixPath, [] => [prefixPath]
  | n + 1, prefixPath, part :: rest =>
    let sep := if rest.isEmpty then "" else "/"
    if !part.hasMeta then
      let path := prefixPath ++ part.text
      if rest.isEmpty then (if fs.exists? cwd path then [path] else [])
      else globParts fs cwd n (path ++ "/") rest
    else
      let dir := if prefixPath.isEmpty then "." else prefixPath
      match fs.readDir cwd dir with
      | .error _ => []
      | .ok names =>
        let names := if (part.head?.map Prod.fst) == some '.' then "." :: ".." :: names else names
        let pat := part.glob
        let hits := names.filter fun nm => visibleTo part nm && Glob.matches pat nm.toUTF8.toList
        hits.flatMap fun nm => globParts fs cwd n (prefixPath ++ nm ++ sep) rest

/-- Pathname expansion of a field: the file names it matches, or its text when it matches
none or is no pattern. -/
def expandPath (fs : FileSystem) (cwd : String) (f : Field) : List String :=
  if !f.hasMeta then [f.text]
  else
    let parts := splitSlashes f
    let (start, parts) := match parts with
      | [] :: rest => if rest.isEmpty then ("", parts) else ("/", rest)
      | _ => ("", parts)
    match globParts fs cwd (parts.length + 1) start parts with
    | [] => [f.text]
    | hits => hits.mergeSort fun a b => decide (a.toUTF8.toList ≤ b.toUTF8.toList)

end Updater.Shell
