import Updater.Shell.Tools.Program
import Updater.Shell.Tools.Help
/-!
`cat`: the files named, or what it reads when a name is `-` or none is given, copied to its
output in order.

With options it can show more than the bytes:

* `-n` puts a line number before every line, right aligned in six columns and followed by a tab;
  `-b` numbers only the lines that are not empty. The count goes on from one file to the next,
  and a file that ends inside a line goes on with that line;
* `-s` writes a run of empty lines as one;
* `-E` writes `$` at the end of each line, and shows a carriage return before a line break as
  `^M`; `-T` shows a tab as `^I`;
* `-v` shows control bytes as `^X`, delete as `^?`, and bytes from 128 on as `M-` and the byte
  128 below; `-e`, `-t` and `-A` combine these.

A file that cannot be read is reported, by its name, and the others are still copied; so is a
file that is the very file the output goes to, unless it is empty.
-/

namespace Updater.Shell

namespace Cat

structure Shown where
  number : Bool := false
  nonblank : Bool := false
  squeeze : Bool := false
  ends : Bool := false
  tabs : Bool := false
  nonprinting : Bool := false

/-- Where `cat` stands in its output: the last line number, and how many line breaks in a row
ended the output (`-1` inside a line, `0` at the start of a line, `1` after an empty line and
`2` after two or more). -/
structure Place where
  line : Nat := 0
  breaks : Int := 0
  /-- A carriage return ended the last file under `-E`: it shows as `^M` when a line break comes
  next, and as itself otherwise. -/
  pendingReturn : Bool := false

def options : Arguments.Spec :=
  { short := Arguments.shortOptions "benstuvAET",
    long := [⟨"number-nonblank", .nothing, "b"⟩, ⟨"number", .nothing, "n"⟩,
      ⟨"squeeze-blank", .nothing, "s"⟩, ⟨"show-nonprinting", .nothing, "v"⟩,
      ⟨"show-ends", .nothing, "E"⟩, ⟨"show-tabs", .nothing, "T"⟩, ⟨"show-all", .nothing, "A"⟩,
      ⟨"help", .nothing, "help"⟩, ⟨"version", .nothing, "version"⟩] }

def withOption (s : Shown) (key : String) : Shown :=
  match key with
  | "b" => { s with number := true, nonblank := true }
  | "e" => { s with ends := true, nonprinting := true }
  | "n" => { s with number := true }
  | "s" => { s with squeeze := true }
  | "t" => { s with tabs := true, nonprinting := true }
  | "v" => { s with nonprinting := true }
  | "A" => { s with nonprinting := true, ends := true, tabs := true }
  | "E" => { s with ends := true }
  | "T" => { s with tabs := true }
  | _ => s

def lineNumber (n : Nat) : List UInt8 :=
  let ds := (toString n).toUTF8.toList
  List.replicate (6 - ds.length) 32 ++ ds ++ [9]

def visible (tabs : Bool) (c : UInt8) : List UInt8 :=
  if c ≥ 32 then
    if c < 127 then [c]
    else if c == 127 then [94, 63]
    else if c ≥ 160 then
      if c < 255 then [77, 45, c - 128] else [77, 45, 94, 63]
    else [77, 45, 94, c - 128 + 64]
  else if c == 9 && !tabs then [9]
  else [94, c + 64]

/-- The output for the bytes of one file, from a place in the output: the bytes, reversed after
`acc`, and the place after them. -/
def render (s : Shown) : List UInt8 → Place → List UInt8 → List UInt8 × Place
  | [], p, acc => (acc, p)
  | c :: rest, p, acc =>
    if c == 10 then
      let n := p.breaks + 1
      if n ≥ 2 && s.squeeze then render s rest { p with breaks := 2 } acc
      else
        let (line, acc) :=
          if n > 0 && s.number && !s.nonblank then
            (p.line + 1, (lineNumber (p.line + 1)).reverse ++ acc)
          else (p.line, acc)
        let acc := if p.pendingReturn then [77, 94] ++ acc else acc
        let acc := if s.ends then 36 :: acc else acc
        render s rest { line := line, breaks := min n 2 } (10 :: acc)
    else
      let acc := if p.pendingReturn then 13 :: acc else acc
      let (line, acc) :=
        if p.breaks ≥ 0 && s.number then (p.line + 1, (lineNumber (p.line + 1)).reverse ++ acc)
        else (p.line, acc)
      let shown :=
        if s.nonprinting then visible s.tabs c
        else if c == 9 && s.tabs then [94, 73]
        else if c == 13 && s.ends && rest.head? == some 10 then [94, 77]
        else if c == 13 && s.ends && rest.isEmpty then []
        else [c]
      let pending := !s.nonprinting && c == 13 && s.ends && rest.isEmpty
      render s rest { line := line, breaks := -1, pendingReturn := pending } (shown.reverse ++ acc)

def output (s : Shown) (bytes : List UInt8) (p : Place) : List UInt8 × Place :=
  let (acc, p) := render s bytes p []
  (acc.reverse, p)

def outputFile : Sh (Option String) := do
  match (← getProc).fds.lookup 1 with
  | some (.file path) => return some path
  | _ => return none

def isOutput (fs : FileSystem) (cwd : String) (out : Option String) (path : String) : Bool :=
  match out with
  | none => false
  | some o =>
    match fs.resolve "/" o, fs.resolve cwd path, fs.readFile cwd path with
    | .ok a, .ok b, .ok text => a == b && !text.isEmpty
    | _, _, _ => false

def copyOne (prog : Program) (s : Shown) (p : Place) (name : String) : Sh (Bool × Place) := do
  let cwd := (← getProc).cwd
  let fs := (← get).fs
  let out ← outputFile
  let bytes : Except String (List UInt8) ←
    if name == "-" then
      match (← getProc).fds.lookup 0 with
      | none => pure (.error "Bad file descriptor")
      | some (.file path) =>
        if isOutput fs "/" out path then pure (.error "input file is output file")
        else pure (.ok (← readAll 0))
      | some _ => pure (.ok (← readAll 0))
    else if isOutput fs cwd out name then pure (.error "input file is output file")
    else
      match fs.readFile cwd name with
      | .ok text => pure (.ok text.toUTF8.toList)
      | .error e => pure (.error (ioReason e))
  match bytes with
  | .error reason =>
    prog.complain (prog.quoteFile name ++ bytesOf (": " ++ reason))
    return (false, p)
  | .ok bs =>
    let (text, p) := output s bs p
    write 1 text
    return (true, p)

def copyAll (prog : Program) (s : Shown) : Place → List String → Sh Bool
  | p, [] => do
    if p.pendingReturn then write 1 [13]
    return true
  | p, name :: rest => do
    let (ok, p) ← copyOne prog s p name
    let more ← copyAll prog s p rest
    return ok && more

end Cat

def runCat (name : String) (args : List String) : Sh Nat := do
  let prog ← Program.start name
  let r := prog.read Cat.options args
  let rec settle : List Arguments.Found → Cat.Shown → Sh (Option Nat × Cat.Shown)
    | [], s => return (none, s)
    | o :: rest, s =>
      if o.key == "help" then do say 1 (helpText "cat" name); return (some 0, s)
      else if o.key == "version" then return (some 0, s)
      else settle rest (Cat.withOption s o.key)
  match ← settle r.found {} with
  | (some code, _) => return code
  | (none, shown) =>
    match r.error with
    | some msg => prog.usageError msg
    | none =>
      let files := if r.operands.isEmpty then ["-"] else r.operands
      let ok ← Cat.copyAll prog shown {} files
      return if ok then 0 else 1

end Updater.Shell
