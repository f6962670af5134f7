import Updater.Shell.State
import Updater.Shell.Arith
import Updater.Shell.Format
import Updater.Shell.Test
import Updater.Shell.Tools
import Updater.Shell.Builtins
import Updater.System.Path
/-!
Running scripts: the shell's evaluation of commands, and starting programs.

A script is read and run one complete command at a time. A simple command expands its words
(parameters, command substitutions, arithmetic, field splitting, file names), performs its
redirections, then its assignments, and runs a function, a builtin or a program. Assignments
before a special builtin, or without a command, stay; before anything else they hold for that
command only and are exported to it. Pipelines, subshells and command substitutions run in a
copy of the process, so that what they change does not outlive them; files they change stay
changed.

A program is found by its path, or through the directories of `PATH` when its name has no `/`.
The machine's own programs live in `/bin`; any other file runs through the interpreter its `#!`
line names, and a file without one runs as a shell script. A file that is missing is
`not found` (127), one that cannot be run is `Permission denied` (126).

Errors of the shell are written as `name: line: message` on the error stream; syntax errors,
errors in expansions and errors of special builtins end the process with status 2, while other
builtins answer 2 and let the script go on. With `set -e` a failing command ends the script,
unless it is tested by `if`, `while`, `until`, `&&`, `||` or `!`. Time passes only in `sleep`;
every step takes one unit of a budget, so every run ends.
-/

namespace Updater.Shell

def regularBuiltins : List String :=
  ["[", "alias", "bg", "cd", "command", "echo", "false", "fg", "getopts", "hash", "jobs", "kill",
   "printf", "pwd", "read", "test", "true", "type", "ulimit", "umask", "unalias", "wait"]

def isBuiltin (name : String) : Bool :=
  specialBuiltins.contains name || regularBuiltins.contains name

def toolAt (path : String) : Option String :=
  match Path.components path with
  | [.root, .normal "bin", .normal t] => if systemPrograms.contains t then some t else none
  | [.root, .normal "usr", .normal "bin", .normal t] => if systemPrograms.contains t then some t else none
  | _ => none

def shebang (content : String) : Option (String × Option String) :=
  match content.toList with
  | '#' :: '!' :: rest =>
    let line := (rest.takeWhile (· != '\n')).dropWhile (fun c => c == ' ' || c == '\t')
    let interp := line.takeWhile (fun c => c != ' ' && c != '\t')
    let arg := ((line.drop interp.length).dropWhile (fun c => c == ' ' || c == '\t')).reverse.dropWhile
      (fun c => c == ' ' || c == '\t' || c == '\r') |>.reverse
    some (String.ofList interp, if arg.isEmpty then none else some (String.ofList arg))
  | _ => none

def builtinNumber (s : String) : Option Nat :=
  match TestExpr.number s with
  | .ok n => if n < 0 || n > 2147483647 then none else some n.toNat
  | .error _ => none

/-- The options of `kill` read one letter at a time: `-l` lists, `-s name` gives the signal.
The signal found, whether to list, and the words after the options. -/
def killOptions : Nat → Option Nat → Bool → List String → Except String (Option Nat × Bool × List String)
  | 0, sig, list, ws => .ok (sig, list, ws)
  | _, sig, list, [] => .ok (sig, list, [])
  | f + 1, sig, list, w :: rest =>
    if w == "--" then .ok (sig, list, rest)
    else match w.toList with
      | '-' :: c :: cs =>
        let rec letters : Nat → Option Nat → Bool → List Char → List String →
            Except String (Option Nat × Bool × List String)
          | 0, sig, list, _, ws => .ok (sig, list, ws)
          | _, sig, list, [], ws => killOptions f sig list ws
          | g + 1, sig, list, d :: ds, ws =>
            if d == 'l' then letters g sig true ds ws
            else if d == 's' then
              let (value, ws') := if ds.isEmpty then (ws.head?, ws.drop 1) else (some (String.ofList ds), ws)
              match value with
              | none => .error "No arg for -s option"
              | some v =>
                match decodeSignal v 1 with
                | some n => killOptions f (some n) list ws'
                | none => .error ("invalid signal number or name: " ++ v)
            else .error ("Illegal option -" ++ d.toString)
        letters (cs.length + 2) sig list (c :: cs) rest
      | _ => .ok (sig, list, w :: rest)

def factsOf (fs : FileSystem) (cwd : String) (path : String) : Option FileFacts :=
  if path.isEmpty then none
  else match fs.resolve cwd path with
    | .error _ => none
    | .ok loc =>
      match fs.find? loc with
      | some (.file c m i) => some ⟨true, false, c.utf8ByteSize, m, "inode " ++ toString i⟩
      | some (.dir m) => some ⟨false, true, 4096, m, FileSystem.text loc⟩
      | none => none

def findInPath (fs : FileSystem) (p : Proc) (name : String) : Option String :=
  let dirs := ((p.lookup "PATH").getD "").splitOn ":"
  dirs.findSome? fun d =>
    let cand := if d.isEmpty then name else d ++ "/" ++ name
    match fs.stat p.cwd cand with
    | .ok (.file ..) => some cand
    | _ => none

/-- The first executable regular file named `name` in the directories of `PATH`. When there is
none, whether something of that name was there (a directory, or a file that may not run),
which the shell reports as a permission denied. -/
def findCommand (fs : FileSystem) (p : Proc) (name : String) : Except Bool String :=
  let rec go : List String → Bool → Except Bool String
    | [], denied => .error denied
    | d :: rest, denied =>
      let cand := if d.isEmpty then name else d ++ "/" ++ name
      match fs.stat p.cwd cand with
      | .ok (.file _ m _) => if m &&& 0o111 != 0 then .ok cand else go rest true
      | .ok (.dir _) => go rest true
      | .error _ => go rest denied
  go (((p.lookup "PATH").getD "").splitOn ":") false

def createReason (e : IoError) : String :=
  if e.kind == .notFound || e.kind == .notADirectory then "Directory nonexistent"
  else ioReason e

def lostOutput (p : Proc) (bytes : List UInt8) : Bool := !bytes.isEmpty && (p.fds.lookup 1).isNone

def pipeParts : Cmd → List Cmd
  | .pipe a b => pipeParts a ++ [b]
  | c => [c]

def markSplit (segs : List Seg) : List Seg :=
  segs.map fun s => match s with
    | .text t false _ => .text t false true
    | other => other

def valueSegs (v : String) (quoted : Bool) : List Seg :=
  if quoted then (if v.isEmpty then [.empty] else [.text v true false]) else [.text v false true]

/-- The arguments as `$@` or `$*` give them: quoted `$@` one field each, quoted `$*` joined by
the first character of `IFS`, unquoted each split on its own. -/
def argsSegs (p : Proc) (star quoted : Bool) : List Seg :=
  if quoted && star then
    let sep := (p.ifs.toList.head?.map Char.toString).getD ""
    valueSegs (sep.intercalate p.args) true
  else
    let one := fun (a : String) => valueSegs a quoted
    match p.args with
    | [] => []
    | a :: rest => rest.foldl (fun acc x => acc ++ [.cut] ++ one x) (one a)

def paramLookup (p : Proc) (name : String) : Option String :=
  if name == "#" then some (toString p.args.length)
  else if name == "?" then some (toString p.status)
  else if name == "$" then some (toString p.pid)
  else if name == "!" then p.lastBackground.map toString
  else if name == "-" then some p.opts.letters
  else if name == "0" then some p.name
  else if name == "@" || name == "*" then
    if p.args.isEmpty then none else some (" ".intercalate p.args)
  else if !name.isEmpty && name.all Char.isDigit then p.args[name.toNat! - 1]?
  else p.lookup name

def maxCallDepth : Nat := 1000

/-- Fails as the shell does on an error: writes it, and stops with a failure, which ends the
process with status 2 unless a builtin that may fail that way is running. -/
def fatal {α : Type} (msg : String) : Sh α := do
  shellError msg
  throw .failure

def contained (run : Sh Nat) : Sh Nat :=
  tryCatch run fun h =>
    match h with
    | .failure => pure 2
    | other => throw other

def paramText (name : String) : Sh String := do
  let p ← getProc
  match paramLookup p name with
  | some v => return v
  | none =>
    if p.opts.nounset && name != "@" && name != "*" then fatal (name ++ ": parameter not set")
    else return ""

def paramSegs (name : String) (quoted : Bool) : Sh (List Seg) := do
  let p ← getProc
  if name == "@" || name == "*" then return argsSegs p (name == "*") quoted
  return valueSegs (← paramText name) quoted

def arithValue (text : String) : Sh Int := do
  let p ← getProc
  match evalArith p.lookup text with
  | .error e => fatal e.message
  | .ok (v, sets) =>
    for (n, val) in sets do
      match ← assignVar n val with
      | .error e => fatal e
      | .ok _ => pure ()
    return v

def setFd (fd : Nat) (c : Chan) : Sh Unit :=
  modifyProc fun p => { p with fds := (fd, c) :: p.fds.filter (·.1 != fd) }

def closeFd (fd : Nat) : Sh Unit := modifyProc fun p => { p with fds := p.fds.filter (·.1 != fd) }

def restoreVars (saved : List (String × Option Var)) : Sh Unit :=
  modifyProc fun p => saved.foldl (fun p (n, old) =>
    match old with
    | some v => p.update n fun _ => v
    | none => { p with vars := p.vars.filter (·.1 != n) }) p

def popLocals : Sh Unit := do
  let p ← getProc
  match p.locals with
  | frame :: rest =>
    modifyProc fun p => { p with locals := rest }
    restoreVars frame
  | [] => pure ()

def shellVars (env : List (String × String)) (cwd : String) (parent : Nat) :
    List (String × Var) :=
  let imported := env.map fun (k, v) => (k, ({ value := some v, exported := true } : Var))
  let defaults : List (String × String) :=
    [("IFS", " \t\n"), ("PS1", "# "), ("PS2", "> "), ("PS4", "+ "), ("OPTIND", "1")]
  let withDefaults := defaults.foldl (fun acc (k, v) =>
    if acc.any (·.1 == k) then acc else acc ++ [(k, ({ value := some v } : Var))]) imported
  let withPwd := (withDefaults.filter (·.1 != "PWD")) ++ [("PWD", { value := some cwd, exported := true })]
  withPwd.filter (·.1 != "PPID") ++ [("PPID", { value := some (toString parent) })]

def describe (fs : FileSystem) (p : Proc) (name : String) : Option String :=
  if reservedWords.contains name then some "a shell keyword"
  else if let some v := p.aliases.lookup name then some ("an alias for " ++ v)
  else if p.funcs.any (·.1 == name) then some "a shell function"
  else if specialBuiltins.contains name then some "a special shell builtin"
  else if regularBuiltins.contains name then some "a shell builtin"
  else if name.contains '/' then (if fs.exists? p.cwd name then some name else none)
  else (findCommand fs p name).toOption

inductive LoopStep
  | next
  | stop
  deriving DecidableEq, Repr

/-- How a shell is started: its options, whether `-c` gives the script, whether job control
was asked for, the option listings asked for (`true` for `-o`), and the words after the
options. -/
structure Startup where
  opts : Options := {}
  command : Bool := false
  monitor : Bool := false
  listings : List Bool := []
  rest : List String := []

def Startup.switch (s : Startup) (name : String) (on : Bool) : Startup :=
  let asks := on && (name == "monitor" || name == "interactive")
  { s with opts := s.opts.setName name on, monitor := s.monitor || asks }

/-- Applies one word of the options of `sh`, as `setCluster` does for `set`; `c`, with either
sign, says that the script is the first word after the options. -/
def startCluster (sign : Char) :
    List Char → Startup → List String → Except String (Startup × List String)
  | [], s, rest => .ok (s, rest)
  | 'c' :: more, s, rest => startCluster sign more { s with command := true } rest
  | 'o' :: more, s, rest =>
    match rest with
    | name :: after =>
      if Options.isName name then
        startCluster sign more (s.switch name (sign == '-')) after
      else .error ("Illegal option " ++ String.ofList [sign, 'o'] ++ " " ++ name)
    | [] => startCluster sign more { s with listings := s.listings ++ [sign == '-'] } []
  | l :: more, s, rest =>
    match Options.ofLetter l with
    | some name =>
      startCluster sign more (s.switch name (sign == '-')) rest
    | none => .error ("Illegal option " ++ String.ofList [sign, l])

def shellOptions : Nat → List String → Startup → Except String Startup
  | 0, rest, s => .ok { s with rest := rest }
  | _, [], s => .ok s
  | _ + 1, "--" :: rest, s => .ok { s with rest := rest }
  | _ + 1, "-" :: rest, s => .ok { s with rest := rest }
  | f + 1, w :: rest, s =>
    match w.toList with
    | sign :: letters =>
      if (sign == '-' || sign == '+') && !letters.isEmpty then
        match startCluster sign letters s rest with
        | .ok (s, rest) => shellOptions f rest s
        | .error e => .error e
      else .ok { s with rest := w :: rest }
    | [] => .ok { s with rest := w :: rest }

mutual

def expandSegs (fuel : Nat) (w : Word) : Sh (List Seg) :=
  match fuel with
  | 0 => throw .exhausted
  | f + 1 => w.foldlM (fun acc p => do return acc ++ (← expandPiece f p)) []

def expandPiece (fuel : Nat) (piece : Piece) : Sh (List Seg) :=
  match fuel with
  | 0 => throw .exhausted
  | f + 1 =>
    match piece with
    | .text s q => return (if q && s.isEmpty then [.empty] else [.text s q false])
    | .tilde user => do
      let p ← getProc
      let home := if user.isEmpty then p.lookup "HOME" else userHomes.lookup user
      match home with
      | some h => return (if h.isEmpty then [] else [.text h true false])
      | none => return [.text ("~" ++ user) false false]
    | .param name q => paramSegs name q
    | .length name q => do
      let p ← getProc
      -- the arguments count as joined by the first character of IFS, one byte, if it has one
      let n ← if name == "@" || name == "*" then
          pure (p.args.foldl (fun n a => n + a.utf8ByteSize) 0 +
            (if p.ifs.isEmpty then 0 else p.args.length - 1))
        else pure (← paramText name).utf8ByteSize
      return valueSegs (toString n) q
    | .paramOp name op word q => do
      let segs ← paramOp f name op word q
      return (if q then .empty :: segs else segs)
    | .command script bq q line => do
      let out ← substitute f script bq line
      return valueSegs out q
    | .arith expr q => do
      let text := joinSegs (← expandSegs f expr)
      return valueSegs (toString (← arithValue text)) q

def paramOp (fuel : Nat) (name : String) (op : ParamOp) (word : Word) (q : Bool) :
    Sh (List Seg) :=
  match fuel with
  | 0 => throw .exhausted
  | f + 1 => do
    let p ← getProc
    let value := paramLookup p name
    let missing := fun (colon : Bool) => value.isNone || (colon && value == some "")
    match op with
    | .orElse colon =>
      if missing colon then
        let segs ← expandSegs f word
        return (if q then segs else markSplit segs)
      else paramSegs name q
    | .assign colon =>
      if missing colon then
        let text := joinSegs (← expandSegs f word)
        if !isName name then fatal (name ++ ": bad variable name")
        match ← assignVar name text with
        | .error e => fatal e
        | .ok _ => return valueSegs text q
      else paramSegs name q
    | .orFail colon =>
      if missing colon then
        let msg := joinSegs (← expandSegs f word)
        let msg := if !msg.isEmpty then msg
          else if colon then "parameter not set or null" else "parameter not set"
        fatal (name ++ ": " ++ msg)
      else paramSegs name q
    | .andThen colon =>
      if missing colon then return []
      else
        let segs ← expandSegs f word
        return (if q then segs else markSplit segs)
    | .dropPrefix longest =>
      let v ← paramText name
      let pat := Glob.ofBytes (patternSegs (← expandSegs f word)).patternBytes
      return valueSegs (Text.decodeLossy (Glob.dropPrefix pat longest (bytesOf v))) q
    | .dropSuffix longest =>
      let v ← paramText name
      let pat := Glob.ofBytes (patternSegs (← expandSegs f word)).patternBytes
      return valueSegs (Text.decodeLossy (Glob.dropSuffix pat longest (bytesOf v))) q
    | .bad => fatal "Bad substitution"

def expandText (fuel : Nat) (w : Word) : Sh String :=
  match fuel with
  | 0 => throw .exhausted
  | f + 1 => return joinSegs (← expandSegs f w)

def expandAll (fuel : Nat) (ws : List Word) : Sh (List String) :=
  match fuel with
  | 0 => throw .exhausted
  | f + 1 => ws.foldlM (fun acc w => do
      let segs ← expandSegs f w
      let p ← getProc
      let fields := splitFields p.ifs segs
      let fs := (← get).fs
      let names := if p.opts.noglob then fields.map Field.text
        else fields.flatMap (expandPath fs p.cwd)
      return acc ++ names) []

/-- The output of a command substitution, without its trailing line breaks. Its script, which
starts at line `line`, is read whole before it runs. -/
def substitute (fuel : Nat) (script : String) (backquoted : Bool) (line : Nat) : Sh String :=
  match fuel with
  | 0 => throw .exhausted
  | f + 1 => do
    let saved ← getProc
    let body ← match substitutionBody saved.aliases (script.length + 1) script backquoted line with
      | .ok c => pure c
      | .error e => do
        reportAt e.line saved.context e.message
        throw .failure
    let buf ← newBuffer
    modifyProc fun p => { p with fds := (1, .buffer buf) :: p.fds.filter (·.1 != 1) }
    let code ← subshell f (runCmd f false body)
    let out ← takeBuffer buf
    modifyProc fun p => { p with fds := saved.fds, substStatus := some code }
    return Text.decodeLossy (out.reverse.dropWhile (· == 10)).reverse

def subshell (fuel : Nat) (body : Sh Unit) : Sh Nat :=
  match fuel with
  | 0 => throw .exhausted
  | f + 1 => do
    let saved ← getProc
    flushPending
    -- the jobs of the shell are not the subshell's
    modifyProc fun p => { p with exitTrap := none, traps := [], jobs := [] }
    let code ← tryCatch (asProcess f body) fun h => do
      modifyProc fun _ => saved
      throw h
    modifyProc fun _ => saved
    flushPending
    return code

def asProcess (fuel : Nat) (body : Sh Unit) : Sh Nat :=
  match fuel with
  | 0 => throw .exhausted
  | f + 1 => do
    let code ← tryCatch (do body; status) fun h =>
      match h with
      | .exit n => pure n
      | .failure => pure 2
      | .ret n => pure n
      | .brk _ | .cont _ => status
      | other => throw other
    match (← getProc).exitTrap with
    | none => return code % 256
    | some action =>
      modifyProc fun p => { p with exitTrap := none, status := code }
      let final ← tryCatch (do runScript f action (← getProc).line; pure code) fun h =>
        match h with
        | .exit n => pure n
        | .failure => pure 2
        | other => throw other
      return final % 256

def runScript (fuel : Nat) (script : String) (line : Nat) : Sh Unit :=
  match fuel with
  | 0 => throw .exhausted
  | f + 1 =>
    let r := Reader.start script line
    -- aliases may add commands to the script
    runReader f (8 * r.size + 16) r

def runReader (fuel : Nat) (count : Nat) (r : Reader) : Sh Unit :=
  match fuel, count with
  | 0, _ => throw .exhausted
  | _, 0 => pure ()
  | f + 1, n + 1 => do
    match r.next (← getProc).aliases with
    | .error e => do
      reportAt e.line (← getProc).context e.message
      throw .failure
    | .ok none => pure ()
    | .ok (some (c, r')) => do
      modifyProc fun p => { p with readLine := r'.state.endLine }
      runCmd f false c
      runReader f n r'

def checkErrexit (fuel : Nat) (tested : Bool) : Sh Unit :=
  match fuel with
  | 0 => throw .exhausted
  | _ + 1 => do
    let p ← getProc
    if p.opts.errexit && !tested && p.status != 0 then throw (.exit p.status)

/-- Runs a command. `tested` says that its status is tested, so `set -e` leaves it alone.
Under `set -n` nothing runs any more. -/
def runCmd (fuel : Nat) (tested : Bool) (c : Cmd) : Sh Unit :=
  match fuel with
  | 0 => throw .exhausted
  | f + 1 => do
    step
    if (← getProc).opts.noexec then return
    match c with
    | .skip => setStatus 0
    | .simple assigns words redirs line =>
      runSimple f tested assigns words redirs line
      checkErrexit f tested
    | .pipe .. =>
      runPipe f tested (pipeParts c) none
      checkErrexit f tested
    | .seq a b =>
      runCmd f tested a
      runCmd f tested b
    | .andIf a b =>
      runCmd f true a
      if (← status) == 0 then runCmd f tested b
    | .orIf a b =>
      runCmd f true a
      if (← status) != 0 then runCmd f tested b
    | .negate a =>
      runCmd f true a
      setStatus (if (← status) == 0 then 1 else 0)
    | .group body => runCmd f tested body
    | .subshell body =>
      setStatus (← subshell f (runCmd f tested body))
      checkErrexit f tested
    | .redirected inner rs line =>
      modifyProc fun p => { p with line := line }
      let saved := (← getProc).fds
      match ← applyRedirs f rs with
      | some msg =>
        shellError msg
        modifyProc fun p => { p with fds := saved }
        setStatus 2
      | none =>
        tryCatch (runCmd f tested inner) fun h => do
          modifyProc fun p => { p with fds := saved }
          throw h
        modifyProc fun p => { p with fds := saved }
    | .ifThen cnd body orElse =>
      runCmd f true cnd
      if (← status) == 0 then runCmd f tested body else runCmd f tested orElse
    | .caseOf subject arms line =>
      modifyProc fun p => { p with line := line }
      let text ← expandText f subject
      runCase f tested text arms
    | .forIn name words body line =>
      modifyProc fun p => { p with line := line }
      let items ← match words with
        | some ws => expandAll f ws
        | none => pure (← getProc).args
      inLoop f (do setStatus 0; forItems f tested name items body)
    | .loop negated cnd body => inLoop f (do setStatus 0; whileLoop f tested negated cnd body 0)
    | .function name _ _ =>
      modifyProc fun p => { p with funcs := (name, c) :: p.funcs.filter (·.1 != name) }
      setStatus 0
    | .background inner =>
      -- the job runs to its end at once, reading nothing; what it writes to the captured
      -- streams and buffers is held back, since the shell goes on before the job is scheduled
      let st ← get
      set { st with pids := st.pids + 1 }
      let saved := (← getProc).fds
      let held := (saved.filter (·.1 != 0)).map (·.2) |>.eraseDups |>.filter fun c =>
        match c with
        | .stdout | .stderr | .buffer _ => true
        | _ => false
      let mut into : List (Chan × Nat) := []
      for c in held do
        into := into ++ [(c, ← newBuffer)]
      modifyProc fun p => { p with fds := (0, .null) :: (p.fds.filter (·.1 != 0)).map fun (fd, c) =>
        (fd, match into.lookup c with
          | some b => .buffer b
          | none => c) }
      -- starting a job does not wait for anything, so what earlier jobs hold stays held
      let earlier := (← get).pending
      let earlierAt := (← get).pendingAt
      modify fun s => { s with pending := [] }
      let code ← subshell f (runCmd f false inner)
      let mut caught : List (Chan × List UInt8) := []
      for (c, b) in into do
        caught := caught ++ [(c, ← takeBuffer b)]
      modify fun s => { s with pending := earlier ++ caught,
                               pendingAt := if earlier.isEmpty then s.budget else earlierAt }
      let job : Job := { number := freeJobNumber (← getProc).jobs, pid := st.pids + 1,
                         status := code, endsAt := (← get).clock }
      modifyProc fun p => { p with fds := saved, lastBackground := some (st.pids + 1),
                                   jobs := p.jobs ++ [job] }
      setStatus 0

def inLoop (fuel : Nat) (body : Sh Unit) : Sh Unit :=
  match fuel with
  | 0 => throw .exhausted
  | _ + 1 => do
    let depth := (← getProc).loops
    modifyProc fun p => { p with loops := depth + 1 }
    tryCatch body fun h => do
      modifyProc fun p => { p with loops := depth }
      throw h
    modifyProc fun p => { p with loops := depth }

def loopPart (fuel : Nat) (tested : Bool) (body : Cmd) : Sh LoopStep :=
  match fuel with
  | 0 => throw .exhausted
  | f + 1 =>
    tryCatch (do runCmd f tested body; pure LoopStep.next) fun h =>
      match h with
      | .brk n => if n ≤ 1 then do setStatus 0; pure .stop else throw (.brk (n - 1))
      | .cont n => if n ≤ 1 then do setStatus 0; pure .next else throw (.cont (n - 1))
      | other => throw other

def forItems (fuel : Nat) (tested : Bool) (name : String) (items : List String) (body : Cmd) :
    Sh Unit :=
  match fuel, items with
  | 0, _ => throw .exhausted
  | _, [] => pure ()
  | f + 1, x :: rest => do
    match ← assignVar name x with
    | .error e => fatal e
    | .ok _ => pure ()
    match ← loopPart f tested body with
    | .next => forItems f tested name rest body
    | .stop => pure ()

def whileLoop (fuel : Nat) (tested negated : Bool) (cnd body : Cmd) (last : Nat) : Sh Unit :=
  match fuel with
  | 0 => throw .exhausted
  | f + 1 => do
    step
    match ← loopPart f true cnd with
    | .stop => setStatus last
    | .next =>
      if ((← status) == 0) == negated then setStatus last
      else
        match ← loopPart f tested body with
        | .stop => pure ()
        | .next => whileLoop f tested negated cnd body (← status)

def runCase (fuel : Nat) (tested : Bool) (text : String) (arms : List (List Word × Cmd)) :
    Sh Unit :=
  match fuel, arms with
  | 0, _ => throw .exhausted
  | _, [] => setStatus 0
  | f + 1, (pats, body) :: rest => do
    if ← anyPattern f text pats then runCmd f tested body else runCase f tested text rest

def anyPattern (fuel : Nat) (text : String) (pats : List Word) : Sh Bool :=
  match fuel, pats with
  | 0, _ => throw .exhausted
  | _, [] => pure false
  | f + 1, w :: rest => do
    let pat := Glob.ofBytes (patternSegs (← expandSegs f w)).patternBytes
    if Glob.matches pat (bytesOf text) then pure true else anyPattern f text rest

/-- Runs the commands of a pipeline, each in a copy of the process, each reading what the one
before wrote. -/
def runPipe (fuel : Nat) (tested : Bool) (parts : List Cmd) (input : Option Nat) : Sh Unit :=
  match fuel, parts with
  | 0, _ => throw .exhausted
  | _, [] => pure ()
  | f + 1, [last] => do
    let code ← subshell f (do
      if let some id := input then setFd 0 (.input id)
      runCmd f tested last)
    setStatus code
  | f + 1, c :: rest => do
    let buf ← newBuffer
    let _ ← subshell f (do
      if let some id := input then setFd 0 (.input id)
      setFd 1 (.buffer buf)
      runCmd f tested c)
    let out ← takeBuffer buf
    let id ← newInput out
    runPipe f tested rest (some id)

/-- Performs redirections. Every target is expanded first, in order, and only then is each
redirection made, in order; the message of the first that fails. -/
def applyRedirs (fuel : Nat) (rs : List Redir) : Sh (Option String) :=
  match fuel with
  | 0 => throw .exhausted
  | f + 1 => do
    let targets ← rs.mapM (redirTarget f)
    makeRedirs f (rs.zip targets)

/-- The expanded target of a redirection; a here-document's body waits until it is made. The
target of `>&` or `<&` must be one digit or `-`: anything else is a syntax error, found only
now. -/
def redirTarget (fuel : Nat) (r : Redir) : Sh String :=
  match fuel with
  | 0 => throw .exhausted
  | f + 1 => do
    match r with
    | .toFile _ target _ _ | .fromFile _ target => expandText f target
    | .dup _ target =>
      let t ← expandText f target
      if t != "-" && (t.length != 1 || !t.all Char.isDigit) then
        let p ← getProc
        reportAt p.readLine p.context "Syntax error: Bad fd number"
        throw .failure
      return t
    | .here .. => return ""

/-- Makes redirections whose targets are expanded, in order; the message of the first that
fails. -/
def makeRedirs (fuel : Nat) (rs : List (Redir × String)) : Sh (Option String) :=
  match fuel, rs with
  | 0, _ => throw .exhausted
  | _, [] => pure none
  | f + 1, (r, target) :: rest => do
    match ← applyRedir f r target with
    | some e => pure (some e)
    | none => makeRedirs f rest

def applyRedir (fuel : Nat) (r : Redir) (target : String) : Sh (Option String) :=
  match fuel with
  | 0 => throw .exhausted
  | f + 1 => do
    match r with
    | .toFile fd _ append force =>
      let path := target
      if path == "/dev/null" then setFd fd .null; return none
      if path.isEmpty then return some "cannot create : Directory nonexistent"
      let p ← getProc
      let st ← get
      -- set -C: an existing file is not overwritten
      if p.opts.noclobber && !append && !force then
        match st.fs.stat p.cwd path with
        | .ok (.dir _) => return some ("cannot open " ++ path ++ ": Is a directory")
        | .ok _ => return some ("cannot create " ++ path ++ ": File exists")
        | .error _ => pure ()
      -- a name ending in `/` is a directory's, and no file is made there
      if path.endsWith "/" then
        let trimmed := String.ofList (path.toList.reverse.dropWhile (· == '/')).reverse
        let parentIsDir := match Path.parent? (Path.join p.cwd trimmed) with
          | some d => (match st.fs.stat "/" d with | .ok (.dir _) => true | _ => false)
          | none => true
        match st.fs.stat p.cwd trimmed with
        | .ok (.file ..) => return some ("cannot create " ++ path ++ ": Not a directory")
        | .ok _ => return some ("cannot create " ++ path ++ ": Is a directory")
        | .error _ =>
          return some ("cannot create " ++ path ++ ": " ++
            (if parentIsDir then "Is a directory" else "Directory nonexistent"))
      let abs := Path.join p.cwd path
      let opened := if append then (st.fs.touch "/" abs).map (·.1) else st.fs.writeFile "/" abs ""
      match opened with
      | .ok fs =>
        set { st with fs := fs }
        setFd fd (.file abs)
        return none
      | .error e => return some ("cannot create " ++ path ++ ": " ++ createReason e)
    | .fromFile fd _ =>
      let path := target
      if path == "/dev/null" then
        let id ← newInput []
        setFd fd (.input id)
        return none
      if path.isEmpty then return some "cannot open : No such file"
      let p ← getProc
      match (← get).fs.stat p.cwd path with
      | .ok (.file c _ _) =>
        let id ← newInput (bytesOf c)
        setFd fd (.input id)
        return none
      | .ok (.dir _) =>
        let id ← newInput []
        setFd fd (.input id)
        return none
      | .error _ => return some ("cannot open " ++ path ++ ": No such file")
    | .dup fd _ =>
      let t := target
      if t == "-" then closeFd fd; return none
      match (← getProc).fds.lookup t.toNat! with
      | some c => setFd fd c; return none
      | none => return some (t ++ ": Bad file descriptor")
    | .here fd body =>
      let text ← expandText f body
      let id ← newInput (bytesOf text)
      setFd fd (.input id)
      return none

def assignAll (fuel : Nat) (assigns : List (String × Word)) (exported : Bool) :
    Sh (List (String × Option Var)) :=
  match fuel, assigns with
  | 0, _ => throw .exhausted
  | _, [] => pure []
  | f + 1, (n, w) :: rest => do
    let v ← expandText f w
    let old := (← getProc).vars.lookup n
    match ← assignVar n v exported with
    | .error e => fatal e
    | .ok _ => pure ()
    let more ← assignAll f rest exported
    return (n, old) :: more

def runSimple (fuel : Nat) (tested : Bool) (assigns : List (String × Word)) (words : List Word)
    (redirs : List Redir) (line : Nat) : Sh Unit :=
  match fuel with
  | 0 => throw .exhausted
  | f + 1 => do
    modifyProc fun p => { p with line := line, substStatus := none }
    let fields ← expandAll f words
    let before ← getProc
    match ← applyRedirs f redirs with
    | some msg =>
      shellError msg
      modifyProc fun p => { p with fds := before.fds }
      setStatus 2
      if fields.head?.any specialBuiltins.contains then throw .failure
    | none =>
      let permanent := match fields.head? with
        | none => true
        | some n => specialBuiltins.contains n
      let restore := fun (saved : List (String × Option Var)) => do
        if !(fields == ["exec"]) then modifyProc fun p => { p with fds := before.fds }
        if !permanent then restoreVars saved
      let saved ← tryCatch (assignAll f assigns !permanent) fun h => do
        modifyProc fun p => { p with fds := before.fds }
        throw h
      let p ← getProc
      if p.opts.xtrace then
        let shown := (assigns.map (·.1)).zip (saved.map (·.1)) |>.map (·.1)
        let texts := shown.map fun n => n ++ "=" ++ (p.lookup n).getD ""
        let err := (before.fds.lookup 2).getD .null
        writeChan err (bytesOf (((p.lookup "PS4").getD "+ ") ++ " ".intercalate (texts ++ fields) ++ "\n"))
      match fields with
      | [] =>
        restore saved
        setStatus ((← getProc).substStatus.getD 0)
      | name :: args =>
        let code ← tryCatch (dispatch f tested name args) fun h => do
          restore saved
          throw h
        restore saved
        setStatus code

def dispatch (fuel : Nat) (tested : Bool) (name : String) (args : List String) : Sh Nat :=
  match fuel with
  | 0 => throw .exhausted
  | f + 1 => do
    let p ← getProc
    if specialBuiltins.contains name then runBuiltin f tested name args
    else match p.funcs.lookup name with
      | some (.function _ body _) => callFunction f tested body args
      | _ =>
        if regularBuiltins.contains name then contained (runBuiltin f tested name args)
        else runExternal f name args

/-- Calls a function with arguments; its status. A call made while `maxCallDepth` calls are
already in progress is an error that ends the shell. -/
def callFunction (fuel : Nat) (tested : Bool) (body : Cmd) (args : List String) :
    Sh Nat :=
  match fuel with
  | 0 => throw .exhausted
  | f + 1 => do
    let saved ← getProc
    if maxCallDepth ≤ saved.calls then
      fatal ("Maximum function recursion depth (" ++ toString maxCallDepth ++ ") reached")
    let back := do
      popLocals
      modifyProc fun p =>
        { p with args := saved.args, loops := saved.loops, optIndex := saved.optIndex,
                 optOffset := saved.optOffset, calls := saved.calls }
    modifyProc fun p =>
      { (p.withArgs args) with loops := 0, locals := [] :: p.locals, calls := p.calls + 1 }
    let code ← tryCatch (do runCmd f tested body; status) fun h =>
      match h with
      | .ret n => pure n
      | other => do back; throw other
    back
    return code

def runExternal (fuel : Nat) (name : String) (args : List String) : Sh Nat :=
  match fuel with
  | 0 => throw .exhausted
  | f + 1 => do
    let p ← getProc
    let fs := (← get).fs
    let path := if name.contains '/' then .ok name else findCommand fs p name
    match path with
    | .error denied =>
      shellError (name ++ (if denied then ": Permission denied" else ": not found"))
      return 127
    | .ok path =>
      flushPending
      let started ← startProgram f path name args true
      flushPending
      match started with
      | .error e =>
        if e.kind == .notFound then shellError (name ++ ": not found"); return 127
        else shellError (name ++ ": " ++ ioReason e); return 126
      | .ok (.status n) => return n
      | .ok (.signal n) => return 128 + n

/-- Starts the program at a path as a new process. A file without `#!` runs as a shell script
when a shell starts it, and is refused otherwise. -/
def startProgram (fuel : Nat) (path argv0 : String) (args : List String) (fromShell : Bool) :
    Sh (Except IoError Ending) :=
  match fuel with
  | 0 => throw .exhausted
  | f + 1 => do
    let st ← get
    let cwd := (← getProc).cwd
    match st.fs.stat cwd path with
    | .error e => return .error e
    | .ok (.dir _) => return .error IoError.permissionDenied
    | .ok (.file content mode _) =>
      if mode &&& 0o111 == 0 then return .error IoError.permissionDenied
      match toolAt (Path.join cwd path) with
      | some t => return .ok (← runProgram f t argv0 args)
      | none =>
        match shebang content with
        | some (interp, arg) =>
          match toolAt interp, st.fs.stat "/" interp with
          | some t, .ok (.file ..) => return .ok (← runProgram f t interp (arg.toList ++ [path] ++ args))
          | _, _ => return .error IoError.notFound
        | none =>
          if fromShell then return .ok (← runProgram f "sh" "/bin/sh" (path :: args))
          else return .error IoError.execFormat

def runProgram (fuel : Nat) (t argv0 : String) (args : List String) : Sh Ending :=
  match fuel with
  | 0 => throw .exhausted
  | f + 1 =>
    if t == "sh" then runShell f argv0 args
    else do
      let caller ← getProc
      let code ← runSystemProgram t argv0 args
      modifyProc fun _ => caller
      return .status code

/-- A new shell process: its options, then a script given with `-c`, a script file, or what it
reads. -/
def runShell (fuel : Nat) (argv0 : String) (args : List String) : Sh Ending :=
  match fuel with
  | 0 => throw .exhausted
  | f + 1 => do
    let caller ← getProc
    match shellOptions (args.length + 1) args {} with
    | .error e =>
      say 2 (argv0 ++ ": 0: " ++ e ++ "\n")
      return .status 2
    | .ok start =>
      -- while the shell starts, every option shows as on
      for on in start.listings do
        say 1 (optionListing on (optionTable.map fun (n, _) => (n, true)))
      let command := start.command
      let rest := start.rest
      -- without -c, the script comes from the input when no file is named or -s says so
      let fromInput := !command && (rest.isEmpty || start.opts.get "stdin")
      let opts := if fromInput then start.opts.setName "stdin" true else start.opts
      let source : Except String (String × String × List String) ←
        if command then
          match rest with
          | script :: more =>
            match more with
            | n :: ps => pure (.ok (script, n, ps))
            | [] => pure (.ok (script, argv0, []))
          | [] => pure (.error (argv0 ++ ": 0: -c requires an argument\n"))
        else if fromInput then pure (.ok (Text.decodeLossy (← readAll 0), argv0, rest))
        else
          match rest with
          | file :: ps =>
            match (← get).fs.readFile caller.cwd file with
            | .ok text => pure (.ok (text, file, ps))
            | .error _ => pure (.error (argv0 ++ ": 0: cannot open " ++ file ++ ": No such file\n"))
          | [] => pure (.ok (Text.decodeLossy (← readAll 0), argv0, []))
      match source with
      | .error msg =>
        say 2 msg
        return .status 2
      | .ok (script, name, params) =>
        if start.monitor then say 2 (name ++ ": 0: " ++ noTerminal ++ "\n")
        let st ← get
        set { st with pids := st.pids + 1 }
        modifyProc fun _ => {
          name := name, args := params, pid := st.pids + 1, opts := opts, cwd := caller.cwd,
          fds := caller.fds, vars := shellVars caller.environment caller.cwd caller.pid,
          umask := caller.umask, limits := caller.limits }
        let ending ← tryCatch (do
            let code ← asProcess f (runScript f script 1)
            pure (Ending.status code)) fun h =>
          match h with
          | .signal n => pure (.signal n)
          | other => do modifyProc fun _ => caller; throw other
        modifyProc fun _ => caller
        return ending

def runBuiltin (fuel : Nat) (tested : Bool) (name : String) (args : List String) : Sh Nat :=
  match fuel with
  | 0 => throw .exhausted
  | f + 1 => do
    let p ← getProc
    match name with
    | ":" | "true" => return 0
    | "false" => return 1
    | "echo" =>
      let bytes := echoBytes args
      if lostOutput p bytes then builtinError "echo" "echo: I/O error"; return 1
      write 1 bytes; return 0
    | "printf" =>
      let r := printf args
      for w in r.warnings do builtinError "printf" w
      match r.error with
      | some e => builtinError "printf" e; write 1 r.out; return 2
      | none =>
        if lostOutput p r.out then builtinError "printf" "printf: I/O error"; return r.status ||| 1
        write 1 r.out; return r.status
    | "exit" =>
      match args with
      | [] => throw (.exit (p.status % 256))
      | a :: _ =>
        match builtinNumber a with
        | some n => throw (.exit (n % 256))
        | none => builtinError "exit" ("Illegal number: " ++ a); throw .failure
    | "return" =>
      match args with
      | [] => throw (.ret p.status)
      | a :: _ =>
        match builtinNumber a with
        | some n => throw (.ret n)
        | none => builtinError "return" ("Illegal number: " ++ a); throw .failure
    | "break" | "continue" =>
      let n ← match args with
        | [] => pure 1
        | a :: _ =>
          match builtinNumber a with
          | some n => if n == 0 then do builtinError name ("Illegal number: " ++ a); throw .failure else pure n
          | none => do builtinError name ("Illegal number: " ++ a); throw .failure
      if p.loops == 0 then return 0
      let n := min n p.loops
      throw (if name == "break" then .brk n else .cont n)
    | "shift" =>
      let n ← match args with
        | [] => pure 1
        | a :: _ =>
          match builtinNumber a with
          | some n => pure n
          | none => do builtinError "shift" ("Illegal number: " ++ a); throw .failure
      if n > p.args.length then
        builtinError "shift" "can't shift that many"
        throw .failure
      modifyProc fun p => p.withArgs (p.args.drop n)
      return 0
    | "set" => setBuiltin args
    | "export" | "readonly" => exportBuiltin (name == "export") args
    | "unset" =>
      -- options come first; of `-f` and `-v` the last one given counts
      let (flags, names) ← match builtinOptions ['f', 'v'] args with
        | .error c => do builtinError "unset" ("Illegal option -" ++ c.toString); throw .failure
        | .ok r => pure r
      let funcs := flags.getLast? == some 'f'
      for n in names do
        if funcs then modifyProc fun p => { p with funcs := p.funcs.filter (·.1 != n) }
        else
          if !isName n then builtinError "unset" (n ++ ": bad variable name"); throw .failure
          match (← getProc).unset n with
          | .ok q => modifyProc fun _ => q
          | .error e => builtinError "unset" e; throw .failure
      return 0
    | "cd" => cdBuiltin args
    | "pwd" =>
      match builtinOptions ['L', 'P'] args with
      | .error c => builtinError "pwd" ("Illegal option -" ++ c.toString); return 2
      | .ok _ => say 1 (p.cwd ++ "\n"); return 0
    | "local" => localBuiltin args
    | "read" => readBuiltin args
    | "test" | "[" =>
      let operands ← if name == "[" then
          -- only the first character of the last argument is looked at
          if (args.getLast?.bind (·.toList.head?)) == some ']' then pure (some args.dropLast)
          else do builtinError "[" "missing ]"; pure none
        else pure (some args)
      match operands with
      | none => return 2
      | some ops =>
        match testArgs (factsOf (← get).fs p.cwd) ops with
        | .ok b => return (if b then 0 else 1)
        | .error e => builtinError name e; return 2
    | "type" =>
      args.foldlM (fun code a => do
        match describe (← get).fs (← getProc) a with
        | some d => say 1 (a ++ " is " ++ d ++ "\n"); pure code
        | none => say 1 (a ++ ": not found\n"); pure 127) 0
    | "command" => commandBuiltin f tested args
    | "eval" =>
      let script := " ".intercalate args
      let line := p.line
      setStatus 0
      withContext "eval" (runScript f script 1)
      modifyProc fun q => { q with line := line }
      status
    | "." =>
      match args with
      | [] => return 0
      | file :: _ =>
        let fs := (← get).fs
        let found := if file.contains '/' then some file else findInPath fs p file
        match found.bind fun path => (fs.readFile p.cwd path).toOption with
        | none =>
          if file.contains '/' then builtinError "." ("cannot open " ++ file ++ ": No such file")
          else builtinError "." (file ++ ": not found")
          throw .failure
        | some text =>
          let line := p.line
          setStatus 0
          let code ← tryCatch (withContext (found.getD file) (do runScript f text 1; status)) fun h =>
            match h with
            | .ret n => pure n
            | other => throw other
          modifyProc fun q => { q with line := line }
          return code
    | "exec" =>
      match args with
      | [] => return 0
      | prog :: rest =>
        let fs := (← get).fs
        let path := if prog.contains '/' then .ok prog else findCommand fs p prog
        match path with
        | .error false => builtinError "exec" (prog ++ ": not found"); throw (.exit 127)
        | .error true => builtinError "exec" (prog ++ ": Permission denied"); throw (.exit 126)
        | .ok path =>
          match ← startProgram f path prog rest true with
          | .error e =>
            if e.kind == .notFound then builtinError "exec" (prog ++ ": not found"); throw (.exit 127)
            else builtinError "exec" (prog ++ ": " ++ ioReason e); throw (.exit 126)
          | .ok (.status n) =>
            -- the program took the place of the shell, whose exit trap is gone
            modifyProc fun q => { q with exitTrap := none }
            throw (.exit n)
          | .ok (.signal n) => throw (.signal n)
    | "trap" => trapBuiltin args
    | "kill" => killBuiltin f args
    | "umask" => umaskBuiltin args
    | "times" =>
      say 1 "0m0.000000s 0m0.000000s\n0m0.000000s 0m0.000000s\n"
      return 0
    | "getopts" => getoptsBuiltin args
    | "ulimit" => ulimitBuiltin args
    | "wait" => waitBuiltin args
    | "jobs" => jobsBuiltin args
    | "fg" | "bg" => jobControlBuiltin name args
    | "alias" => aliasBuiltin args
    | "unalias" => unaliasBuiltin args
    | "hash" =>
      let st ← get
      args.foldlM (fun code a => do
        if a.startsWith "-" || isBuiltin a || p.funcs.any (·.1 == a) || (findCommand st.fs p a).toOption.isSome then
          return code
        else
          builtinError "hash" (a ++ ": not found")
          return 1) 0
    | _ => return 0

/-- `command`: `-v` and `-V` describe the first name; otherwise the command runs, never as a
function. A builtin it runs has a frame of local variables of its own: `local` works there even
outside a function, and what it made local goes back when the builtin ends. -/
def commandBuiltin (fuel : Nat) (tested : Bool) (args : List String) : Sh Nat :=
  match fuel with
  | 0 => throw .exhausted
  | f + 1 => do
    match builtinOptions ['p', 'v', 'V'] args with
    | .error c => builtinError "command" ("Illegal option -" ++ c.toString); return 2
    | .ok (letters, rest) =>
      let st ← get
      let p ← getProc
      if letters.contains 'v' || letters.contains 'V' then
        match rest with
        | [] => return 0
        | n :: _ =>
          match describe st.fs p n with
          | none =>
            if letters.contains 'V' then say 1 (n ++ ": not found\n")
            return 127
          | some d =>
            if letters.contains 'V' then say 1 (n ++ " is " ++ d ++ "\n")
            else
              let shown :=
                if reservedWords.contains n then n
                else if let some v := p.aliases.lookup n then "alias " ++ n ++ "=" ++ shellQuoted v
                else if isBuiltin n || p.funcs.any (·.1 == n) then n
                else ((findCommand st.fs p n).toOption).getD n
              say 1 (shown ++ "\n")
            return 0
      else
        match rest with
        | [] => return 0
        | n :: more =>
          if isBuiltin n then do
            modifyProc fun q => { q with locals := [] :: q.locals }
            let code ← tryCatch (contained (runBuiltin f tested n more)) fun h => do
              popLocals
              throw h
            popLocals
            return code
          else runExternal f n more

/-- `kill`: sends a signal to processes; this process is the only one there is. With `-l` it
names a signal given by number or by the status of a process it ended, or lists them all. -/
def killBuiltin (fuel : Nat) (args : List String) : Sh Nat :=
  match fuel with
  | 0 => throw .exhausted
  | f + 1 => do
    let usage : Sh Nat := do
      builtinError "kill" "Usage: kill [-s sigspec | -signum | -sigspec] [pid | job]... or\nkill -l [exitstatus]"
      return 2
    match args with
    | [] => usage
    | first :: more =>
      let parsed : Except String (Option Nat × Bool × List String) :=
        if first.startsWith "-" then
          match decodeSignal (String.ofList (first.toList.drop 1)) 1 with
          | some n => .ok (some n, false, more)
          | none => killOptions (args.length + 1) none false args
        else .ok (none, false, args)
      match parsed with
      | .error e => builtinError "kill" e; return 2
      | .ok (sig, list, words) =>
        let sig := if !list && sig.isNone then some 15 else sig
        if (sig.isNone || words.isEmpty) != list then usage
        else if list then
          match words with
          | [] =>
            say 1 "0\n"
            for n in signalNames.drop 1 do say 1 (n ++ "\n")
            return 0
          | w :: _ =>
            match builtinNumber w with
            | none => builtinError "kill" ("Illegal number: " ++ w); return 2
            | some n =>
              let n := if n > 128 then n - 128 else n
              if 0 < n && n < signalCount then
                say 1 (signalName n ++ "\n")
                return 0
              else
                builtinError "kill" ("invalid signal number or exit status: " ++ w)
                return 2
        else
          let sig := sig.getD 15
          let mut code := 0
          for w in words do
            let p ← getProc
            let target := if w.startsWith "-" then (builtinNumber (String.ofList (w.toList.drop 1))).map (fun n => -(n : Int))
              else (builtinNumber w).map (fun n => (n : Int))
            match target with
            | none => builtinError "kill" ("Illegal number: " ++ w); return 2
            | some pid =>
              if pid == (p.pid : Int) then
                if sig != 0 then
                  match p.traps.lookup sig with
                  | some "" => pure ()
                  | some action =>
                    let saved ← status
                    runScript f action p.line
                    setStatus saved
                  | none => throw (.signal sig)
              else
                builtinError "kill" "No such process\n"
                code := 1
          return code

end



inductive Exit
  | refused (e : IoError)
  | ended (e : Ending)
  | timedOut
  deriving Repr, Inhabited

/-- Where a program name leads for a caller that searches `PATH` itself: the first candidate
that can be run, or why there is none. -/
def locate (fs : FileSystem) (vars : List (String × String)) (cwd name : String) :
    Except IoError String :=
  if name.contains '/' then .ok (Path.join cwd name)
  else
    let dirs := ((vars.lookup "PATH").getD "").splitOn ":" |>.map fun d => if d.isEmpty then cwd else d
    let found := dirs.foldl (fun (acc : Option String × Bool) d =>
      match acc with
      | (some p, seen) => (some p, seen)
      | (none, seen) =>
        let cand := Path.join d name
        match fs.stat cwd cand with
        | .ok (.file _ m _) => if m &&& 0o111 != 0 then (some cand, seen) else (none, true)
        | .ok (.dir _) => (none, true)
        | .error _ => (none, seen)) (none, false)
    match found with
    | (some p, _) => .ok p
    | (none, true) => .error IoError.permissionDenied
    | (none, false) => .error IoError.notFound

/-- Starts a program by name or path on a file system, with variables, a working directory and
an optional deadline; how it ended and the state after. Its input is empty. -/
def execute (fs : FileSystem) (vars : List (String × String)) (cwd program : String)
    (args : List String) (deadline : Option Nat) : Exit × State :=
  let imported : List (String × Var) := vars.map fun (k, v) => (k, { value := some v, exported := true })
  let proc : Proc := {
    name := program
    args := []
    pid := 4242
    cwd := cwd
    fds := [(0, .null), (1, .stdout), (2, .stderr)]
    vars := imported }
  let s0 : State := { fs := fs, deadline := deadline, proc := proc }
  let body : Sh Exit := do
    match locate fs vars cwd program with
    | .error e => return .refused e
    | .ok path =>
      match ← startProgram 100000 path program args false with
      | .error e => return .refused e
      | .ok ending => return .ended ending
  -- the streams are read to their end, so all that background jobs wrote is there
  match body.run.run s0 with
  | (.ok r, s) => (r, s.flushed)
  | (.error .timedOut, s) => (.timedOut, s.flushed)
  | (.error .exhausted, s) => (if deadline.isSome then .timedOut else .ended (.signal 9), s.flushed)
  | (.error (.signal n), s) => (.ended (.signal n), s.flushed)
  | (.error _, s) => (.ended (.signal 9), s.flushed)

end Updater.Shell
