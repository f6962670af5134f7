import Updater.Shell.Parse
import Updater.Shell.Expand
import Updater.Text.Utf8
/-!
The state of a run of programs: the machine and the shell process running now.

The machine holds the files, the two captured output streams, the buffers that pipes and
command substitutions collect output in, the streams that can be read (pipes, files opened for
reading, here-documents), the clock and the deadline, the next process id, and a budget of
steps. The process holds what a shell process has: its name and arguments, its variables
(each with a value or none, exported or not, read-only or not), its functions, its options, its
working directory, its descriptors, its traps, and where it stands (the line being run, the
function and the loops it is in).

A descriptor leads to one of the captured streams, to nothing, to a file (writes append to it),
to a buffer, or to a stream that can be read.
-/

namespace Updater.Shell

structure Var where
  value : Option String
  exported : Bool := false
  readonly : Bool := false
  deriving Repr, Inhabited

/-- The options `set` switches: those that change what runs, and by name the others that are
on, which only show. -/
structure Options where
  errexit : Bool := false
  nounset : Bool := false
  xtrace : Bool := false
  noglob : Bool := false
  allexport : Bool := false
  noexec : Bool := false
  verbose : Bool := false
  noclobber : Bool := false
  others : List String := []
  deriving Repr, Inhabited

/-- Every option in the order `set -o` lists them, with its letter (a blank for the two that
have none). `$-` shows the letters in the opposite order. -/
def optionTable : List (String × Char) :=
  [("errexit", 'e'), ("noglob", 'f'), ("ignoreeof", 'I'), ("interactive", 'i'),
   ("monitor", 'm'), ("noexec", 'n'), ("stdin", 's'), ("xtrace", 'x'), ("verbose", 'v'),
   ("vi", 'V'), ("emacs", 'E'), ("noclobber", 'C'), ("allexport", 'a'), ("notify", 'b'),
   ("nounset", 'u'), ("privileged", 'p'), ("nolog", ' '), ("debug", ' ')]

inductive Chan
  | stdout
  | stderr
  | null
  | file (path : String)
  | buffer (id : Nat)
  | input (id : Nat)
  deriving DecidableEq, Repr, Inhabited

abbrev Fds := List (Nat × Chan)

/-- A resource limit of a process as `ulimit` shows it: its option letter, its name, and the
soft and hard values in the unit the name gives, `none` being unlimited. -/
structure Limit where
  letter : Char
  name : String
  soft : Option Nat
  hard : Option Nat
  deriving Inhabited

def startLimits : List Limit :=
  [⟨'t', "time(seconds)", none, none⟩, ⟨'f', "file(blocks)", none, none⟩,
   ⟨'d', "data(kbytes)", none, none⟩, ⟨'s', "stack(kbytes)", some 8192, none⟩,
   ⟨'c', "coredump(blocks)", some 0, none⟩, ⟨'m', "memory(kbytes)", none, none⟩,
   ⟨'l', "locked memory(kbytes)", some 8192, some 8192⟩,
   ⟨'p', "process", some 128783, some 128783⟩, ⟨'n', "nofiles", some 20000, some 20000⟩,
   ⟨'v', "vmemory(kbytes)", none, none⟩, ⟨'w', "locks", none, none⟩,
   ⟨'r', "rtprio", some 0, some 0⟩]

/-- A job started in the background: its number, its process id, the status it ended with,
the time it ended, and whether `wait` has seen it end. Until the clock passes its end, or
`wait` sees it, the job shows as running. -/
structure Job where
  number : Nat
  pid : Nat
  status : Nat
  endsAt : Nat
  waited : Bool := false
  deriving Inhabited

structure Proc where
  name : String
  args : List String
  pid : Nat
  status : Nat := 0
  vars : List (String × Var)
  funcs : List (String × Cmd) := []
  opts : Options := {}
  cwd : String
  fds : Fds
  locals : List (List (String × Option Var)) := []
  calls : Nat := 0
  exitTrap : Option String := none
  traps : List (Nat × String) := []
  line : Nat := 0
  /-- The line the last script read has reached: where the reading of the next command starts.
  A mistake that the shell finds in a command's text only when it runs it is named at this
  line. -/
  readLine : Nat := 0
  /-- What the shell's own errors name after the line: `eval` while it runs a string, or the
  file that `.` reads. -/
  context : Option String := none
  loops : Nat := 0
  lastBackground : Option Nat := none
  jobs : List Job := []
  aliases : List (String × String) := []
  /-- Where `getopts` stands: the number of the next argument (counted from `1`), and the
  position inside the argument before it when an option cluster is only partly read. -/
  optIndex : Nat := 1
  optOffset : Option Nat := none
  substStatus : Option Nat := none
  umask : Nat := 0o022
  limits : List Limit := startLimits
  deriving Inhabited

inductive Halt
  | exit (code : Nat)
  /-- An error of the shell. The process ends with status `2`, unless the error happened in a
  builtin that is not special, or in a special one that `command` runs: that command's status is
  then `2`. -/
  | failure
  | signal (n : Nat)
  | timedOut
  | exhausted
  | ret (code : Nat)
  | brk (n : Nat)
  | cont (n : Nat)
  deriving DecidableEq, Repr, Inhabited

inductive Ending
  | status (code : Nat)
  | signal (n : Nat)
  deriving DecidableEq, Repr, Inhabited

structure State where
  fs : FileSystem
  outRev : List UInt8 := []
  errRev : List UInt8 := []
  buffers : List (Nat × List UInt8) := []
  inputs : List (Nat × List UInt8) := []
  nextId : Nat := 1
  clock : Nat := 0
  deadline : Option Nat := none
  pids : Nat := 4242
  budget : Nat := 400000
  /-- What background jobs wrote to the captured streams and buffers, held back until the
  shell that started them gives them time to run: when it starts or waits for another process,
  ends, or has run a while. -/
  pending : List (Chan × List UInt8) := []
  pendingAt : Nat := 0
  proc : Proc
  deriving Inhabited

abbrev Sh := ExceptT Halt (StateM State)

def bytesOf (s : String) : List UInt8 := s.toUTF8.toList

def getProc : Sh Proc := return (← get).proc

def modifyProc (f : Proc → Proc) : Sh Unit := modify fun s => { s with proc := f s.proc }

def setStatus (n : Nat) : Sh Unit := modifyProc fun p => { p with status := n }

def status : Sh Nat := return (← getProc).status


def tick (ms : Nat) : Sh Unit := do
  modify fun s => { s with clock := s.clock + ms }
  let s ← get
  if let some d := s.deadline then
    if s.clock > d then throw .timedOut

def freshId : Sh Nat := do
  let s ← get
  set { s with nextId := s.nextId + 1 }
  return s.nextId

def newInput (bytes : List UInt8) : Sh Nat := do
  let id ← freshId
  modify fun s => { s with inputs := (id, bytes) :: s.inputs }
  return id

def newBuffer : Sh Nat := do
  let id ← freshId
  modify fun s => { s with buffers := (id, []) :: s.buffers }
  return id

def takeBuffer (id : Nat) : Sh (List UInt8) := do
  let s ← get
  set { s with buffers := s.buffers.filter (·.1 != id) }
  return ((s.buffers.lookup id).getD []).reverse

def appendTo (fs : FileSystem) (path text : String) : FileSystem :=
  let old := match fs.readFile "/" path with
    | .ok c => c
    | .error _ => ""
  match fs.writeFile "/" path (old ++ text) with
  | .ok fs' => fs'
  | .error _ => fs

def State.emit (s : State) (c : Chan) (bytes : List UInt8) : State :=
  if bytes.isEmpty then s
  else match c with
    | .stdout => { s with outRev := bytes.reverse ++ s.outRev }
    | .stderr => { s with errRev := bytes.reverse ++ s.errRev }
    | .file p => { s with fs := appendTo s.fs p (Text.decodeLossy bytes) }
    | .buffer id => { s with
        buffers := s.buffers.map fun (k, b) => if k == id then (k, bytes.reverse ++ b) else (k, b) }
    | .null | .input _ => s

def State.out (s : State) : List UInt8 := s.outRev.reverse

def State.err (s : State) : List UInt8 := s.errRev.reverse

def State.flushed (s : State) : State :=
  s.pending.foldl (fun st (c, b) => st.emit c b) { s with pending := [] }

def writeChan (c : Chan) (bytes : List UInt8) : Sh Unit := modify fun s => s.emit c bytes

def flushPending : Sh Unit := modify State.flushed

def pendingSteps : Nat := 200

def step : Sh Unit := do
  let s ← get
  if s.budget == 0 then throw .exhausted
  set { s with budget := s.budget - 1 }
  if !s.pending.isEmpty && s.pendingAt ≥ s.budget + pendingSteps then flushPending

def write (fd : Nat) (bytes : List UInt8) : Sh Unit := do
  match (← getProc).fds.lookup fd with
  | some c => writeChan c bytes
  | none => pure ()

def say (fd : Nat) (text : String) : Sh Unit := write fd (bytesOf text)

def readAll (fd : Nat) : Sh (List UInt8) := do
  match (← getProc).fds.lookup fd with
  | some (.input id) =>
    let s ← get
    set { s with inputs := s.inputs.map fun (k, b) => if k == id then (k, []) else (k, b) }
    return (s.inputs.lookup id).getD []
  | some (.file p) =>
    return match (← get).fs.readFile "/" p with
      | .ok c => bytesOf c
      | .error _ => []
  | _ => return []

/-- Reads one line from a descriptor, up to and without its line break: the bytes, and
whether the line break was there. -/
def readLine (fd : Nat) : Sh (List UInt8 × Bool) := do
  match (← getProc).fds.lookup fd with
  | some (.input id) =>
    let s ← get
    let bytes := (s.inputs.lookup id).getD []
    let line := bytes.takeWhile (· != 10)
    let rest := bytes.drop (line.length + 1)
    set { s with inputs := s.inputs.map fun (k, b) => if k == id then (k, rest) else (k, b) }
    return (line, line.length < bytes.length)
  | _ => return ([], false)

def reportAt (line : Nat) (under : Option String) (msg : String) : Sh Unit := do
  let p ← getProc
  let lead := (under.map (· ++ ": ")).getD ""
  say 2 (p.name ++ ": " ++ toString line ++ ": " ++ lead ++ msg ++ "\n")

def shellError (msg : String) : Sh Unit := do
  let p ← getProc
  reportAt p.line p.context msg

def builtinError (builtin msg : String) : Sh Unit := do
  reportAt (← getProc).line (some builtin) msg

def withContext {α : Type} (ctx : String) (body : Sh α) : Sh α := do
  let old := (← getProc).context
  modifyProc fun p => { p with context := some ctx }
  let r ← tryCatch body fun h => do
    modifyProc fun p => { p with context := old }
    throw h
  modifyProc fun p => { p with context := old }
  return r

/-! ## Variables -/

def Proc.lookup (p : Proc) (name : String) : Option String :=
  (p.vars.lookup name).bind (·.value)

def Proc.ifs (p : Proc) : String := (p.lookup "IFS").getD " \t\n"

def Proc.environment (p : Proc) : List (String × String) :=
  p.vars.filterMap fun (k, v) => if v.exported then v.value.map (k, ·) else none

def Proc.withArgs (p : Proc) (args : List String) : Proc :=
  { p with args := args, optIndex := 1, optOffset := none }

def Proc.assign (p : Proc) (name value : String) (exported : Bool := false) :
    Except String Proc :=
  let p := if name == "OPTIND" then { p with optIndex := value.toNat?.getD 1, optOffset := none } else p
  if !isName name then .error (name ++ ": bad variable name") else
  match p.vars.lookup name with
  | some v =>
    if v.readonly then .error (name ++ ": is read only")
    else .ok { p with vars := p.vars.map fun (k, w) =>
      if k == name then (k, { w with value := some value, exported := w.exported || exported || p.opts.allexport })
      else (k, w) }
  | none => .ok { p with vars := p.vars ++ [(name, { value := some value, exported := exported || p.opts.allexport })] }

def Proc.update (p : Proc) (name : String) (f : Var → Var) : Proc :=
  match p.vars.lookup name with
  | some _ => { p with vars := p.vars.map fun (k, w) => if k == name then (k, f w) else (k, w) }
  | none => { p with vars := p.vars ++ [(name, f { value := none })] }

def Proc.unset (p : Proc) (name : String) : Except String Proc :=
  match p.vars.lookup name with
  | some v => if v.readonly then .error (name ++ ": is read only")
    else .ok { p with vars := p.vars.filter (·.1 != name) }
  | none => .ok p

def assignVar (name value : String) (exported : Bool := false) : Sh (Except String Unit) := do
  match (← getProc).assign name value exported with
  | .ok p => modifyProc fun _ => p; return .ok ()
  | .error e => return .error e

def Options.get (o : Options) (name : String) : Bool :=
  match name with
  | "errexit" => o.errexit
  | "nounset" => o.nounset
  | "xtrace" => o.xtrace
  | "noglob" => o.noglob
  | "allexport" => o.allexport
  | "noexec" => o.noexec
  | "verbose" => o.verbose
  | "noclobber" => o.noclobber
  | "monitor" => false
  | _ => o.others.contains name

def Options.setName (o : Options) (name : String) (on : Bool) : Options :=
  match name with
  | "errexit" => { o with errexit := on }
  | "nounset" => { o with nounset := on }
  | "xtrace" => { o with xtrace := on }
  | "noglob" => { o with noglob := on }
  | "allexport" => { o with allexport := on }
  | "noexec" => { o with noexec := on }
  | "verbose" => { o with verbose := on }
  | "noclobber" => { o with noclobber := on }
  | "monitor" => o
  | _ => { o with others := o.others.filter (· != name) ++ (if on then [name] else []) }

def Options.letters (o : Options) : String :=
  String.ofList ((optionTable.reverse.filter fun (n, l) => l != ' ' && o.get n).map (·.2))

def Options.ofLetter (c : Char) : Option String :=
  if c == ' ' then none else (optionTable.find? (·.2 == c)).map (·.1)

def Options.isName (name : String) : Bool := optionTable.any (·.1 == name)

def Options.listing (o : Options) : List (String × Bool) :=
  optionTable.map fun (n, _) => (n, o.get n)

def singleQuoted (s : String) : String :=
  "'" ++ String.join (s.toList.map fun c => if c == '\'' then "'\"'\"'" else c.toString) ++ "'"

end Updater.Shell
