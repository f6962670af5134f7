import Updater.Cli.Problem
import Updater.Cli.Similar
/-!
Reading the command line.

Words are read left to right, for the top level until a command name, then for that command.
`--name` and `--name=value` are long options; `-abc` is a cluster of short options, where an
option taking a value takes the rest of the cluster (after an optional `=`) or else the next
word. A word waiting to be an option's value is taken as one unless it starts with `-`, and a
command name is only a command name when no option waits for its value. After `--` every word
is an operand, and no command accepts operands.

An option's value is checked when the next option is met, or at the end: it must be there, a
path must not be empty and a count must be a decimal below 2^64. An option may be given once.
At the end of a level nothing may wait for a value; the top level needs a command (with no
words at all, the summary help is printed instead); and options that exclude each other may
not both be there. Help and version requests stop reading where they stand.

Global options may be given on either level; the command's own level wins.
-/

namespace Updater.Cli

structure Global where
  verbose : Bool := false
  quiet : Bool := false
  config : Option String := none
  noProgress : Bool := false
  deriving DecidableEq, Repr, Inhabited

structure UpdateArgs where
  json : Bool := false
  noRestart : Bool := false
  channel : Option String := none
  tag : Option String := none
  timeout : Option String := none
  yes : Bool := false
  root : Option String := none
  deriving DecidableEq, Repr, Inhabited

structure StatusArgs where
  json : Bool := false
  timeoutMs : Option Nat := none
  root : Option String := none
  deriving DecidableEq, Repr, Inhabited

inductive Job
  | update (a : UpdateArgs)
  | status (a : StatusArgs)
  deriving DecidableEq, Repr, Inhabited

structure Invocation where
  global : Global
  job : Job
  deriving DecidableEq, Repr, Inhabited

def Global.logLevel (g : Global) : String :=
  if g.verbose then "debug" else if g.quiet then "error" else "warn"

def parseCount (s : String) : Except String Nat :=
  let digits := match s.toList with
    | ['+'] | ['-'] => none
    | '+' :: rest => some rest
    | cs => some cs
  match digits with
  | none => .error "invalid digit found in string"
  | some ds =>
    if s.isEmpty then .error "cannot parse integer from empty string"
    else
      ds.foldlM (fun (v : Nat) d =>
        if !d.isDigit then .error "invalid digit found in string"
        else if 10 * v + (d.toNat - 48) ≥ Nat.pow 2 64 then .error "number too large to fit in target type"
        else .ok (10 * v + (d.toNat - 48))) 0

structure Level where
  given : List (String × List String) := []
  /-- The last option taking a value, with the value once read; checked when the next option
  comes or at the end. -/
  pending : Option (Arg × List String) := none
  awaiting : Bool := false
  escaped : Bool := false
  deriving Inhabited

namespace Level

def has (l : Level) (id : String) : Bool := l.given.any (·.1 == id)

def ids (l : Level) : List String := l.given.map (·.1)

def values (l : Level) (id : String) : List String := ((l.given.find? (·.1 == id)).map (·.2)).getD []

def value? (l : Level) (id : String) : Option String := (l.values id).head?

def add (c : Command) (l : Level) (a : Arg) (vs : List String) : Level :=
  let l := { l with given := l.given ++ [(a.id, vs)] }
  match c.groupOf? a.id with
  | some g => if l.has g then l else { l with given := l.given ++ [(g, [])] }
  | none => l

end Level

def checkValue (a : Arg) (v : String) : Except Problem Unit :=
  match a.action with
  | .value _ .path => if v.isEmpty then .error (.emptyValue a.display) else .ok ()
  | .value _ .count =>
    match parseCount v with
    | .ok _ => .ok ()
    | .error why => .error (.invalidValue v a.display why)
  | _ => .ok ()

def react (c : Command) (l : Level) (a : Arg) (vs : List String) (viaLong : Bool) : Except Problem Level :=
  match a.action with
  | .help => .error (.help (c.helpText viaLong))
  | .version => .error (.version c.versionText)
  | .switch =>
    if l.has a.id then .error (.conflict a.display a.display c.plainUsage) else .ok (l.add c a [])
  | .value .. =>
    if vs.isEmpty then .error (.emptyValue a.display)
    else if l.has a.id then .error (.conflict a.display a.display c.plainUsage)
    else do
      vs.forM (checkValue a)
      return l.add c a vs

def settle (c : Command) (l : Level) : Except Problem Level :=
  match l.pending with
  | none => .ok l
  | some (a, vs) => react c { l with pending := none, awaiting := false } a vs true

def settleQuietly (c : Command) (l : Level) : Level :=
  match settle c l with
  | .ok l' => l'
  | .error _ => { l with pending := none, awaiting := false }

def stray (c : Command) (l : Level) (w : String) : Problem :=
  let names := c.subcommands.map (·.1)
  if l.escaped && names.contains w then .escapedCommand w c.plainUsage
  else if names.isEmpty then .unknownArgument w none c.plainUsage
  else .unknownCommand w (similar w names) c.plainUsage

def Level.argIds (c : Command) (l : Level) : List String := l.ids.filter fun id => (c.find? id).isSome

/-- An unknown long option, with the tip of a similar one: of this command, or else of a
command named later on the line (the one named first). The usage shows the options given, the
suggested one last. -/
def unknownLong (c : Command) (l : Level) (name : String) (rest : List String) : Problem :=
  match closest? name (c.args.map (·.long)) with
  | some cand =>
    let l := match c.findLong? cand with
      | some a => if l.has a.id then l else l.add c a []
      | none => l
    .unknownArgument ("--" ++ name) (some ("--" ++ cand, none)) (c.usageWith (l.argIds c))
  | none =>
    let later := (c.subcommands.filterMap fun (n, _) => (subcommand? n).bind fun sc =>
      (closest? name (sc.args.map (·.long))).bind fun cand =>
        (rest.idxOf? n).map fun i => (i, cand, n))
    let best := later.foldl (fun (acc : Option (Nat × String × String)) e =>
      match acc with
      | some b => if e.1 < b.1 then some e else some b
      | none => some e) none
    .unknownArgument ("--" ++ name) (best.map fun (_, cand, n) => ("--" ++ cand, some n))
      (c.usageWith (l.argIds c))

def shorts (c : Command) (l : Level) : List Char → Except Problem Level
  | [] => .ok l
  | ch :: more =>
    match c.findShort? ch with
    | none => .error (.unknownArgument ("-" ++ ch.toString) none c.plainUsage)
    | some a =>
      if a.takesValue then
        if more.isEmpty then do
          let l ← settle c l
          return { l with pending := some (a, []), awaiting := true }
        else do
          let v := match more with
            | '=' :: r => r
            | r => r
          let l ← settle c l
          react c l a [String.ofList v] false
      else do
        let l ← settle c l
        let l ← react c l a [] false
        shorts c l more

def helpFor (c : Command) : List String → Problem
  | [] => .help (c.helpText true)
  | n :: rest =>
    if c.subcommands.any (·.1 == n) then
      match subcommand? n with
      | some sc => helpFor sc rest
      | none => .unknownCommand n [] c.plainUsage
    else .unknownCommand n [] c.plainUsage

inductive Stop
  | finished (l : Level)
  | entered (l : Level) (name : String) (rest : List String)

def scan (c : Command) : Nat → Level → List String → Except Problem Stop
  | 0, l, _ => .ok (.finished l)
  | _, l, [] => .ok (.finished l)
  | f + 1, l, w :: rest =>
    if l.escaped then .error (stray c (settleQuietly c l) w)
    else if c.subcommands.any (·.1 == w) then
      if w == "help" then .error (helpFor topCommand rest)
      else .ok (.entered l w rest)
    else if w == "--" then scan c f { l with escaped := true } rest
    else if w.startsWith "--" then
      let body := (w.drop 2).toString
      let name := (body.splitOn "=").headD ""
      let attached := if body.contains '=' then some ((body.drop (name.length + 1)).toString) else none
      match c.findLong? name with
      | none => .error (unknownLong c (settleQuietly c l) name rest)
      | some a =>
        if a.takesValue then
          match attached with
          | some v => do
            let l ← settle c l
            let l ← react c l a [v] true
            scan c f l rest
          | none => do
            let l ← settle c l
            scan c f { l with pending := some (a, []), awaiting := true } rest
        else
          match attached with
          | some v => .error (.unexpectedValue v a.display (c.usageWith (l.ids ++ [a.id])))
          | none => do
            let l ← settle c l
            let l ← react c l a [] true
            scan c f l rest
    else if w.startsWith "-" && w.length > 1 then do
      let l ← shorts c l (w.drop 1).toString.toList
      scan c f l rest
    else if l.awaiting then
      scan c f { l with pending := l.pending.map (fun (a, vs) => (a, vs ++ [w])), awaiting := false } rest
    else .error (stray c (settleQuietly c l) w)

def finish (c : Command) (l : Level) (entered : Bool) : Except Problem Level := do
  let l ← settle c l
  if !entered && !c.subcommands.isEmpty then
    if l.given.isEmpty then throw (.helpOnMissing (c.helpText false))
    else throw (.missingCommand c.name (c.subcommands.map (·.1)) c.plainUsage)
  let present := l.ids.filterMap c.find?
  for a in present do
    let others := present.filter fun b => b.id != a.id && (a.conflicts.contains b.id || b.conflicts.contains a.id)
    if let some b := others.head? then
      let used := (present.filter fun x => !others.any (·.id == x.id)).map (·.id)
      throw (.conflict a.display b.display (c.usageWith used))
  return l

def globalValues (top sub : Level) (id : String) : Option (List String) :=
  if sub.has id then some (sub.values id) else if top.has id then some (top.values id) else none

def decode (top sub : Level) (name : String) : Invocation :=
  let given := fun id => (globalValues top sub id).isSome
  let g : Global :=
    { verbose := given "verbose", quiet := given "quiet",
      config := (globalValues top sub "config").bind List.head?, noProgress := given "no_progress" }
  let u : UpdateArgs :=
    { json := sub.has "json", noRestart := sub.has "no_restart", channel := sub.value? "channel",
      tag := sub.value? "tag", timeout := sub.value? "timeout", yes := sub.has "yes",
      root := sub.value? "root" }
  let s : StatusArgs :=
    { json := sub.has "json", timeoutMs := (sub.value? "timeout").bind fun v => (parseCount v).toOption,
      root := sub.value? "root" }
  { global := g, job := if name == "update" then .update u else .status s }

def parseLine (args : List String) : Except Problem Invocation := do
  match ← scan topCommand (args.length + 1) {} args with
  | .finished l =>
    let _ ← finish topCommand l false
    throw (.missingCommand topCommand.name (topCommand.subcommands.map (·.1)) topCommand.plainUsage)
  | .entered l name rest =>
    let sc := (subcommand? name).getD updateCommand
    let sl ← match ← scan sc (rest.length + 1) {} rest with
      | .finished sl => finish sc sl true
      | .entered sl _ _ => finish sc sl true
    let l ← finish topCommand l true
    return decode l sl name

end Updater.Cli
