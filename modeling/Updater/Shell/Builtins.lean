import Updater.Shell.State
import Updater.Shell.Tools
/-!
The builtins that only look at and change the running process: `set`, `export`, `readonly`,
`cd`, `local`, `read` and `trap`, and what `type` says about a name.

`set` with options switches them (`-e`, `+x`, `-o errexit`, ...), and its other words replace
the arguments (all of them after `--`); alone it lists the variables. `export` and `readonly`
give variables their attribute, with a value after `=`, and alone list those that have it. `cd`
follows `..` by the text of the path, sets `PWD` and `OLDPWD`, and goes home without a
directory. `local` saves a variable for the function being run, which gets it back when it
returns. `read` reads a line (joining lines that end in a backslash, unless `-r`) and splits
it at `IFS` into its variables, the last taking the rest; it fails at the end of input. `trap`
sets what a signal runs, `-` resets it, and alone lists what is set.
-/

namespace Updater.Shell

def shellQuoted (s : String) : String :=
  let rec go : Nat → List Char → String
    | 0, _ => ""
    | _, [] => ""
    | f + 1, cs =>
      let plain := cs.takeWhile (· != '\'')
      let rest := cs.drop plain.length
      let quotes := rest.takeWhile (· == '\'')
      let after := rest.drop quotes.length
      let head := "'" ++ String.ofList plain ++ "'"
      if quotes.isEmpty then head
      else head ++ "\"" ++ String.ofList quotes ++ "\"" ++ (if after.isEmpty then "" else go f after)
  if s.isEmpty then "''" else go (s.length + 1) s.toList

def sortedVars (vars : List (String × Var)) : List (String × Var) :=
  vars.mergeSort fun a b => decide (a.1.toUTF8.toList ≤ b.1.toUTF8.toList)

def splitAssignment (a : String) : String × Option String :=
  match a.splitOn "=" with
  | [n] => (n, none)
  | n :: rest => (n, some ("=".intercalate rest))
  | [] => (a, none)

def optionListing (on : Bool) (states : List (String × Bool)) : String :=
  (if on then "Current option settings\n" else "") ++ String.join (states.map fun (name, state) =>
    if on then
      name ++ String.ofList (List.replicate (16 - name.length) ' ') ++
        (if state then "on" else "off") ++ "\n"
    else "set " ++ (if state then "-o " else "+o ") ++ name ++ "\n")

def noTerminal : String := "can't access tty; job control turned off"

/-- Applies one word of `set` options, `sign` being `-` or `+`: each letter switches its
option, and `o` takes the next word as an option's long name, or lists the options when no
word is left. Whether job control was asked for, and the words left. -/
def setCluster (sign : Char) : List Char → Bool → List String → Sh (Bool × List String)
  | [], monitor, rest => return (monitor, rest)
  | 'o' :: more, monitor, rest =>
    match rest with
    | name :: after =>
      if Options.isName name then do
        modifyProc fun p => { p with opts := p.opts.setName name (sign == '-') }
        setCluster sign more (monitor || (sign == '-' && name == "monitor")) after
      else do
        -- the message names the option with `-`, whichever sign it was given with
        builtinError "set" ("Illegal option -o " ++ name)
        throw Halt.failure
    | [] => do
      say 1 (optionListing (sign == '-') (← getProc).opts.listing)
      setCluster sign more monitor []
  | l :: more, monitor, rest =>
    match Options.ofLetter l with
    | some name => do
      modifyProc fun p => { p with opts := p.opts.setName name (sign == '-') }
      setCluster sign more (monitor || (sign == '-' && name == "monitor")) rest
    | none => do
      builtinError "set" ("Illegal option -" ++ l.toString)
      throw Halt.failure

def setBuiltin (args : List String) : Sh Nat := do
  if args.isEmpty then
    for (k, v) in sortedVars (← getProc).vars do
      if let some val := v.value then say 1 (k ++ "=" ++ shellQuoted val ++ "\n")
    return 0
  -- job control is tried, and refused, once the options are read
  let refuse := fun (monitor : Bool) => do
    if monitor then builtinError "set" noTerminal
  let rec go : Nat → Bool → List String → Sh Nat
    | 0, _, _ => return 0
    | _, monitor, [] => do refuse monitor; return 0
    | _ + 1, monitor, "--" :: rest => do
      refuse monitor
      modifyProc fun p => p.withArgs rest
      return 0
    | _ + 1, monitor, "-" :: rest => do
      -- ends the options, and turns tracing and echoing off
      refuse monitor
      modifyProc fun p =>
        let q := if rest.isEmpty then p else p.withArgs rest
        { q with opts := { p.opts with xtrace := false, verbose := false } }
      return 0
    | f + 1, monitor, w :: rest => do
      match w.toList with
      | sign :: letters =>
        if (sign == '-' || sign == '+') && !letters.isEmpty then
          let (monitor, rest) ← setCluster sign letters monitor rest
          go f monitor rest
        else
          refuse monitor
          modifyProc fun p => p.withArgs (w :: rest)
          return 0
      | [] => do
        refuse monitor
        modifyProc fun p => p.withArgs (w :: rest)
        return 0
  go (args.length + 1) false args

def exportBuiltin (exported : Bool) (args : List String) : Sh Nat := do
  let name := if exported then "export" else "readonly"
  let args := args.filter (· != "-p")
  if args.isEmpty then
    for (k, v) in sortedVars (← getProc).vars do
      if (if exported then v.exported else v.readonly) then
        say 1 (name ++ " " ++ k ++ ((v.value.map fun val => "=" ++ shellQuoted val).getD "") ++ "\n")
    return 0
  for a in args do
    let (n, value) := splitAssignment a
    if !isName n then
      builtinError name (n ++ ": bad variable name")
      throw .failure
    if let some v := value then
      match ← assignVar n v exported with
      | .error e => builtinError name e; throw .failure
      | .ok _ => pure ()
    modifyProc fun p => p.update n fun w =>
      if exported then { w with exported := true } else { w with readonly := true }
  return 0

def logicalPath (path : String) : String :=
  let parts := (path.splitOn "/").filter (!·.isEmpty)
  let kept := parts.foldl (fun (acc : List String) part =>
    if part == "." then acc else if part == ".." then acc.dropLast else acc ++ [part]) []
  "/" ++ "/".intercalate kept

def cdBuiltin (args : List String) : Sh Nat := do
  let args := args.filter fun a => a != "-L" && a != "-P"
  let p ← getProc
  let (dest, shown) : Option String × Bool := match args with
    | [] => (p.lookup "HOME", false)
    | "-" :: _ => (p.lookup "OLDPWD", true)
    | d :: _ => (some d, false)
  let dest := dest.getD ""
  let dest := if dest.isEmpty then "." else dest
  let target := logicalPath (if dest.startsWith "/" then dest else p.cwd ++ "/" ++ dest)
  if (← get).fs.isDir "/" target then
    modifyProc fun q => { q with cwd := target }
    let _ ← assignVar "OLDPWD" p.cwd
    let _ ← assignVar "PWD" target true
    if shown then say 1 (target ++ "\n")
    return 0
  else
    builtinError "cd" ("can't cd to " ++ dest)
    return 2

def localBuiltin (args : List String) : Sh Nat := do
  match (← getProc).locals with
  | [] =>
    builtinError "local" "not in a function"
    throw Halt.failure
  | _ :: _ =>
    for a in args do
      if a == "-" then continue
      let (n, value) := splitAssignment a
      if !isName n then
        builtinError "local" (n ++ ": bad variable name")
        throw .failure
      let p ← getProc
      match p.locals with
      | frame :: rest =>
        if !frame.any (·.1 == n) then
          modifyProc fun q => { q with locals := (frame ++ [(n, p.vars.lookup n)]) :: rest }
      | [] => pure ()
      if let some v := value then
        match ← assignVar n v with
        | .error e => builtinError "local" e; throw .failure
        | .ok _ => pure ()
    return 0

def readChars (raw : Bool) : List Char → List (Char × Bool)
  | '\\' :: c :: rest => if raw then ('\\', false) :: readChars raw (c :: rest) else (c, true) :: readChars raw rest
  | c :: rest => (c, false) :: readChars raw rest
  | [] => []

/-- Splits what `read` read into `n` values at the characters of `IFS`: the last takes the
rest of the line. -/
def readSplit (ifs : List Char) : Nat → List (Char × Bool) → List String
  | 0, _ => []
  | n + 1, cs =>
    let isSep := fun (x : Char × Bool) => !x.2 && ifs.contains x.1
    let isBlank := fun (x : Char × Bool) => isSep x && isIfsBlank x.1
    let cs := cs.dropWhile isBlank
    if n == 0 then
      let kept := (cs.reverse.dropWhile isBlank).reverse
      [String.ofList (kept.map Prod.fst)]
    else
      let field := cs.takeWhile (!isSep ·)
      let rest := cs.drop field.length
      let rest := rest.dropWhile isBlank
      let rest := match rest with
        | x :: more => if isSep x then more else rest
        | [] => []
      String.ofList (field.map Prod.fst) :: readSplit ifs n rest

def readBuiltin (args : List String) : Sh Nat := do
  let rec options : List String → Bool → Except String (Bool × List String)
    | "-r" :: rest, _ => options rest true
    | "-p" :: _ :: rest, raw => options rest raw
    | "--" :: rest, raw => .ok (raw, rest)
    | a :: rest, raw =>
      if a.startsWith "-" && a.length > 1 then .error ("Illegal option " ++ String.ofList (a.toList.take 2))
      else .ok (raw, a :: rest)
    | [], raw => .ok (raw, [])
  match options args false with
  | .error e => builtinError "read" e; return 2
  | .ok (raw, names) =>
    if names.isEmpty then
      builtinError "read" "arg count"
      return 2
    -- lines ending in a backslash go on, unless raw
    let rec readLines : Nat → List UInt8 → Sh (List UInt8 × Bool)
      | 0, acc => return (acc, false)
      | f + 1, acc => do
        let (line, nl) ← readLine 0
        let joined := acc ++ line
        let trailing := (line.reverse.takeWhile (· == 92)).length
        if !raw && nl && trailing % 2 == 1 then readLines f joined.dropLast
        else return (joined, nl)
    let (bytes, nl) ← readLines 1000 []
    let chars := readChars raw (Text.decodeLossy bytes).toList
    let values := readSplit (← getProc).ifs.toList names.length chars
    for (n, v) in names.zip (values ++ List.replicate names.length "") do
      match ← assignVar n v with
      | .error e => builtinError "read" e; return 2
      | .ok _ => pure ()
    return (if nl then 0 else 1)

def setEntry (entries : List (String × String)) (key value : String) : List (String × String) :=
  if entries.any (·.1 == key) then entries.map (fun (k, w) => if k == key then (k, value) else (k, w))
  else entries ++ [(key, value)]

def aliasBuiltin (args : List String) : Sh Nat := do
  let p ← getProc
  let display := fun (n v : String) => say 1 (n ++ "=" ++ shellQuoted v ++ "\n")
  if args.isEmpty then
    for (n, v) in p.aliases do display n v
    return 0
  args.foldlM (fun code a => do
    -- a definition has its `=` after the first character
    match (if a.startsWith "=" then (a, none) else splitAssignment a) with
    | (n, some v) =>
      modifyProc fun q => { q with aliases := setEntry q.aliases n v }
      return code
    | (n, none) =>
      match (← getProc).aliases.lookup n with
      | some v => display n v; return code
      | none => say 2 ("alias: " ++ n ++ " not found\n"); return 1) 0

def unaliasBuiltin (args : List String) : Sh Nat := do
  if args == ["-a"] then
    modifyProc fun q => { q with aliases := [] }
    return 0
  args.foldlM (fun code n => do
    if (← getProc).aliases.any (·.1 == n) then
      modifyProc fun q => { q with aliases := q.aliases.filter (·.1 != n) }
      return code
    else
      say 2 ("unalias: " ++ n ++ " not found\n")
      return 1) 0

def optionSpec : List Char → Char → Option Bool
  | [], _ => none
  | d :: ':' :: rest, c => if d == c then some true else optionSpec rest c
  | d :: rest, c => if d == c then some false else optionSpec rest c

/-- `getopts optstring var [arg...]`: the next option of the arguments (of the process when
none are given) in `var`, its value in `OPTARG`, and the number of the next argument in
`OPTIND`; fails at the first word that is not an option, or after `--`. A letter not in
`optstring`, or one missing its value, is reported unless `optstring` starts with `:`, which
puts the letter in `OPTARG` instead. -/
def getoptsBuiltin (args : List String) : Sh Nat := do
  match args with
  | optstr :: var :: rest =>
    let p ← getProc
    let base := if rest.isEmpty then p.args else rest
    let (ind, off) := if p.optIndex > base.length + 1 then (1, none) else (p.optIndex, p.optOffset)
    if ind < 1 then return 1
    let silent := optstr.startsWith ":"
    let resume : Option (List Char) := if ind ≤ 1 then none else
      match off, base[ind - 2]? with
      | some o, some w => if w.length < o then none else some (w.toList.drop o)
      | _, _ => none
    -- the characters from the option letter on, the index of the next word, and whether the
    -- options are over
    let (cur, next, done) : List Char × Nat × Bool :=
      match resume with
      | some (c :: cs) => (c :: cs, ind - 1, false)
      | _ =>
        match base[ind - 1]? with
        | some w =>
          match w.toList with
          | '-' :: c :: cs => if c == '-' && cs.isEmpty then ([], ind, true) else (c :: cs, ind, false)
          | _ => ([], ind - 1, true)
        | none => ([], ind - 1, true)
    let finish := fun (after : Nat) (remaining : Option (List Char)) (c : Char) => do
      let word := (base[after - 1]?).getD ""
      let offset := remaining.map (fun r => word.length - r.length)
      modifyProc fun q => { q with optIndex := after + 1, optOffset := offset }
      modifyProc fun q => q.update "OPTIND" fun v => { v with value := some (toString (after + 1)) }
      if !isName var then
        modifyProc fun q => { q with optIndex := 1, optOffset := none }
        builtinError "getopts" (var ++ ": bad variable name")
        return some 2
      match ← assignVar var c.toString with
      | .error e => builtinError "getopts" e; return some 2
      | .ok _ => return none
    let setArg := fun (v : Option String) => do
      match v with
      | some a => let _ ← assignVar "OPTARG" a
      | none => modifyProc fun q => (q.unset "OPTARG").toOption.getD q
    if done then
      return (← finish next none '?').getD 1
    match cur with
    | [] => return (← finish next none '?').getD 1
    | c :: after =>
      match optionSpec optstr.toList c with
      | none =>
        if silent then setArg (some c.toString)
        else
          say 2 ("Illegal option -" ++ c.toString ++ "\n")
          setArg none
        return (← finish next (some after) '?').getD 0
      | some false =>
        setArg (some "")
        return (← finish next (some after) c).getD 0
      | some true =>
        if after.isEmpty then
          match base[next]? with
          | some v =>
            setArg (some v)
            return (← finish (next + 1) none c).getD 0
          | none =>
            if silent then
              setArg (some c.toString)
              return (← finish next none ':').getD 0
            else
              say 2 ("No arg for -" ++ c.toString ++ " option\n")
              setArg none
              return (← finish next none '?').getD 0
        else
          setArg (some (String.ofList after))
          return (← finish next none c).getD 0
  | _ =>
    builtinError "getopts" "Usage: getopts optstring var [arg...]"
    return 2

/-- The names of the signals by number, as `kill -l` and `trap` show them: `EXIT` for `0`,
the number itself for those without a name. -/
def signalNames : List String :=
  ["EXIT", "HUP", "INT", "QUIT", "ILL", "TRAP", "ABRT", "BUS", "FPE", "KILL", "USR1", "SEGV", "USR2",
   "PIPE", "ALRM", "TERM", "16", "CHLD", "CONT", "STOP", "TSTP", "TTIN", "TTOU", "URG", "XCPU",
   "XFSZ", "VTALRM", "PROF", "WINCH", "IO", "PWR", "SYS", "32", "33", "RTMIN"] ++
  (List.range 15).map (fun i => "RTMIN+" ++ toString (i + 1)) ++
  (List.range 14).map (fun i => "RTMAX-" ++ toString (14 - i)) ++ ["RTMAX"]

def signalCount : Nat := 65

def signalName (n : Nat) : String := signalNames.getD n (toString n)

/-- The signal a word names: digits below the count of signals, or a name in any case, from
signal `least` on. -/
def decodeSignal (s : String) (least : Nat) : Option Nat :=
  if !s.isEmpty && s.all Char.isDigit then
    let n := s.toNat!
    if n < signalCount then some n else none
  else
    let up := s.toUpper
    ((signalNames.zipIdx).find? fun (name, i) => least ≤ i && name == up).map (·.2)

def trapBuiltin : List String → Sh Nat := fun args => do
  let p ← getProc
  match args with
  | [] =>
    if let some a := p.exitTrap then say 1 ("trap -- " ++ shellQuoted a ++ " EXIT\n")
    let sorted := p.traps.mergeSort fun a b => a.1 ≤ b.1
    for (n, a) in sorted do say 1 ("trap -- " ++ shellQuoted a ++ " " ++ signalName n ++ "\n")
    return 0
  | "--" :: more => trapBuiltin more
  | first :: rest =>
    if first.startsWith "-" && first.length > 1 then
      builtinError "trap" ("Illegal option " ++ String.ofList (first.toList.take 2))
      throw .failure
    let (action, sigs) : Option String × List String :=
      if rest.isEmpty || (!first.isEmpty && first.all Char.isDigit) then (none, args)
      else if first == "-" then (none, rest)
      else (some first, rest)
    let rec go : List String → Sh Nat
      | [] => return 0
      | s :: more =>
        match decodeSignal s 0 with
        | none => do say 2 ("trap: " ++ s ++ ": bad trap\n"); return 1
        | some 0 => do modifyProc fun q => { q with exitTrap := action }; go more
        | some n => do
          modifyProc fun q => { q with traps := (q.traps.filter (·.1 != n)) ++
            (match action with
              | some a => [(n, a)]
              | none => []) }
          go more
    go sigs

/-- Reads the options of a builtin whose option letters are `letters`, as the shell does: the
words of letters after `-` before the first other word, `--` ending them. The letters read and
the words left, or the first letter that is no option. -/
def builtinOptions (letters : List Char) : List String → Except Char (List Char × List String)
  | [] => .ok ([], [])
  | "--" :: rest => .ok ([], rest)
  | a :: rest =>
    match a.toList with
    | '-' :: c :: more =>
      match (c :: more).find? fun d => !letters.contains d with
      | some bad => .error bad
      | none => (builtinOptions letters rest).map fun (ls, ws) => (c :: more ++ ls, ws)
    | _ => .ok ([], a :: rest)

def octalMask (mask : Nat) : String :=
  let ds := Nat.toDigits 8 mask
  String.ofList (List.replicate (4 - ds.length) '0' ++ ds)

def permLetters (bits : Nat) : String :=
  String.ofList ((if bits / 4 % 2 == 1 then ['r'] else []) ++
    (if bits / 2 % 2 == 1 then ['w'] else []) ++ (if bits % 2 == 1 then ['x'] else []))

def umaskSymbolic (mask : Nat) : String :=
  let allowed := 0o777 - mask % 0o1000
  "u=" ++ permLetters (allowed / 64) ++ ",g=" ++ permLetters (allowed / 8 % 8) ++
    ",o=" ++ permLetters (allowed % 8)

def modeClasses : Char → Option Nat
  | 'a' => some 0o111
  | 'u' => some 0o100
  | 'g' => some 0o10
  | 'o' => some 1
  | _ => none

/-- The permission a letter of a symbolic mode gives: `r`, `w` and `x` their bits, `u`, `g` and
`o` what that class was allowed before the change, `X` execute when anyone could execute. -/
def modeBits (before : Nat) : Char → Nat
  | 'r' => 4
  | 'w' => 2
  | 'x' => 1
  | 'u' => before / 64 % 8
  | 'g' => before / 8 % 8
  | 'o' => before % 8
  | 'X' => if before / 64 % 2 == 1 || before / 8 % 2 == 1 || before % 2 == 1 then 1 else 0
  | _ => 0

/-- Applies a symbolic mode such as `u=rwx,g-w` to the permissions `now`, `before` being those
before the first clause; `none` when the text is not a mode. A clause names classes (all of
them when it names none) and then operators, each with its letters; a comma starts a new
clause. -/
def applyMode (before : Nat) : Nat → Nat → Nat → List Char → Option Nat
  | 0, now, _, _ => some now
  | f + 1, now, classes, cs =>
    let who := cs.takeWhile fun c => (modeClasses c).isSome
    let classes := who.foldl (fun acc c => acc ||| (modeClasses c).getD 0) classes
    let classes := if classes == 0 then 0o111 else classes
    match cs.drop who.length with
    | [] => some now
    | op :: rest =>
      if op != '=' && op != '+' && op != '-' then none
      else
        let letters := rest.takeWhile fun c => "rwxugoXst".toList.contains c
        let bits := (letters.foldl (fun acc c => acc ||| modeBits before c) 0 % 8) * classes
        let now :=
          if op == '-' then now &&& (0o777 - bits)
          else if op == '+' then now ||| bits
          else (now &&& (0o777 - classes * 7)) ||| bits
        match rest.drop letters.length with
        | [] => some now
        | ',' :: more => applyMode before f now 0 more
        | c :: more =>
          if c == '=' || c == '+' || c == '-' then applyMode before f now classes (c :: more)
          else none

/-- `umask`: shows the mask in octal (with `-S`, as the permissions it leaves), or sets it from
octal digits or from a symbolic mode. -/
def umaskBuiltin (args : List String) : Sh Nat := do
  match builtinOptions ['S'] args with
  | .error c => builtinError "umask" ("Illegal option -" ++ c.toString); return 2
  | .ok (letters, words) =>
    let mask := (← getProc).umask
    match words with
    | [] =>
      say 1 ((if letters.isEmpty then octalMask mask else umaskSymbolic mask) ++ "\n")
      return 0
    | m :: _ =>
      let cs := m.toList
      if cs.head?.any Char.isDigit then
        if cs.all fun d => '0' ≤ d && d ≤ '7' then
          let value := cs.foldl (fun v d => 8 * v + (d.toNat - 48)) 0
          modifyProc fun q => { q with umask := value % 0o1000 }
          return 0
        else
          builtinError "umask" ("Illegal number: " ++ m)
          return 2
      else
        let before := 0o777 - mask % 0o1000
        match applyMode before (cs.length + 1) before 0 cs with
        | some allowed =>
          modifyProc fun q => { q with umask := 0o777 - allowed }
          return 0
        | none =>
          builtinError "umask" ("Illegal mode: " ++ m)
          return 2

def limitNumber (s : String) : Option Nat :=
  if s.all Char.isDigit then some (s.toList.foldl (fun v d => 10 * v + (d.toNat - 48)) 0)
  else none

def limitLe : Option Nat → Option Nat → Bool
  | _, none => true
  | none, some _ => false
  | some a, some b => a ≤ b

def limitText : Option Nat → String
  | none => "unlimited"
  | some n => toString n

/-- `ulimit`: shows a limit of the process (that of `-f` unless a letter names another, all of
them with `-a`, the hard one with `-H`) or sets it, soft and hard both unless `-S` or `-H` says
which. A soft limit above the hard one is refused, and so is raising a hard limit. -/
def ulimitBuiltin (args : List String) : Sh Nat := do
  let resources := startLimits.map (·.letter)
  match builtinOptions ('H' :: 'S' :: 'a' :: resources) args with
  | .error c => builtinError "ulimit" ("Illegal option -" ++ c.toString); return 2
  | .ok (letters, words) =>
    -- the last of -H and -S decides; neither means both
    let how := (letters.filter fun c => c == 'H' || c == 'S').getLast?
    let soft := how != some 'H'
    let hard := how != some 'S'
    let all := letters.contains 'a'
    let what := ((letters.filter fun c => resources.contains c).getLast?).getD 'f'
    let limits := (← getProc).limits
    let shown := fun (l : Limit) => limitText (if soft then l.soft else l.hard)
    match words with
    | w :: more =>
      if all || !more.isEmpty then
        builtinError "ulimit" "too many arguments"
        return 2
      let value := if w == "unlimited" then some none else (limitNumber w).map some
      match value, limits.find? (·.letter == what) with
      | none, _ =>
        builtinError "ulimit" "bad number"
        return 2
      | some _, none => return 0
      | some v, some l =>
        let newHard := if hard then v else l.hard
        let newSoft := if soft then v else l.soft
        if !limitLe newSoft newHard then
          builtinError "ulimit" "error setting limit (Invalid argument)"
          return 2
        else if !limitLe newHard l.hard then
          builtinError "ulimit" "error setting limit (Operation not permitted)"
          return 2
        else
          modifyProc fun q => { q with limits := q.limits.map fun m =>
            if m.letter == what then { m with soft := newSoft, hard := newHard } else m }
          return 0
    | [] =>
      if all then
        for l in limits do
          say 1 (l.name ++ String.ofList (List.replicate (20 - l.name.length) ' ') ++ " " ++
            shown l ++ "\n")
      else
        if let some l := limits.find? (·.letter == what) then say 1 (shown l ++ "\n")
      return 0

/-- The job a job specification names: `%n` by number, `%`, `%%` and `%+` the current job (the
last started), `%-` the one before it. Anything else names no job, since no command text is
kept without job control. -/
def findJob (jobs : List Job) (spec : String) : Except String Job :=
  let current := jobs.getLast?
  let previous := jobs.dropLast.getLast?
  match spec.toList with
  | ['%'] | ['%', '%'] | ['%', '+'] =>
    match current with
    | some j => .ok j
    | none => .error "No current job"
  | ['%', '-'] =>
    match previous with
    | some j => .ok j
    | none => .error "No previous job"
  | '%' :: ds =>
    match (if ds.all Char.isDigit then jobs.find? (toString ·.number == String.ofList ds)
        else none) with
    | some j => .ok j
    | none => .error ("No such job: " ++ spec)
  | _ => .error ("No such job: " ++ spec)

def freeJobNumber (jobs : List Job) : Nat :=
  ((List.range (jobs.length + 1)).map (· + 1)).find? (fun n => !jobs.any (·.number == n)) |>.getD 1

/-- One line of `jobs`: the number, `+` for the current job and `-` for the one before, the
process id with `-l`, and the state, padded to a column of its own. -/
def jobLine (jobs : List Job) (withPid : Bool) (clock : Nat) (j : Job) : String :=
  let mark :=
    if (jobs.getLast?.map (·.number)) == some j.number then "+"
    else if (jobs.dropLast.getLast?.map (·.number)) == some j.number then "-"
    else " "
  let head := "[" ++ toString j.number ++ "] " ++ mark ++ " " ++
    (if withPid then toString j.pid ++ " " else "")
  let state :=
    if j.waited || clock > j.endsAt then
      if j.status == 0 then "Done" else "Done(" ++ toString j.status ++ ")"
    else "Running"
  let text := head ++ state
  text ++ String.ofList (List.replicate (max 1 (33 - text.length)) ' ') ++ "\n"

/-- `jobs`: lists the jobs named, or all of them the newest first; `-l` adds process ids and
`-p` shows only those. A job shown as ended is forgotten. -/
def jobsBuiltin (args : List String) : Sh Nat := do
  match builtinOptions ['l', 'p'] args with
  | .error c => builtinError "jobs" ("Illegal option -" ++ c.toString); return 2
  | .ok (letters, specs) =>
    let mode := (letters.filter fun c => c == 'l' || c == 'p').getLast?
    let present := fun (j : Job) => do
      let p ← getProc
      let clock := (← get).clock
      if mode == some 'p' then say 1 (toString j.pid ++ "\n")
      else say 1 (jobLine p.jobs (mode == some 'l') clock j)
      if j.waited || clock > j.endsAt then
        modifyProc fun q => { q with jobs := q.jobs.filter (·.number != j.number) }
    if specs.isEmpty then
      for j in (← getProc).jobs.reverse do present j
      return 0
    for spec in specs do
      match findJob (← getProc).jobs spec with
      | .ok j => present j
      | .error e =>
        builtinError "jobs" e
        return 2
    return 0

def jobControlBuiltin (name : String) (args : List String) : Sh Nat := do
  let jobs := (← getProc).jobs
  match args with
  | [] =>
    if jobs.isEmpty then builtinError name "No current job"
    else builtinError name "job (null) not created under job control"
  | spec :: _ =>
    match findJob jobs spec with
    | .ok _ => builtinError name ("job " ++ spec ++ " not created under job control")
    | .error e => builtinError name e
  return 2

/-- `wait`: with no operand every job is seen to end and the status is `0`; otherwise the status
of the last job named, by process id or job specification, `127` for an unknown process. -/
def waitBuiltin (args : List String) : Sh Nat := do
  flushPending
  let seen := fun (n : Nat) =>
    modifyProc fun q => { q with jobs := q.jobs.map fun j =>
      if j.number == n then { j with waited := true } else j }
  if args.isEmpty then
    modifyProc fun q => { q with jobs := q.jobs.map fun j => { j with waited := true } }
    return 0
  let mut code := 0
  for a in args do
    let jobs := (← getProc).jobs
    if a.startsWith "%" then
      match findJob jobs a with
      | .ok j => seen j.number; code := j.status
      | .error e => builtinError "wait" e; return 2
    else if !a.isEmpty && a.all Char.isDigit then
      match jobs.find? (toString ·.pid == a) with
      | some j => seen j.number; code := j.status
      | none => code := 127
    else
      builtinError "wait" ("Illegal number: " ++ a)
      return 2
  return code

end Updater.Shell
